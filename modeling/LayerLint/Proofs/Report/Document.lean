import LayerLint.Proofs.Json.Decoding
import LayerLint.Proofs.Report.Canonical
import LayerLint.Report.Printer

/-! The document of a report states the report: reading it gives back every violation, character by
character and in order, and how often each rule is broken. -/

namespace LayerLint

namespace Json.Value

def member? (name : String) : Value → Option Value
  | .object ms => ms.lookup name
  | _ => none

def string? : Value → Option String
  | .string s => some s
  | _ => none

def number? : Value → Option Nat
  | .number n => some n
  | _ => none

def array? : Value → Option (List Value)
  | .array vs => some vs
  | _ => none

def object? : Value → Option (List (String × Value))
  | .object ms => some ms
  | _ => none

end Json.Value

/-- A violation as a document states it. -/
structure StatedViolation where
  file : String
  line : Nat
  ruleId : String
  severity : String
  message : String
  deriving DecidableEq, Repr

/-- What a report states: its violations, and for each rule how often it is broken. -/
structure StatedReport where
  violations : List StatedViolation
  summary : List (String × Nat)
  deriving DecidableEq, Repr

def StatedViolation.ofValue? (v : Json.Value) : Option StatedViolation := do
  return {
    file := ← (v.member? "file").bind Json.Value.string?
    line := ← (v.member? "line").bind Json.Value.number?
    ruleId := ← (v.member? "ruleId").bind Json.Value.string?
    severity := ← (v.member? "severity").bind Json.Value.string?
    message := ← (v.member? "message").bind Json.Value.string? }

def StatedReport.ofValue? (v : Json.Value) : Option StatedReport := do
  let items ← (v.member? "violations").bind Json.Value.array?
  let counts ← (v.member? "summary").bind Json.Value.object?
  return {
    violations := ← items.mapM StatedViolation.ofValue?
    summary := ← counts.mapM fun (name, n) => n.number?.map (name, ·) }

def StatedReport.ofText? (text : String) : Option StatedReport :=
  (Json.Value.ofText text).toOption.bind StatedReport.ofValue?

def Violation.stated (v : Violation) : StatedViolation :=
  ⟨v.file, v.line, v.rule.id, v.severity.name, v.message⟩

def Report.stated (r : Report) : StatedReport :=
  ⟨r.violations.map Violation.stated, r.summary.map fun (rule, n) => (rule.id, n)⟩

/-! ### The document states the report -/

theorem StatedViolation.ofValue?_violationValue (v : Violation) :
    StatedViolation.ofValue? (Report.violationValue v) = some v.stated :=
  rfl

theorem mapM_map_eq_some {α β γ : Type} {f : α → β} {g : β → Option γ} {h : α → γ}
    (each : ∀ x, g (f x) = some (h x)) (xs : List α) : (xs.map f).mapM g = some (xs.map h) := by
  induction xs with
  | nil => rfl
  | cons x xs ih => simp [each, ih]

theorem StatedReport.ofValue?_value (r : Report) :
    StatedReport.ofValue? r.value = some r.stated := by
  have violations := mapM_map_eq_some StatedViolation.ofValue?_violationValue r.violations
  have counts : (r.summary.map fun (rule, n) => (rule.id, Json.Value.number n)).mapM
      (fun (name, n) => n.number?.map (name, ·)) =
        some (r.summary.map fun (rule, n) => (rule.id, n)) := by
    apply mapM_map_eq_some
    intro entry
    rfl
  have items : (r.value.member? "violations").bind Json.Value.array? =
      some (r.violations.map Report.violationValue) := rfl
  have members : (r.value.member? "summary").bind Json.Value.object? =
      some (r.summary.map fun (rule, n) => (rule.id, .number n)) := rfl
  rw [StatedReport.ofValue?, items, members]
  simp only [Option.bind_eq_bind, Option.bind_some, violations, counts]
  rfl

/-! ### The summary -/

def countsOf (rules : List RuleId) (count : RuleId → Nat) : List (RuleId × Nat) :=
  (rules.map fun rule => (rule, count rule)).filter (0 < ·.2)

theorem countsOf_cons (next : RuleId) (rules : List RuleId) (count : RuleId → Nat) :
    countsOf (next :: rules) count =
      if 0 < count next then (next, count next) :: countsOf rules count
      else countsOf rules count := by
  simp only [countsOf, List.map_cons, List.filter_cons, decide_eq_true_eq]

theorem countsOf_congr {rules : List RuleId} {count other : RuleId → Nat}
    (same : ∀ rule ∈ rules, count rule = other rule) :
    countsOf rules count = countsOf rules other := by
  have pairs :
      rules.map (fun rule => (rule, count rule)) = rules.map fun rule => (rule, other rule) :=
    List.map_congr_left fun rule member => by rw [same rule member]
  rw [countsOf, pairs, countsOf]

theorem countOneMore_of_lt {rule : RuleId} {counts : List (RuleId × Nat)}
    (before : ∀ entry ∈ counts, rule.ctorIdx < entry.1.ctorIdx) :
    countOneMore rule counts = (rule, 1) :: counts := by
  cases counts with
  | nil => rfl
  | cons entry rest =>
      have first := before entry List.mem_cons_self
      have other : rule ≠ entry.1 := fun same => Nat.lt_irrefl _ (same ▸ first)
      rw [countOneMore, if_neg other, if_pos first]

/-- One more for a rule adds 1 to its count and leaves the other counts as they are. -/
theorem countOneMore_countsOf {rules : List RuleId}
    (ordered : rules.Pairwise fun a b => a.ctorIdx < b.ctorIdx) {rule : RuleId}
    (member : rule ∈ rules) (count : RuleId → Nat) :
    countOneMore rule (countsOf rules count) =
      countsOf rules fun other => count other + if rule = other then 1 else 0 := by
  induction rules with
  | nil => cases member
  | cons next rules ih =>
      obtain ⟨after, ordered⟩ := List.pairwise_cons.mp ordered
      rw [countsOf_cons, countsOf_cons]
      by_cases same : rule = next
      · subst same
        have rest : countsOf rules (fun other => count other + if rule = other then 1 else 0) =
            countsOf rules count := by
          refine countsOf_congr fun other there => ?_
          have apart : rule ≠ other := fun same => Nat.lt_irrefl _ (same ▸ after other there)
          rw [if_neg apart, Nat.add_zero]
        rw [if_pos rfl, if_pos (Nat.succ_pos _), rest]
        split
        · rw [countOneMore, if_pos rfl]
        · next zero =>
            rw [Nat.eq_zero_of_not_pos zero]
            refine countOneMore_of_lt fun entry there => ?_
            obtain ⟨other, listed, rfl⟩ := List.mem_map.mp (List.mem_filter.mp there).1
            exact after other listed
      · have later := (List.mem_cons.mp member).resolve_left same
        rw [if_neg same, Nat.add_zero, ← ih ordered later]
        split
        · have behind : ¬ rule.ctorIdx < next.ctorIdx := Nat.lt_asymm (after rule later)
          rw [countOneMore, if_neg same, if_neg behind]
        · rfl

/-- Counting up violation by violation gives every rule its count. -/
theorem foldl_countOneMore (vs : List Violation) (count : RuleId → Nat) :
    vs.foldl (fun counts v => countOneMore v.rule counts) (countsOf RuleId.all count) =
      countsOf RuleId.all fun rule => count rule + vs.countP (·.rule == rule) := by
  have ordered : RuleId.all.Pairwise fun a b => a.ctorIdx < b.ctorIdx := by decide
  induction vs generalizing count with
  | nil => rfl
  | cons v vs ih =>
      have all : v.rule ∈ RuleId.all := by cases v.rule <;> decide
      rw [List.foldl_cons, countOneMore_countsOf ordered all, ih]
      refine countsOf_congr fun rule _ => ?_
      simp only [List.countP_cons, beq_iff_eq]
      omega

namespace Report

theorem summary_eq (r : Report) : r.summary = countsOf RuleId.all r.countOfRule := by
  calc r.summary
      = countsOf RuleId.all fun rule => 0 + r.countOfRule rule :=
        foldl_countOneMore r.violations fun _ => 0
    _ = countsOf RuleId.all r.countOfRule := countsOf_congr fun _ _ => Nat.zero_add _

theorem mem_summary {r : Report} {rule : RuleId} {n : Nat} :
    (rule, n) ∈ r.summary ↔ n = r.countOfRule rule ∧ ∃ v ∈ r.violations, v.rule = rule := by
  have all : rule ∈ RuleId.all := by cases rule <;> decide
  have some : 0 < r.countOfRule rule ↔ ∃ v ∈ r.violations, v.rule = rule := by
    simp only [countOfRule, List.countP_pos_iff, beq_iff_eq]
  rw [summary_eq, countsOf, List.mem_filter, List.mem_map, decide_eq_true_eq, ← some]
  constructor
  · rintro ⟨⟨rule, -, same⟩, positive⟩
    obtain ⟨rfl, rfl⟩ := Prod.mk.inj same
    exact ⟨rfl, positive⟩
  · rintro ⟨rfl, positive⟩
    exact ⟨⟨rule, all, rfl⟩, positive⟩

/-- The summary is in the order of the ids, and so has each rule once. -/
theorem summary_ordered (r : Report) :
    (r.summary.map fun (rule, _) => rule.id).Pairwise (· < ·) := by
  have all : RuleId.all.Pairwise fun a b => a.id < b.id := by decide
  rw [summary_eq, List.pairwise_map]
  refine List.Pairwise.filter _ (List.pairwise_map.mpr ?_)
  exact all

theorem spellsDocument_json (r : Report) : Json.SpellsDocument r.value r.json := by
  have lineEnd : Json.Blanks ['\n'] := Json.blanks_newLine 0
  refine ⟨[], Json.write 0 r.value, ['\n'], Json.blanks_nil, Json.spells_write 0 r.value, lineEnd,
    ?_⟩
  rw [json, Json.Value.text, String.toList_append, String.toList_ofList]
  rfl

/-- The document of a report states the report. Its text is one document with a line end after it,
and no other document is spelled so. What is read from it are the violations in order, each with
its file, line, rule, severity and message, and for every rule that is broken, in the order of the
ids, how often it is. -/
theorem json_states_report (results : List (String × List Violation)) (filesScanned : Nat) :
    let r := Report.ofResults results filesScanned
    (∃ doc, r.json = doc ++ "\n" ∧ Json.Spells r.value doc.toList) ∧
      (∀ v, Json.SpellsDocument v r.json → v = r.value) ∧
      ∃ stated, StatedReport.ofText? r.json = some stated ∧
        stated.violations = r.violations.map Violation.stated ∧
        (stated.summary.map Prod.fst).Pairwise (· < ·) ∧
        ∀ id n, (id, n) ∈ stated.summary ↔
          ∃ rule : RuleId, rule.id = id ∧ (∃ v ∈ r.violations, v.rule = rule) ∧
            n = r.violations.countP (·.rule == rule) := by
  intro r
  have document := r.spellsDocument_json
  refine ⟨⟨r.value.text, rfl, ?_⟩, fun v other => other.unique document, r.stated, ?_, rfl, ?_, ?_⟩
  · rw [Json.Value.text, String.toList_ofList]
    exact Json.spells_write 0 r.value
  · rw [StatedReport.ofText?, Json.Value.ofText_of_spellsDocument document]
    exact StatedReport.ofValue?_value r
  · rw [stated, List.map_map]
    exact r.summary_ordered
  · intro id n
    simp only [stated, List.mem_map, Prod.exists, Prod.mk.injEq, mem_summary]
    constructor
    · rintro ⟨rule, n, ⟨count, broken⟩, rfl, rfl⟩
      exact ⟨rule, rfl, broken, count⟩
    · rintro ⟨rule, rfl, broken, count⟩
      exact ⟨rule, n, ⟨count, broken⟩, rfl, rfl⟩

end Report

end LayerLint
