import LayerLint.Rule.Evaluate
import Mathlib.Data.List.Basic

/-! What a rule reports in a class. A rule is triggered at places of the class, and it reports each
line on which it is triggered once, at the first place on the line and in the order of these
places. -/

namespace LayerLint

/-! ### Elements at places -/

/-- The number of an import or of a method, followed by the number of a part of the method. -/
abbrev Place := List Nat

section

variable {α β : Type}

/-- A list of what stands at places, in the order of the places. -/
def ByPlace (Stands : Place → β → Prop) (listed : List β) : Prop :=
  ∃ placed : List (Place × β), placed.map Prod.snd = listed ∧
    (placed.map Prod.fst).Pairwise (· < ·) ∧
    ∀ place b, (place, b) ∈ placed ↔ Stands place b

theorem ByPlace.congr {Stands Stands' : Place → β → Prop} {listed : List β}
    (order : ByPlace Stands listed) (same : ∀ place b, Stands place b ↔ Stands' place b) :
    ByPlace Stands' listed := by
  obtain ⟨placed, values, ordered, stands⟩ := order
  refine ⟨placed, values, ordered, ?_⟩
  intro place b
  exact (stands place b).trans (same place b)

theorem ByPlace.mem_iff {Stands : Place → β → Prop} {listed : List β}
    (order : ByPlace Stands listed) {b : β} : b ∈ listed ↔ ∃ place, Stands place b := by
  obtain ⟨placed, rfl, -, stands⟩ := order
  simp only [List.mem_map, Prod.exists, exists_eq_right, stands]

theorem byPlace_nil {Stands : Place → β → Prop} (nowhere : ∀ place b, ¬ Stands place b) :
    ByPlace Stands [] := by
  refine ⟨[], rfl, .nil, ?_⟩
  intro place b
  simp [nowhere place b]

theorem byPlace_single (b : β) : ByPlace (fun place x => place = [] ∧ x = b) [b] := by
  refine ⟨[([], b)], rfl, List.pairwise_singleton _ _, ?_⟩
  intro place x
  simp

/-- The parts of the elements of a list stand below the numbers of the elements. -/
def StandsBelow (first : Nat) (l : List α) (Stands : α → Place → β → Prop) (place : Place) (b : β) :
    Prop :=
  ∃ i below a, place = (first + i) :: below ∧ l[i]? = some a ∧ Stands a below b

theorem byPlace_flatMap {parts : α → List β} {Stands : α → Place → β → Prop}
    (order : ∀ a, ByPlace (Stands a) (parts a)) (l : List α) (first : Nat) :
    ByPlace (StandsBelow first l Stands) (l.flatMap parts) := by
  induction l generalizing first with
  | nil =>
      apply byPlace_nil
      rintro place b ⟨i, below, a, -, there, -⟩
      cases there
  | cons a l ih =>
      obtain ⟨here, values, ordered, stands⟩ := order a
      obtain ⟨later, values', ordered', stands'⟩ := ih (first + 1)
      refine ⟨here.map (fun x => (first :: x.1, x.2)) ++ later, ?_, ?_, ?_⟩
      · rw [List.map_append, List.map_map, List.flatMap_cons, values', ← values]
        rfl
      · rw [List.map_append, List.map_map, List.pairwise_append]
        refine ⟨?_, ordered', ?_⟩
        · rw [List.pairwise_map] at ordered ⊢
          refine ordered.imp ?_
          intro x y before
          exact List.cons_lt_cons_iff.mpr (.inr ⟨rfl, before⟩)
        · intro p left q right
          obtain ⟨x, -, rfl⟩ := List.mem_map.mp left
          obtain ⟨⟨_, b⟩, member, rfl⟩ := List.mem_map.mp right
          obtain ⟨i, below, c, rfl, -, -⟩ := (stands' _ b).mp member
          refine List.cons_lt_cons_iff.mpr (.inl ?_)
          omega
      · intro place b
        rw [List.mem_append, stands']
        constructor
        · rintro (member | ⟨i, below, c, rfl, there, part⟩)
          · obtain ⟨⟨below, _⟩, part, same⟩ := List.mem_map.mp member
            obtain ⟨rfl, rfl⟩ := Prod.mk.inj same
            exact ⟨0, below, a, rfl, rfl, (stands _ _).mp part⟩
          · exact ⟨i + 1, below, c, by rw [Nat.add_right_comm, Nat.add_assoc], there, part⟩
        · rintro ⟨i, below, c, rfl, there, part⟩
          cases i with
          | zero =>
              obtain rfl := Option.some.inj there
              exact .inl (List.mem_map.mpr ⟨(below, b), (stands _ _).mpr part, rfl⟩)
          | succ i =>
              exact .inr ⟨i, below, c, by rw [Nat.add_right_comm, Nat.add_assoc], there, part⟩

theorem byPlace_filter_flatMap {parts : α → List β} {Stands : α → Place → β → Prop}
    (order : ∀ a, ByPlace (Stands a) (parts a)) (keep : α → Bool) (l : List α) :
    ByPlace (StandsBelow 0 l fun a place b => keep a = true ∧ Stands a place b)
      ((l.filter keep).flatMap parts) := by
  have kept :
      (l.filter keep).flatMap parts = l.flatMap fun a => if keep a then parts a else [] := by
    induction l with
    | nil => rfl
    | cons a l ih => cases keeps : keep a <;> simp [keeps, ih]
  rw [kept]
  apply byPlace_flatMap
  intro a
  cases keeps : keep a with
  | false => exact byPlace_nil (by simp)
  | true => exact (order a).congr (by simp)

theorem byPlace_filter_map (keep : α → Bool) (f : α → β) (l : List α) :
    ByPlace (fun place b => ∃ n a, place = [n] ∧ l[n]? = some a ∧ keep a = true ∧ b = f a)
      ((l.filter keep).map f) := by
  rw [List.map_eq_flatMap]
  refine (byPlace_filter_flatMap (fun a => byPlace_single (f a)) keep l).congr ?_
  intro place b
  constructor
  · rintro ⟨n, below, a, rfl, there, kept, rfl, rfl⟩
    exact ⟨n, a, by rw [Nat.zero_add], there, kept, rfl⟩
  · rintro ⟨n, a, rfl, there, kept, rfl⟩
    exact ⟨n, [], a, by rw [Nat.zero_add], there, kept, rfl, rfl⟩

theorem byPlace_parts {κ : Type} (keep : α → Bool) (parts : α → List κ) (keepPart : κ → Bool)
    (f : α → κ → β) (l : List α) :
    ByPlace (fun place b => ∃ n k a x, place = [n, k] ∧ l[n]? = some a ∧ keep a = true ∧
        (parts a)[k]? = some x ∧ keepPart x = true ∧ b = f a x)
      ((l.filter keep).flatMap fun a => ((parts a).filter keepPart).map (f a)) := by
  refine (byPlace_filter_flatMap (fun a => byPlace_filter_map keepPart (f a) (parts a)) keep
    l).congr ?_
  intro place b
  constructor
  · rintro ⟨n, below, a, rfl, there, kept, k, x, rfl, part, keptPart, rfl⟩
    exact ⟨n, k, a, x, by rw [Nat.zero_add], there, kept, part, keptPart, rfl⟩
  · rintro ⟨n, k, a, x, rfl, there, kept, part, keptPart, rfl⟩
    exact ⟨n, [k], a, by rw [Nat.zero_add], there, kept, k, x, rfl, part, keptPart, rfl⟩

end

/-! ### The first place on a line -/

/-- What stands at the first of the places on its line. -/
def FirstOnLine (Stands : Place → Site → Prop) (place : Place) (s : Site) : Prop :=
  Stands place s ∧ ∀ earlier t, Stands earlier t → earlier < place → t.line ≠ s.line

theorem byPlace_firstOnEachLine {Stands : Place → Site → Prop} {ss : List Site}
    (order : ByPlace Stands ss) : ByPlace (FirstOnLine Stands) (firstOnEachLine ss) := by
  obtain ⟨placed, rfl, ordered, stands⟩ := order
  -- The sites are cut down to the first ones on their lines together with their places.
  suffices firsts : ∃ kept : List (Place × Site), kept.Sublist placed ∧
      kept.map Prod.snd = firstOnEachLine (placed.map Prod.snd) ∧
      ∀ x, x ∈ kept ↔ x ∈ placed ∧ ∀ y ∈ placed, y.1 < x.1 → y.2.line ≠ x.2.line by
    obtain ⟨kept, sublist, values, first⟩ := firsts
    refine ⟨kept, values, ordered.sublist (sublist.map _), ?_⟩
    intro place s
    simp only [first, FirstOnLine, stands, Prod.forall]
  clear stands
  induction placed with
  | nil => exact ⟨[], List.Sublist.refl _, rfl, by simp⟩
  | cons x placed ih =>
      obtain ⟨before, ordered⟩ := List.pairwise_cons.mp ordered
      obtain ⟨kept, sublist, values, first⟩ := ih ordered
      have before : ∀ y ∈ placed, x.1 < y.1 := fun y member =>
        before y.1 (List.mem_map_of_mem member)
      refine ⟨x :: kept.filter (·.2.line != x.2.line),
        (List.filter_sublist.trans sublist).cons_cons x, ?_, ?_⟩
      · rw [List.map_cons, List.map_cons, firstOnEachLine, ← values, List.filter_map]
        rfl
      · intro y
        simp only [List.mem_cons, List.mem_filter, first, bne_iff_ne]
        constructor
        · rintro (rfl | ⟨⟨member, alone⟩, other⟩)
          · refine ⟨.inl rfl, ?_⟩
            rintro z (rfl | later) less
            · exact absurd less (List.lt_irrefl _)
            · exact absurd less (List.lt_asymm (before z later))
          · refine ⟨.inr member, ?_⟩
            rintro z (rfl | later) less
            · exact Ne.symm other
            · exact alone z later less
        · rintro ⟨rfl | member, alone⟩
          · exact .inl rfl
          · refine .inr ⟨⟨member, fun z later => alone z (.inr later)⟩, ?_⟩
            exact Ne.symm (alone x (.inl rfl) (before y member))

theorem mem_lines_firstOnEachLine {ss : List Site} {n : Nat} :
    n ∈ (firstOnEachLine ss).map Site.line ↔ n ∈ ss.map Site.line := by
  induction ss with
  | nil => rfl
  | cons s ss ih =>
      have rest : n ∈ ((firstOnEachLine ss).filter (·.line != s.line)).map Site.line ↔
          n ∈ (firstOnEachLine ss).map Site.line ∧ n ≠ s.line := by
        simp only [List.mem_map, List.mem_filter, bne_iff_ne]
        constructor
        · rintro ⟨site, ⟨member, other⟩, rfl⟩
          exact ⟨⟨site, member, rfl⟩, other⟩
        · rintro ⟨⟨site, member, rfl⟩, other⟩
          exact ⟨site, ⟨member, other⟩, rfl⟩
      rw [firstOnEachLine, List.map_cons, List.map_cons, List.mem_cons, List.mem_cons, rest, ih]
      tauto

theorem nodup_lines_firstOnEachLine (ss : List Site) :
    ((firstOnEachLine ss).map Site.line).Nodup := by
  induction ss with
  | nil => exact .nil
  | cons s ss ih =>
      rw [firstOnEachLine, List.map_cons, List.nodup_cons]
      refine ⟨?_, ih.sublist (List.filter_sublist.map _)⟩
      intro again
      obtain ⟨site, member, same⟩ := List.mem_map.mp again
      exact absurd same (bne_iff_ne.mp (List.mem_filter.mp member).2)

/-! ### When a rule is triggered -/

namespace Policy

variable (p : Policy)

def Tests (m : Method) : Prop :=
  ∃ a ∈ m.annotations, a.name ∈ p.testAnnotations

/-- A call without a receiver asserts by its callee, any other one by its receiver. -/
def Asserts (call : Call) : Prop :=
  call.receiver = "" ∧ (∃ pattern ∈ p.assertionCallees, pattern.matchesName call.callee = true) ∨
    call.receiver ≠ "" ∧ ∃ pattern ∈ p.assertionReceivers,
      pattern.matchesCall call.receiver call.callee = true

def Drives (call : Call) : Prop :=
  (∃ pattern ∈ p.driverReceivers, pattern.matchesCall call.receiver call.callee = true) ∧
    ∀ pattern ∈ p.exemptReceivers, pattern.matchesCall call.receiver call.callee = false

def Reveals (l : Literal) : Prop :=
  l.kind = .string ∧ 5 ≤ l.value.length ∧ ∃ regex ∈ p.sensitiveData, regex.fits l.value = true

def NamesPoorly (name : String) : Prop :=
  (∃ regex ∈ p.genericTestNames, regex.fits name = true) ∨
    Text.descriptiveWords name < p.namingMinWords

variable {p}

theorem isTest_iff {m : Method} : p.isTest m = true ↔ p.Tests m := by
  simp only [isTest, marksTest, Tests, List.any_eq_true, List.contains_iff_mem]

theorem isAssertion_iff {call : Call} : p.isAssertion call = true ↔ p.Asserts call := by
  unfold isAssertion Asserts
  by_cases bare : call.receiver = ""
  · simp [bare]
  · rw [if_neg (by simpa using bare)]
    simp [bare]

theorem drivesDirectly_iff {call : Call} : p.drivesDirectly call = true ↔ p.Drives call := by
  simp only [drivesDirectly, Drives, Bool.and_eq_true, Bool.not_eq_true', List.any_eq_true,
    List.any_eq_false, Bool.not_eq_true]

theorem isSensitive_iff {l : Literal} : p.isSensitive l = true ↔ p.Reveals l := by
  simp only [isSensitive, Bool.and_eq_true, beq_iff_eq, decide_eq_true_eq, List.any_eq_true,
    and_assoc]
  rfl

theorem isPoorName_iff {name : String} : p.isPoorName name = true ↔ p.NamesPoorly name := by
  simp only [isPoorName, NamesPoorly, Bool.or_eq_true, List.any_eq_true, decide_eq_true_eq]

theorem inTestFramework_iff {name : String} :
    p.inTestFramework name = true ↔
      ∃ space ∈ p.testFrameworkImports, liesInNamespace name space = true :=
  List.any_eq_true

end Policy

/-- A rule is triggered at a place of a class, on a line and with a message. -/
inductive RuleId.Triggers (p : Policy) (c : ClassModel) : RuleId → Place → Site → Prop
  | forbiddenImport {n : Nat} {i : Import} (stands : c.imports[n]? = some i)
      (framework : ∃ space ∈ p.testFrameworkImports, liesInNamespace i.name space = true) :
      Triggers p c .forbiddenImport [n]
        ⟨i.line, s!"Page Object imports test framework '{i.name}'; test frameworks belong in " ++
          "the test definition layer"⟩
  | assertionInPom {n k : Nat} {m : Method} {call : Call} (method : c.methods[n]? = some m)
      (stands : m.calls[k]? = some call) (asserts : p.Asserts call) :
      Triggers p c .assertionInPom [n, k]
        ⟨call.line,
          s!"Page Object method '{m.name}' calls assertion '{callName call}'; return the value " ++
          "and let the test verify it"⟩
  | businessLogicInPom {n k : Nat} {m : Method} {b : Branch} (method : c.methods[n]? = some m)
      (stands : m.branches[k]? = some b) :
      Triggers p c .businessLogicInPom [n, k]
        ⟨b.line, s!"Page Object method '{m.name}' contains {b.construct}; move the logic to a " ++
          "separate service layer"⟩
  | adaptationInDefinition {n k : Nat} {m : Method} {call : Call}
      (method : c.methods[n]? = some m) (test : p.Tests m) (stands : m.calls[k]? = some call)
      (drives : p.Drives call) :
      Triggers p c .adaptationInDefinition [n, k]
        ⟨call.line, s!"Test method '{m.name}' calls '{call.receiver}.{call.callee}' directly; " ++
          "drive the application through a Page Object"⟩
  | hardcodedTestData {n k : Nat} {m : Method} {l : Literal} (method : c.methods[n]? = some m)
      (test : p.Tests m) (stands : m.literals[k]? = some l) (reveals : p.Reveals l) :
      Triggers p c .hardcodedTestData [n, k]
        ⟨l.line,
          s!"Hardcoded test data '{l.value}' passed to '{l.callee}'; move test data out of " ++
          "the test definition"⟩
  | poorTestNaming {n : Nat} {m : Method} (method : c.methods[n]? = some m) (test : p.Tests m)
      (poor : p.NamesPoorly m.name) :
      Triggers p c .poorTestNaming [n]
        ⟨m.firstLine,
          s!"Test name '{m.name}' is not descriptive; name the behavior being verified"⟩
  | longTestFunction {n : Nat} {m : Method} (method : c.methods[n]? = some m) (test : p.Tests m)
      (long : p.maxMethodLines < m.bodyLines) :
      Triggers p c .longTestFunction [n]
        ⟨m.firstLine, s!"Test method '{m.name}' has {m.bodyLines} lines (limit: " ++
          s!"{p.maxMethodLines}); long tests are hard to read and maintain"⟩

/-- The sites of a rule are the places where it is triggered. -/
theorem RuleId.byPlace_sites (p : Policy) (c : ClassModel) (rule : RuleId) :
    ByPlace (rule.Triggers p c) (rule.sites p c) := by
  cases rule with
  | forbiddenImport =>
      refine (byPlace_filter_map _ _ c.imports).congr ?_
      intro place s
      constructor
      · rintro ⟨n, i, rfl, stands, framework, rfl⟩
        exact .forbiddenImport stands (Policy.inTestFramework_iff.mp framework)
      · intro triggers
        cases triggers with
        | forbiddenImport stands framework =>
            exact ⟨_, _, rfl, stands, Policy.inTestFramework_iff.mpr framework, rfl⟩
  | assertionInPom =>
      have order := fun site : Method → Call → Site =>
        byPlace_parts (fun _ => true) Method.calls p.isAssertion site c.methods
      simp only [List.filter_true] at order
      refine (order _).congr ?_
      intro place s
      constructor
      · rintro ⟨n, k, m, call, rfl, method, -, stands, asserts, rfl⟩
        exact .assertionInPom method stands (Policy.isAssertion_iff.mp asserts)
      · intro triggers
        cases triggers with
        | assertionInPom method stands asserts =>
            exact ⟨_, _, _, _, rfl, method, trivial, stands, Policy.isAssertion_iff.mpr asserts,
              rfl⟩
  | businessLogicInPom =>
      have order := fun site : Method → Branch → Site =>
        byPlace_parts (fun _ => true) Method.branches (fun _ => true) site c.methods
      simp only [List.filter_true] at order
      refine (order _).congr ?_
      intro place s
      constructor
      · rintro ⟨n, k, m, b, rfl, method, -, stands, -, rfl⟩
        exact .businessLogicInPom method stands
      · intro triggers
        cases triggers with
        | businessLogicInPom method stands =>
            exact ⟨_, _, _, _, rfl, method, trivial, stands, trivial, rfl⟩
  | adaptationInDefinition =>
      refine (byPlace_parts p.isTest Method.calls p.drivesDirectly _ c.methods).congr ?_
      intro place s
      constructor
      · rintro ⟨n, k, m, call, rfl, method, test, stands, drives, rfl⟩
        exact .adaptationInDefinition method (Policy.isTest_iff.mp test) stands
          (Policy.drivesDirectly_iff.mp drives)
      · intro triggers
        cases triggers with
        | adaptationInDefinition method test stands drives =>
            exact ⟨_, _, _, _, rfl, method, Policy.isTest_iff.mpr test, stands,
              Policy.drivesDirectly_iff.mpr drives, rfl⟩
  | hardcodedTestData =>
      refine (byPlace_parts p.isTest Method.literals p.isSensitive _ c.methods).congr ?_
      intro place s
      constructor
      · rintro ⟨n, k, m, l, rfl, method, test, stands, reveals, rfl⟩
        exact .hardcodedTestData method (Policy.isTest_iff.mp test) stands
          (Policy.isSensitive_iff.mp reveals)
      · intro triggers
        cases triggers with
        | hardcodedTestData method test stands reveals =>
            exact ⟨_, _, _, _, rfl, method, Policy.isTest_iff.mpr test, stands,
              Policy.isSensitive_iff.mpr reveals, rfl⟩
  | poorTestNaming =>
      refine (byPlace_filter_map _ _ c.methods).congr ?_
      intro place s
      constructor
      · rintro ⟨n, m, rfl, method, poor, rfl⟩
        obtain ⟨test, poor⟩ := Bool.and_eq_true_iff.mp poor
        exact .poorTestNaming method (Policy.isTest_iff.mp test) (Policy.isPoorName_iff.mp poor)
      · intro triggers
        cases triggers with
        | poorTestNaming method test poor =>
            have kept := Bool.and_eq_true_iff.mpr
              ⟨Policy.isTest_iff.mpr test, Policy.isPoorName_iff.mpr poor⟩
            exact ⟨_, _, rfl, method, kept, rfl⟩
  | longTestFunction =>
      refine (byPlace_filter_map _ _ c.methods).congr ?_
      intro place s
      constructor
      · rintro ⟨n, m, rfl, method, long, rfl⟩
        obtain ⟨test, long⟩ := Bool.and_eq_true_iff.mp long
        exact .longTestFunction method (Policy.isTest_iff.mp test) (of_decide_eq_true long)
      · intro triggers
        cases triggers with
        | longTestFunction method test long =>
            have kept := Bool.and_eq_true_iff.mpr ⟨Policy.isTest_iff.mpr test, decide_eq_true long⟩
            exact ⟨_, _, rfl, method, kept, rfl⟩
  | missingLayerStructure => exact byPlace_nil nofun
  | parseError => exact byPlace_nil nofun

/-- A rule reports nothing in a class of another layer. In a class of its own layer it reports the
lines on which it is triggered and no others, each one once, in the order of the first places on
them and with the messages of these places. -/
theorem RuleId.evaluate_exact_by_line (p : Policy) (file : String) (layer : Layer) (c : ClassModel)
    (rule : RuleId) :
    (rule.layer? ≠ some layer → rule.evaluate p file layer c = []) ∧
    (rule.layer? = some layer →
      (∀ n, n ∈ (rule.evaluate p file layer c).map Violation.line ↔
        ∃ place s, rule.Triggers p c place s ∧ s.line = n) ∧
      ((rule.evaluate p file layer c).map Violation.line).Nodup ∧
      ∃ firsts, ByPlace (FirstOnLine (rule.Triggers p c)) firsts ∧
        rule.evaluate p file layer c = firsts.map fun s => ⟨file, s.line, rule, s.message⟩) ∧
    ∀ v ∈ rule.evaluate p file layer c, v.severity = rule.severity := by
  refine ⟨?_, ?_, ?_⟩
  · intro other
    rw [evaluate, if_neg other]
  · intro same
    have reported : rule.evaluate p file layer c =
        (firstOnEachLine (rule.sites p c)).map fun s => ⟨file, s.line, rule, s.message⟩ := by
      rw [evaluate, if_pos same]
    have lines : (rule.evaluate p file layer c).map Violation.line =
        (firstOnEachLine (rule.sites p c)).map Site.line := by
      rw [reported, List.map_map]
      rfl
    have order := byPlace_sites p c rule
    rw [lines]
    refine ⟨?_, nodup_lines_firstOnEachLine _, _, byPlace_firstOnEachLine order, reported⟩
    intro n
    rw [mem_lines_firstOnEachLine, List.mem_map]
    constructor
    · rintro ⟨s, member, rfl⟩
      obtain ⟨place, triggers⟩ := order.mem_iff.mp member
      exact ⟨place, s, triggers, rfl⟩
    · rintro ⟨place, s, triggers, rfl⟩
      exact ⟨s, order.mem_iff.mpr ⟨place, triggers⟩, rfl⟩
  · intro v member
    unfold evaluate at member
    split at member
    · obtain ⟨s, -, rfl⟩ := List.mem_map.mp member
      rfl
    · cases member

end LayerLint
