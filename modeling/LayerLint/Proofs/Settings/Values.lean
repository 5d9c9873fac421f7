import LayerLint.Proofs.Json.Remainder

/-! Settings and their values. Settings are determined by the values of their keys, and a value is
read for a key if some settings have it there. -/

namespace LayerLint

theorem RuleId.ofString?_id (rule : RuleId) : RuleId.ofString? rule.id = some rule := by
  cases rule <;> decide +kernel

namespace Settings

open Json

/-! ### Settings and their values -/

/-- The settings with the value that `other` has for one of them. -/
def adopt (other s : Settings) : Key → Settings
  | .enabledRules => { s with enabledRules := other.enabledRules }
  | .disabledRules => { s with disabledRules := other.disabledRules }
  | .maxMethodLines => { s with maxMethodLines := other.maxMethodLines }
  | .namingMinWords => { s with namingMinWords := other.namingMinWords }
  | .extensions => { s with extensions := other.extensions }
  | .ignores => { s with ignores := other.ignores }
  | .excludedDirs => { s with excludedDirs := other.excludedDirs }
  | .pageDirs => { s with pageDirs := other.pageDirs }
  | .testDirs => { s with testDirs := other.testDirs }
  | .testAnnotations => { s with testAnnotations := other.testAnnotations }
  | .testFrameworkImports => { s with testFrameworkImports := other.testFrameworkImports }
  | .assertionReceivers => { s with assertionReceivers := other.assertionReceivers }
  | .assertionCallees => { s with assertionCallees := other.assertionCallees }
  | .driverReceivers => { s with driverReceivers := other.driverReceivers }
  | .exemptReceivers => { s with exemptReceivers := other.exemptReceivers }
  | .sensitiveDataPatterns => { s with sensitiveDataPatterns := other.sensitiveDataPatterns }
  | .genericTestNames => { s with genericTestNames := other.genericTestNames }
  | .fileTimeoutMs => { s with fileTimeoutMs := other.fileTimeoutMs }
  | .maxFileBytes => { s with maxFileBytes := other.maxFileBytes }
  | .maxNesting => { s with maxNesting := other.maxNesting }

/-- Settings are determined by the values of all keys. -/
theorem foldl_adopt_all (other s : Settings) : Key.all.foldl (adopt other) s = other := by
  simp only [Key.all, List.foldl_cons, List.foldl_nil, adopt]

theorem Key.ofName?_name (k : Key) : Key.ofName? k.name = some k := by
  cases k <;> decide +kernel

theorem Key.nodup_all : Key.all.Nodup := by
  decide

def NamesRules (v : Value) (rules : List RuleId) : Prop :=
  ∃ names, v = .strings names ∧ names.map RuleId.ofString? = rules.map some

def Has (s : Settings) (k : Key) (v : Value) : Prop :=
  match k with
  | .enabledRules => NamesRules v s.enabledRules
  | .disabledRules => NamesRules v s.disabledRules
  | k => v = s.valueOf k

theorem namesRules_ids (rules : List RuleId) :
    NamesRules (.strings (rules.map RuleId.id)) rules := by
  refine ⟨_, rfl, ?_⟩
  rw [List.map_map]
  exact List.map_congr_left fun rule _ => rule.ofString?_id

theorem has_valueOf (s : Settings) (k : Key) : s.Has k (s.valueOf k) := by
  cases k with
  | enabledRules => exact namesRules_ids s.enabledRules
  | disabledRules => exact namesRules_ids s.disabledRules
  | _ => rfl

theorem strings_injective {xs ys : List String} (same : Value.strings xs = Value.strings ys) :
    xs = ys :=
  List.map_injective_iff.mpr (fun _ _ => Value.string.inj) (Value.array.inj same)

theorem ids_injective {xs ys : List RuleId}
    (same : Value.strings (xs.map RuleId.id) = Value.strings (ys.map RuleId.id)) : xs = ys := by
  refine List.map_injective_iff.mpr (fun rule other eq => ?_) (strings_injective same)
  have id := rule.ofString?_id
  rw [eq, other.ofString?_id] at id
  exact (Option.some.inj id).symm

theorem adopt_congr {s t : Settings} {k : Key} (same : s.valueOf k = t.valueOf k)
    (start : Settings) : adopt s start k = adopt t start k := by
  cases k with
  | enabledRules | disabledRules =>
      simp only [adopt]
      rw [ids_injective same]
  | maxMethodLines | namingMinWords | fileTimeoutMs | maxFileBytes | maxNesting =>
      simp only [adopt]
      rw [UInt64.toNat_inj.mp (Value.number.inj same)]
  | _ =>
      simp only [adopt]
      rw [strings_injective same]

/-- Settings are determined by their values. -/
theorem eq_of_valueOf {s t : Settings} (same : ∀ k, s.valueOf k = t.valueOf k) : s = t := by
  rw [← foldl_adopt_all s {}, ← foldl_adopt_all t {}]
  congr 1
  funext start k
  exact adopt_congr (same k) start

theorem valueOf_adopt (other s : Settings) (k l : Key) :
    (adopt other s k).valueOf l = if l = k then other.valueOf l else s.valueOf l := by
  cases k <;> cases l <;> rfl

theorem valueOf_foldl_adopt (other s : Settings) (keys : List Key) (l : Key) :
    (keys.foldl (adopt other) s).valueOf l =
      if l ∈ keys then other.valueOf l else s.valueOf l := by
  induction keys generalizing s with
  | nil => rfl
  | cons k keys ih =>
      rw [List.foldl_cons, ih, valueOf_adopt]
      by_cases here : l = k <;> by_cases later : l ∈ keys <;> simp [here, later]

/-- Settings that are at their defaults, apart from some keys, come of the values of these keys. -/
theorem foldl_adopt_eq {s : Settings} {keys : List Key}
    (absent : ∀ k, k ∉ keys → s.valueOf k = ({} : Settings).valueOf k) :
    keys.foldl (adopt s) {} = s := by
  apply eq_of_valueOf
  intro k
  rw [valueOf_foldl_adopt]
  split
  · rfl
  · next other => exact (absent k other).symm

theorem Has.congr {s t : Settings} {k : Key} {v : Value} (has : s.Has k v)
    (same : t.valueOf k = s.valueOf k) : t.Has k v := by
  cases k with
  | enabledRules | disabledRules =>
      unfold Has at has ⊢
      rwa [ids_injective same]
  | _ => exact has.trans same.symm

/-- Values of different keys are the values of some settings. -/
theorem exists_settings {values : List (Key × Value)} (distinct : (values.map Prod.fst).Nodup)
    (typed : ∀ kv ∈ values, ∃ s : Settings, s.Has kv.1 kv.2) :
    ∃ s : Settings, (∀ kv ∈ values, s.Has kv.1 kv.2) ∧
      ∀ k ∉ values.map Prod.fst, s.valueOf k = ({} : Settings).valueOf k := by
  induction values with
  | nil => exact ⟨{}, List.forall_mem_nil _, fun _ _ => rfl⟩
  | cons kv values ih =>
      obtain ⟨⟨other, own⟩, typed⟩ := List.forall_mem_cons.mp typed
      obtain ⟨new, distinct⟩ := List.nodup_cons.mp distinct
      obtain ⟨s, has, absent⟩ := ih distinct typed
      refine ⟨adopt other s kv.1, List.forall_mem_cons.mpr ⟨own.congr ?_, fun lw member => ?_⟩,
        fun l none => ?_⟩
      · rw [valueOf_adopt, if_pos rfl]
      · have differ : lw.1 ≠ kv.1 := fun same => new (same ▸ List.mem_map_of_mem member)
        exact (has lw member).congr (by rw [valueOf_adopt, if_neg differ])
      · rw [List.map_cons, List.mem_cons, not_or] at none
        rw [valueOf_adopt, if_neg none.1]
        exact absent l none.2

/-! ### Reading one setting -/

section

variable {a cs rest : List Char} (blanks : Blanks a)

include blanks

theorem reads_readRule {name : String} {rule : RuleId} (names : RuleId.ofString? name = some rule)
    (spells : Spells (.string name) cs) (rest : List Char) :
    Reads readRule (a ++ (cs ++ rest)) rule rest := by
  refine (reads_readString spells blanks rest).bind ?_
  rw [names]
  exact .pure _ _

theorem reads_rules {v : Value} {rules : List RuleId} (named : NamesRules v rules)
    (spells : Spells v cs) (rest : List Char) :
    Reads (readList readRule) (a ++ (cs ++ rest)) rules rest := by
  obtain ⟨names, rfl, named⟩ := named
  refine reads_readList spells (List.forall₂_map_left_iff.mpr ?_) blanks rest
  have pairs : List.Forall₂ (fun name rule => RuleId.ofString? name = some rule) names rules := by
    rwa [← List.forall₂_eq_eq_eq, List.forall₂_map_left_iff, List.forall₂_map_right_iff] at named
  exact pairs.imp fun _ _ is ds rest _ spelled _ => reads_readRule blanks_nil is spelled rest

theorem reads_strings {texts : List String} (spells : Spells (.strings texts) cs)
    (rest : List Char) : Reads (readList readString) (a ++ (cs ++ rest)) texts rest :=
  reads_readList spells (List.forall₂_map_left_iff.mpr <| List.forall₂_same.mpr
    fun _ _ _ rest _ spelled _ => reads_readString spelled blanks_nil rest) blanks rest

/-- A setting takes the value that is spelled. -/
theorem reads_readValue {other : Settings} (s : Settings) {k : Key} {v : Value}
    (has : other.Has k v) (spells : Spells v cs) (ends : Ends rest) :
    Reads (readValue s k) (a ++ (cs ++ rest)) (adopt other s k) rest := by
  cases k with
  | enabledRules | disabledRules => exact (reads_rules blanks has spells rest).map _
  | maxMethodLines | namingMinWords | fileTimeoutMs | maxFileBytes | maxNesting =>
      obtain rfl := has
      exact (reads_readWhole spells _ blanks ends).map _
  | _ =>
      obtain rfl := has
      exact (reads_strings blanks spells rest).map _

theorem leaves_readRule (value : IsValue cs) (rest : List Char) :
    Leaves readRule (a ++ (cs ++ rest)) rest := by
  refine (leaves_readString value blanks rest).bind fun name => ?_
  split
  · exact (Reads.pure _ _).leaves
  · exact Refuses.leaves (.of_bind fun _ cs => refuses_throw _ cs) rest

/-- Whatever document stands for a setting, if it is read, then to its end. -/
theorem leaves_readValue (s : Settings) (k : Key) (value : IsValue cs) (ends : Ends rest) :
    Leaves (readValue s k) (a ++ (cs ++ rest)) rest := by
  have rules := leaves_readList
    (fun value _ => leaves_readRule blanks_nil value _) value blanks rest
  have texts := leaves_readList
    (fun value _ => leaves_readString value blanks_nil _) value blanks rest
  cases k with
  | enabledRules | disabledRules => exact rules.bind fun _ => (Reads.pure _ _).leaves
  | maxMethodLines | namingMinWords | fileTimeoutMs | maxFileBytes | maxNesting =>
      exact (leaves_readWhole value blanks _ ends).bind fun _ => (Reads.pure _ _).leaves
  | _ => exact texts.bind fun _ => (Reads.pure _ _).leaves

end

end Settings

end LayerLint
