import LayerLint.Proofs.Text.ByteOrder
import LayerLint.Report
import Mathlib.Data.List.Nodup
import Mathlib.Data.String.Basic
import Mathlib.Tactic.Tauto

/-! The canonical form of a report. Its violations stand strictly in order, every place at which
something was found stands in it once, and there it keeps what was found first. This form is unique:
a list in strict order is determined by what it holds at each place. -/

namespace LayerLint

/-- The order of declaration is the order of the ids. -/
theorem RuleId.id_lt_iff (a b : RuleId) : a.id < b.id ↔ a.ctorIdx < b.ctorIdx := by
  cases a <;> cases b <;> decide

theorem RuleId.eq_of_ctorIdx {a b : RuleId} (same : a.ctorIdx = b.ctorIdx) : a = b := by
  cases a <;> cases b <;> first | rfl | exact absurd same (by decide)

namespace Violation

def place (v : Violation) : RuleId × String × Nat :=
  (v.rule, v.file, v.line)

/-- The strict order of a report: by file, then line, then the id of the rule. -/
def Before (v w : Violation) : Prop :=
  v.file < w.file ∨
    v.file = w.file ∧ (v.line < w.line ∨ v.line = w.line ∧ v.rule.id < w.rule.id)

instance : DecidableRel Before := fun v w =>
  inferInstanceAs (Decidable (v.file < w.file ∨
    v.file = w.file ∧ (v.line < w.line ∨ v.line = w.line ∧ v.rule.id < w.rule.id)))

theorem place_eq_iff {v w : Violation} :
    v.place = w.place ↔ v.rule = w.rule ∧ v.file = w.file ∧ v.line = w.line := by
  simp only [place, Prod.mk.injEq]

theorem samePlace_iff {v w : Violation} : v.samePlace w = true ↔ v.place = w.place := by
  simp only [samePlace, place_eq_iff, Bool.and_eq_true, beq_iff_eq]
  exact ⟨fun h => ⟨h.2, h.1⟩, fun h => ⟨h.2, h.1⟩⟩

theorem Before.trans {u v w : Violation} (first : u.Before v) (second : v.Before w) :
    u.Before w := by
  rcases first with file | ⟨file, line | ⟨line, rule⟩⟩ <;>
    rcases second with file' | ⟨file', line' | ⟨line', rule'⟩⟩
  · exact .inl (String.lt_trans file file')
  · exact .inl (file' ▸ file)
  · exact .inl (file' ▸ file)
  · exact .inl (file ▸ file')
  · exact .inr ⟨file.trans file', .inl (Nat.lt_trans line line')⟩
  · exact .inr ⟨file.trans file', .inl (line' ▸ line)⟩
  · exact .inl (file ▸ file')
  · exact .inr ⟨file.trans file', .inl (line ▸ line')⟩
  · exact .inr ⟨file.trans file', .inr ⟨line.trans line', String.lt_trans rule rule'⟩⟩

theorem Before.ne_place {v w : Violation} (before : v.Before w) : v.place ≠ w.place := by
  intro same
  obtain ⟨rule, file, line⟩ := place_eq_iff.mp same
  rcases before with lt | ⟨-, lt | ⟨-, lt⟩⟩
  · exact String.lt_irrefl _ (file ▸ lt)
  · exact Nat.lt_irrefl _ (line ▸ lt)
  · exact String.lt_irrefl _ (rule ▸ lt)

theorem Before.not_before {v w : Violation} (before : v.Before w) : ¬ w.Before v :=
  fun after => (before.trans after).ne_place rfl

theorem le_iff {v w : Violation} : v.le w = true ↔ v.Before w ∨ v.place = w.place := by
  have rules : v.rule.ctorIdx ≤ w.rule.ctorIdx ↔ v.rule.id < w.rule.id ∨ v.rule = w.rule := by
    rw [RuleId.id_lt_iff]
    refine ⟨fun h => (Nat.lt_or_eq_of_le h).imp_right RuleId.eq_of_ctorIdx, ?_⟩
    rintro (lt | same)
    · exact Nat.le_of_lt lt
    · exact Nat.le_of_eq (congrArg RuleId.ctorIdx same)
  simp only [le, Before, place_eq_iff, Bool.or_eq_true, Bool.and_eq_true, decide_eq_true_eq,
    beq_iff_eq, rules]
  tauto

theorem before_or_same_or_after (v w : Violation) :
    v.Before w ∨ v.place = w.place ∨ w.Before v := by
  rcases lt_trichotomy v.file w.file with file | file | file
  · exact .inl (.inl file)
  · rcases Nat.lt_trichotomy v.line w.line with line | line | line
    · exact .inl (.inr ⟨file, .inl line⟩)
    · rcases Nat.lt_trichotomy v.rule.ctorIdx w.rule.ctorIdx with rule | rule | rule
      · exact .inl (.inr ⟨file, .inr ⟨line, (RuleId.id_lt_iff _ _).mpr rule⟩⟩)
      · exact .inr (.inl (place_eq_iff.mpr ⟨RuleId.eq_of_ctorIdx rule, file, line⟩))
      · exact .inr (.inr (.inr ⟨file.symm, .inr ⟨line.symm, (RuleId.id_lt_iff _ _).mpr rule⟩⟩))
    · exact .inr (.inr (.inr ⟨file.symm, .inl line⟩))
  · exact .inr (.inr (.inl file))

theorem Before.congr_left {u v w : Violation} (same : u.place = v.place) (before : u.Before w) :
    v.Before w := by
  obtain ⟨rule, file, line⟩ := place_eq_iff.mp same
  simpa only [Before, rule, file, line] using before

theorem Before.congr_right {u v w : Violation} (before : u.Before v) (same : v.place = w.place) :
    u.Before w := by
  obtain ⟨rule, file, line⟩ := place_eq_iff.mp same
  simpa only [Before, rule, file, line] using before

theorem le_total (v w : Violation) : (v.le w || w.le v) = true := by
  rw [Bool.or_eq_true, le_iff, le_iff]
  rcases before_or_same_or_after v w with before | same | after
  · exact .inl (.inl before)
  · exact .inl (.inr same)
  · exact .inr (.inl after)

theorem le_trans (u v w : Violation) (first : u.le v = true) (second : v.le w = true) :
    u.le w = true := by
  rw [le_iff] at first second ⊢
  rcases first with before | same <;> rcases second with before' | same'
  · exact .inl (before.trans before')
  · exact .inl (before.congr_right same')
  · exact .inl (before'.congr_left same.symm)
  · exact .inr (same.trans same')

end Violation

/-! ### One violation at each place -/

theorem firstAtEachPlace_sublist (vs : List Violation) : (firstAtEachPlace vs).Sublist vs := by
  fun_induction firstAtEachPlace vs with
  | case1 => exact .slnil
  | case2 v => exact .refl _
  | case3 v w vs same ih => exact ih.trans (.cons_cons v (.cons w (.refl vs)))
  | case4 v w vs other ih => exact .cons_cons v ih

/-- Neighbours at one place are dropped in favour of the first of them. -/
theorem find?_firstAtEachPlace (vs : List Violation) (k : RuleId × String × Nat) :
    (firstAtEachPlace vs).find? (fun v => v.place = k) = vs.find? (fun v => v.place = k) := by
  fun_induction firstAtEachPlace vs with
  | case1 => rfl
  | case2 v => rfl
  | case3 v w vs same ih =>
      rw [ih, List.find?_cons, List.find?_cons, List.find?_cons,
        ← Violation.samePlace_iff.mp same]
      cases decide (v.place = k) <;> rfl
  | case4 v w vs other ih => rw [List.find?_cons, List.find?_cons, ih]

theorem firstAtEachPlace_before {vs : List Violation}
    (sorted : vs.Pairwise fun v w => v.le w = true) :
    (firstAtEachPlace vs).Pairwise Violation.Before := by
  fun_induction firstAtEachPlace vs with
  | case1 => exact .nil
  | case2 v => exact List.pairwise_singleton _ v
  | case3 v w vs same ih =>
      exact ih (sorted.sublist (.cons_cons v (.cons w (.refl vs))))
  | case4 v w vs other ih =>
      obtain ⟨below, rest⟩ := List.pairwise_cons.mp sorted
      refine List.pairwise_cons.mpr ⟨fun x member => ?_, ih rest⟩
      have first : v.Before w := by
        rcases Violation.le_iff.mp (below w List.mem_cons_self) with before | same
        · exact before
        · exact absurd (Violation.samePlace_iff.mpr same) other
      rcases List.mem_cons.mp ((firstAtEachPlace_sublist (w :: vs)).subset member) with rfl | later
      · exact first
      · rcases Violation.le_iff.mp ((List.pairwise_cons.mp rest).1 x later) with before | same
        · exact first.trans before
        · exact first.congr_right same

/-! ### Sorting keeps what stands first at a place -/

/-- Sorting keeps the order of what compares as equal. -/
theorem filter_mergeSort_of_level {α : Type} {le : α → α → Bool}
    (trans : ∀ a b c, le a b = true → le b c = true → le a c = true)
    (total : ∀ a b, (le a b || le b a) = true) {keep : α → Bool}
    (level : ∀ a b, keep a = true → keep b = true → le a b = true) (xs : List α) :
    (xs.mergeSort le).filter keep = xs.filter keep := by
  have inOrder : (xs.filter keep).Pairwise fun a b => le a b = true :=
    List.pairwise_of_forall_mem_list fun a ha b hb =>
      level a b (List.mem_filter.mp ha).2 (List.mem_filter.mp hb).2
  have filtered := (List.sublist_mergeSort trans total inOrder List.filter_sublist).filter keep
  rw [List.filter_filter] at filtered
  simp only [Bool.and_self] at filtered
  have count := ((List.mergeSort_perm xs le).filter keep).length_eq
  exact (filtered.eq_of_length count.symm).symm

/-- Violations at one place keep their order. -/
theorem filter_place_mergeSort (vs : List Violation) (k : RuleId × String × Nat) :
    (vs.mergeSort Violation.le).filter (fun v => v.place = k) =
      vs.filter (fun v => v.place = k) := by
  refine filter_mergeSort_of_level Violation.le_trans Violation.le_total (fun v w hv hw => ?_) vs
  exact Violation.le_iff.mpr (.inr ((of_decide_eq_true hv).trans (of_decide_eq_true hw).symm))

/-! ### The canonical form -/

theorem canonical_nil : canonical [] = [] := by
  rw [canonical, List.mergeSort_nil, firstAtEachPlace]

theorem canonical_singleton (v : Violation) : canonical [v] = [v] := by
  rw [canonical, List.mergeSort_singleton, firstAtEachPlace]

theorem canonical_before (vs : List Violation) : (canonical vs).Pairwise Violation.Before :=
  firstAtEachPlace_before
    (List.pairwise_mergeSort Violation.le_trans Violation.le_total vs)

theorem find?_canonical (vs : List Violation) (k : RuleId × String × Nat) :
    (canonical vs).find? (fun v => v.place = k) = vs.find? (fun v => v.place = k) := by
  rw [canonical, find?_firstAtEachPlace, ← List.head?_filter, ← List.head?_filter,
    filter_place_mergeSort]

theorem mem_of_mem_canonical {vs : List Violation} {v : Violation} (member : v ∈ canonical vs) :
    v ∈ vs :=
  List.mem_mergeSort.mp ((firstAtEachPlace_sublist _).subset member)

/-- In a list in strict order, a violation is what is found first at its place. -/
theorem mem_iff_find?_place {vs : List Violation} (sorted : vs.Pairwise Violation.Before)
    (v : Violation) : v ∈ vs ↔ vs.find? (fun w => w.place = v.place) = some v := by
  refine ⟨fun member => ?_, List.mem_of_find?_eq_some⟩
  induction vs with
  | nil => cases member
  | cons w ws ih =>
      obtain ⟨below, rest⟩ := List.pairwise_cons.mp sorted
      rcases List.mem_cons.mp member with rfl | later
      · exact List.find?_cons_of_pos (decide_eq_true rfl)
      · rw [List.find?_cons_of_neg (by simpa using (below v later).ne_place)]
        exact ih rest later

/-- A list in strict order is determined by what it holds at each place. -/
theorem eq_of_find?_place {vs ws : List Violation} (left : vs.Pairwise Violation.Before)
    (right : ws.Pairwise Violation.Before)
    (same : ∀ k, vs.find? (fun v => v.place = k) = ws.find? (fun v => v.place = k)) : vs = ws := by
  have nodup : ∀ us : List Violation, us.Pairwise Violation.Before → us.Nodup := by
    intro us sorted
    exact sorted.imp fun before eq => before.ne_place (congrArg Violation.place eq)
  have perm : vs.Perm ws := by
    refine (List.perm_ext_iff_of_nodup (nodup vs left) (nodup ws right)).mpr fun v => ?_
    rw [mem_iff_find?_place left, mem_iff_find?_place right, same]
  exact perm.eq_of_pairwise (fun v w _ _ before after => absurd after before.not_before) left right

theorem eq_canonical {vs ws : List Violation} (sorted : ws.Pairwise Violation.Before)
    (same : ∀ k, ws.find? (fun v => v.place = k) = vs.find? (fun v => v.place = k)) :
    ws = canonical vs :=
  eq_of_find?_place sorted (canonical_before vs) fun k => by rw [same, find?_canonical]

/-- Violations in strict order are the canonical form of any list of them. -/
theorem canonical_of_perm {vs ws : List Violation} (perm : ws.Perm vs)
    (sorted : ws.Pairwise Violation.Before) : canonical vs = ws := by
  refine (eq_canonical sorted fun k => ?_).symm
  cases first : vs.find? (fun v => v.place = k) with
  | none =>
      rw [List.find?_eq_none] at first ⊢
      exact fun v member => first v (perm.mem_iff.mp member)
  | some v =>
      obtain rfl : v.place = k := by simpa using List.find?_some first
      exact (mem_iff_find?_place sorted v).mp (perm.mem_iff.mpr (List.mem_of_find?_eq_some first))

/-- Leaving out whole places before or after the report is made comes to the same. -/
theorem canonical_filter (q : RuleId × String × Nat → Bool) (vs : List Violation) :
    canonical (vs.filter fun v => q v.place) = (canonical vs).filter fun v => q v.place := by
  refine (eq_canonical ((canonical_before vs).filter _) fun k => ?_).symm
  have restrict : ∀ us : List Violation,
      (us.filter fun v => q v.place).find? (fun v => v.place = k) =
        if q k then us.find? (fun v => v.place = k) else none := by
    intro us
    rw [List.find?_filter]
    split
    · next keep =>
        congr 1
        funext v
        by_cases at_k : v.place = k
        · simp [at_k, keep]
        · simp [at_k]
    · next drop =>
        refine List.find?_eq_none.mpr fun v _ both => drop ?_
        simp only [decide_eq_true_eq] at both
        exact both.2 ▸ both.1
  rw [restrict, restrict, find?_canonical]

/-! ### Places -/

theorem nodup_places {vs : List Violation} (sorted : vs.Pairwise Violation.Before) :
    (vs.map Violation.place).Nodup :=
  List.pairwise_map.mpr (sorted.imp Violation.Before.ne_place)

theorem mem_places_iff {vs : List Violation} {k : RuleId × String × Nat} :
    k ∈ vs.map Violation.place ↔ (vs.find? fun v => v.place = k).isSome = true := by
  simp only [List.mem_map, List.find?_isSome, decide_eq_true_eq]

theorem mem_places_canonical {vs : List Violation} {k : RuleId × String × Nat} :
    k ∈ (canonical vs).map Violation.place ↔ k ∈ vs.map Violation.place := by
  rw [mem_places_iff, mem_places_iff, find?_canonical]

/-- The report on violations is strictly in order by file, line and id of the rule, so that no place
stands in it twice; files compare by their characters, which is by their bytes in UTF-8. The report
has exactly the places at which something was found, and at each it shows what was found there
first. -/
theorem ofResults_canonical (results : List (String × List Violation)) (filesScanned : Nat) :
    let found := results.flatMap (·.2)
    let shown := (Report.ofResults results filesScanned).violations
    shown.Pairwise Violation.Before ∧
      (∀ v w : Violation, v.file < w.file ↔ Text.utf8 v.file < Text.utf8 w.file) ∧
      (shown.map Violation.place).Nodup ∧
      (∀ k, k ∈ shown.map Violation.place ↔ k ∈ found.map Violation.place) ∧
      ∀ k, shown.find? (fun v => v.place = k) = found.find? (fun v => v.place = k) := by
  intro found shown
  have sorted : shown.Pairwise Violation.Before := canonical_before found
  exact ⟨sorted, fun v w => Text.lt_iff_utf8_lt v.file w.file, nodup_places sorted,
    fun k => mem_places_canonical, find?_canonical found⟩

end LayerLint
