import LayerLint.Proofs.CallPattern
import Mathlib.Data.List.Infix

/-! Namespaces are made of whole segments. A name lies in a namespace exactly if the segments of the
namespace come first among the segments of the name; the comparison itself looks at characters and
at the one character that follows. -/

namespace LayerLint

open Text

/-! ### Stems -/

/-- The stem of a pattern is what is left of it without all endings `.*` and then without all dots
at its end. -/
def IsStem (pattern stem : List Char) : Prop :=
  ∃ dots stars : Nat,
    pattern = stem ++ List.replicate dots '.' ++ (List.replicate stars ".*".toList).flatten ∧
      ¬ ".*".toList <:+ stem ++ List.replicate dots '.' ∧ ¬ ['.'] <:+ stem

theorem dropWildcardEnds_of_not_prefix {cs : List Char} (other : ¬ ['*', '.'] <+: cs) :
    dropWildcardEnds cs = cs := by
  unfold dropWildcardEnds
  split
  · next rest => exact absurd (List.prefix_append ['*', '.'] rest) other
  · rfl

theorem dropWildcardEnds_append (stars : Nat) {cs : List Char} (other : ¬ ['*', '.'] <+: cs) :
    dropWildcardEnds ((List.replicate stars ['*', '.']).flatten ++ cs) = cs := by
  induction stars with
  | zero => exact dropWildcardEnds_of_not_prefix other
  | succ stars ih =>
      rw [List.replicate_succ, List.flatten_cons, List.append_assoc]
      exact ih

theorem exists_dropWildcardEnds (cs : List Char) :
    ∃ stars, cs = (List.replicate stars ['*', '.']).flatten ++ dropWildcardEnds cs ∧
      ¬ ['*', '.'] <+: dropWildcardEnds cs := by
  fun_induction dropWildcardEnds cs with
  | case1 cs ih =>
      obtain ⟨stars, split, other⟩ := ih
      refine ⟨stars + 1, ?_, other⟩
      rw [List.replicate_succ, List.flatten_cons, List.append_assoc, ← split]
      rfl
  | case2 cs other =>
      refine ⟨0, rfl, ?_⟩
      rintro ⟨rest, rfl⟩
      exact other rest rfl

theorem dropWhile_dots_append (dots : Nat) {cs : List Char} (other : ¬ ['.'] <+: cs) :
    (List.replicate dots '.' ++ cs).dropWhile (· == '.') = cs := by
  rw [List.dropWhile_append_of_pos (by simp)]
  cases cs with
  | nil => rfl
  | cons c cs =>
      have ends : c ≠ '.' := by
        rintro rfl
        exact other (List.prefix_append ['.'] cs)
      exact List.dropWhile_cons_of_neg (by simpa using ends)

theorem exists_dropWhile_dots (cs : List Char) :
    ∃ dots, cs = List.replicate dots '.' ++ cs.dropWhile (· == '.') ∧
      ¬ ['.'] <+: cs.dropWhile (· == '.') := by
  induction cs with
  | nil => exact ⟨0, rfl, by simp⟩
  | cons c cs ih =>
      by_cases dot : c = '.'
      · obtain ⟨dots, split, other⟩ := ih
        rw [List.dropWhile_cons_of_pos (by simpa using dot), dot]
        refine ⟨dots + 1, ?_, other⟩
        rw [List.replicate_succ, List.cons_append, ← split]
      · rw [List.dropWhile_cons_of_neg (by simpa using dot)]
        refine ⟨0, rfl, ?_⟩
        intro starts
        exact dot (List.cons_prefix_cons.mp starts).1.symm

theorem isStem_iff_reverse {pattern stem : List Char} :
    IsStem pattern stem ↔ ∃ dots stars : Nat,
      pattern.reverse = (List.replicate stars ['*', '.']).flatten ++
          (List.replicate dots '.' ++ stem.reverse) ∧
        ¬ ['*', '.'] <+: List.replicate dots '.' ++ stem.reverse ∧ ¬ ['.'] <+: stem.reverse := by
  have turned : ∀ dots stars : Nat,
      (stem ++ List.replicate dots '.' ++ (List.replicate stars ".*".toList).flatten).reverse =
        (List.replicate stars ['*', '.']).flatten ++
          (List.replicate dots '.' ++ stem.reverse) := by
    intro dots stars
    simp [List.reverse_flatten]
  unfold IsStem
  refine exists₂_congr fun dots stars => and_congr ?_ (and_congr (not_congr ?_) (not_congr ?_))
  · rw [← turned, List.reverse_inj]
  · rw [← List.reverse_prefix, List.reverse_append, List.reverse_replicate]
    rfl
  · rw [← List.reverse_prefix]
    rfl

/-- Every pattern has one stem. -/
theorem isStem_iff_eq_namespaceOf {pattern : String} {stem : List Char} :
    IsStem pattern.toList stem ↔ stem = namespaceOf pattern := by
  rw [isStem_iff_reverse]
  constructor
  · rintro ⟨dots, stars, split, notStar, notDot⟩
    rw [namespaceOf, split, dropWildcardEnds_append stars notStar,
      dropWhile_dots_append dots notDot, List.reverse_reverse]
  · rintro rfl
    obtain ⟨stars, split, notStar⟩ := exists_dropWildcardEnds pattern.toList.reverse
    obtain ⟨dots, split', notDot⟩ := exists_dropWhile_dots (dropWildcardEnds pattern.toList.reverse)
    refine ⟨dots, stars, ?_⟩
    rw [namespaceOf, List.reverse_reverse, ← split']
    exact ⟨split, notStar, notDot⟩

/-! ### Names in a namespace -/

theorem liesInNamespace_iff (name pattern : String) :
    liesInNamespace name pattern = true ↔ namespaceOf pattern ≠ [] ∧
      (name.toList = namespaceOf pattern ∨
        ∃ rest, name.toList = namespaceOf pattern ++ '.' :: rest) := by
  unfold liesInNamespace
  rw [Bool.and_eq_true]
  refine and_congr (by simp) ?_
  split
  · next whole =>
      rw [List.isPrefixOf?_eq_some_iff_append_eq, List.append_nil] at whole
      simp [whole]
  · next c rest next =>
      rw [List.isPrefixOf?_eq_some_iff_append_eq] at next
      rw [← next]
      simp
  · next none =>
      have apart : ¬ namespaceOf pattern <+: name.toList := by
        rintro ⟨rest, found⟩
        rw [List.isPrefixOf?_eq_some_iff_append_eq.mpr found] at none
        cases none
      refine iff_of_false Bool.false_ne_true ?_
      rintro (same | ⟨rest, longer⟩)
      · exact apart (same ▸ List.prefix_rfl)
      · exact apart ⟨_, longer.symm⟩

/-- A name lies in the namespace of a pattern exactly if the pattern has a stem that is not empty
and the segments of the stem are an initial part of the segments of the name. -/
theorem liesInNamespace_iff_segments (name pattern : String) :
    (∃! stem, IsStem pattern.toList stem) ∧
      ∀ stem, IsStem pattern.toList stem →
        (liesInNamespace name pattern = true ↔
          stem ≠ [] ∧ pieces '.' stem <+: pieces '.' name.toList) := by
  constructor
  · refine ⟨namespaceOf pattern, isStem_iff_eq_namespaceOf.mpr rfl, ?_⟩
    intro stem isStem
    exact isStem_iff_eq_namespaceOf.mp isStem
  · intro stem isStem
    rw [isStem_iff_eq_namespaceOf.mp isStem, liesInNamespace_iff, pieces_prefix_iff]

theorem liesInNamespace_iff_segments_inner_star :
    IsStem "a.*b..*.*".toList "a.*b".toList ∧ liesInNamespace "a.*b.c" "a.*b..*.*" = true := by
  have isStem : IsStem "a.*b..*.*".toList "a.*b".toList := ⟨1, 2, by decide, by decide, by decide⟩
  refine ⟨isStem, ?_⟩
  apply ((liesInNamespace_iff_segments "a.*b.c" "a.*b..*.*").2 _ isStem).mpr
  decide

end LayerLint
