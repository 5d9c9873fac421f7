import LayerLint.CallPattern
import LayerLint.Proofs.Text.Wildcard
import Mathlib.Data.List.Forall2

/-! The language of call patterns. A star stands for a text without dots, so that a pattern and a
text are compared between their dots: the text arises from the pattern exactly if both have as many
segments and each segment arises from its own. -/

namespace LayerLint

/-! ### Stars without dots -/

namespace CallPattern

open Text

/-- The text arises from the pattern by putting some text without dots in the place of each star. -/
inductive Generates : List Char → List Char → Prop
  | nil : Generates [] []
  | char {c : Char} {pattern text : List Char} (plain : c ≠ '*') (rest : Generates pattern text) :
      Generates (c :: pattern) (c :: text)
  | star {pattern text : List Char} (filling : List Char) (dotFree : '.' ∉ filling)
      (rest : Generates pattern text) : Generates ('*' :: pattern) (filling ++ text)

theorem Generates.forall₂_pieces {pattern text : List Char} (generates : Generates pattern text) :
    List.Forall₂ Fills (pieces '.' pattern) (pieces '.' text) := by
  induction generates with
  | nil => exact .cons .nil .nil
  | @char c pattern text plain rest ih =>
      by_cases dot : c = '.'
      · subst dot
        exact .cons .nil ih
      · obtain ⟨p, ps, left⟩ := List.exists_cons_of_ne_nil (pieces_ne_nil '.' pattern)
        obtain ⟨t, ts, right⟩ := List.exists_cons_of_ne_nil (pieces_ne_nil '.' text)
        rw [left, right, List.forall₂_cons] at ih
        rw [pieces_cons_of_ne dot left, pieces_cons_of_ne dot right]
        exact .cons (.char plain ih.1) ih.2
  | @star pattern text filling dotFree rest ih =>
      obtain ⟨p, ps, left⟩ := List.exists_cons_of_ne_nil (pieces_ne_nil '.' pattern)
      obtain ⟨t, ts, right⟩ := List.exists_cons_of_ne_nil (pieces_ne_nil '.' text)
      rw [left, right, List.forall₂_cons] at ih
      rw [pieces_cons_of_ne (by decide) left, pieces_append_of_notMem dotFree right]
      exact .cons (.star filling ih.1) ih.2

theorem generates_of_forall₂_pieces {pattern text : List Char}
    (fills : List.Forall₂ Fills (pieces '.' pattern) (pieces '.' text)) :
    Generates pattern text := by
  induction pattern generalizing text with
  | nil =>
      obtain ⟨t, ts, right⟩ := List.exists_cons_of_ne_nil (pieces_ne_nil '.' text)
      rw [right] at fills
      obtain ⟨⟨⟩, ⟨⟩⟩ := List.forall₂_cons.mp fills
      rcases pieces_eq_nil_cons right with ⟨rfl, -⟩ | ⟨rest, -, none⟩
      · exact .nil
      · exact absurd none (pieces_ne_nil '.' rest)
  | cons c pattern ih =>
      obtain ⟨p, ps, left⟩ := List.exists_cons_of_ne_nil (pieces_ne_nil '.' pattern)
      obtain ⟨t, ts, right⟩ := List.exists_cons_of_ne_nil (pieces_ne_nil '.' text)
      by_cases dot : c = '.'
      · subst dot
        rw [pieces, if_pos (beq_self_eq_true _), right, List.forall₂_cons] at fills
        obtain ⟨⟨⟩, others⟩ := fills
        rcases pieces_eq_nil_cons right with ⟨-, rfl⟩ | ⟨rest, rfl, segments⟩
        · rw [left] at others
          cases others
        · exact .char (by decide) (ih (segments ▸ others))
      · rw [pieces_cons_of_ne dot left, right, List.forall₂_cons] at fills
        obtain ⟨first, others⟩ := fills
        cases first with
        | char plain below =>
            obtain ⟨-, rest, rfl, segments⟩ := pieces_eq_cons_cons right
            refine .char plain (ih ?_)
            rw [left, segments]
            exact .cons below others
        | star filling below =>
            obtain ⟨dotFree, rest, rfl, segments⟩ := pieces_eq_append_cons right
            refine .star filling dotFree (ih ?_)
            rw [left, segments]
            exact .cons below others

theorem generates_iff_forall₂_pieces {pattern text : List Char} :
    Generates pattern text ↔ List.Forall₂ Fills (pieces '.' pattern) (pieces '.' text) :=
  ⟨Generates.forall₂_pieces, generates_of_forall₂_pieces⟩

/-! ### Names and calls -/

theorem generates_name_iff {pattern name : List Char} (dotFree : '.' ∉ name) :
    Generates pattern name ↔ ∃ segment, pieces '.' pattern = [segment] ∧ Fills segment name := by
  rw [generates_iff_forall₂_pieces, pieces_of_notMem dotFree, List.forall₂_cons_right_iff]
  constructor
  · rintro ⟨segment, others, fills, ⟨⟩, split⟩
    exact ⟨segment, split, fills⟩
  · rintro ⟨segment, split, fills⟩
    exact ⟨segment, [], fills, .nil, split⟩

theorem generates_call_iff {pattern receiver callee : List Char} (dotFree : '.' ∉ receiver)
    (dotFree' : '.' ∉ callee) :
    Generates pattern (receiver ++ '.' :: callee) ↔
      ∃ first second, pieces '.' pattern = [first, second] ∧ Fills first receiver ∧
        Fills second callee := by
  rw [generates_iff_forall₂_pieces, pieces_append dotFree, pieces_of_notMem dotFree',
    List.forall₂_cons_right_iff]
  constructor
  · rintro ⟨first, others, fills, rest, split⟩
    obtain ⟨second, others, fills', ⟨⟩, rfl⟩ := List.forall₂_cons_right_iff.mp rest
    exact ⟨first, second, split, fills, fills'⟩
  · rintro ⟨first, second, split, fills, fills'⟩
    exact ⟨first, [second], fills, .cons fills' .nil, split⟩

theorem dot_notMem_of_generates_name {pattern name : List Char} (dotFree : '.' ∉ name)
    (generates : Generates pattern name) : '.' ∉ pattern := by
  obtain ⟨segment, split, -⟩ := (generates_name_iff dotFree).mp generates
  have count := length_pieces '.' pattern
  rw [split, List.length_singleton] at count
  exact List.count_eq_zero.mp (by omega)

theorem dot_mem_of_generates_call {pattern receiver callee : List Char} (dotFree : '.' ∉ receiver)
    (dotFree' : '.' ∉ callee) (generates : Generates pattern (receiver ++ '.' :: callee)) :
    '.' ∈ pattern := by
  obtain ⟨first, second, split, -⟩ := (generates_call_iff dotFree dotFree').mp generates
  have count := length_pieces '.' pattern
  rw [split, List.length_cons, List.length_singleton] at count
  exact List.count_pos_iff.mp (by omega)

theorem matchesName_iff (pattern name : String) :
    (ofString pattern).matchesName name = true ↔ name ≠ "" ∧
      ∃ segment, pieces '.' pattern.toList = [segment] ∧ Fills segment name.toList := by
  simp only [matchesName, ofString]
  match pieces '.' pattern.toList with
  | [] => simp
  | [segment] => simp [wildcardMatches_iff_fills]
  | first :: second :: others => simp

theorem matchesCall_iff (pattern receiver callee : String) :
    (ofString pattern).matchesCall receiver callee = true ↔ receiver ≠ "" ∧
      ((∃ segment, pieces '.' pattern.toList = [segment] ∧ Fills segment receiver.toList) ∨
        ∃ first second, pieces '.' pattern.toList = [first, second] ∧
          Fills first receiver.toList ∧ Fills second callee.toList) := by
  simp only [matchesCall, ofString]
  match pieces '.' pattern.toList with
  | [] => simp
  | [segment] => simp [wildcardMatches_iff_fills]
  | [first, second] => simp [wildcardMatches_iff_fills]
  | first :: second :: third :: others => simp

/-- A pattern without dots matches the calls whose receiver it generates, and the names that it
generates. A pattern with dots matches the calls that it generates when they are written with a dot
between receiver and callee, so none if it has more than one dot, and it matches no name. Nothing
matches an empty receiver or name. -/
theorem matches_exact (pattern : String) :
    (∀ receiver callee : String, receiver ≠ "" → '.' ∉ receiver.toList → '.' ∉ callee.toList →
        ((ofString pattern).matchesCall receiver callee = true ↔
          '.' ∉ pattern.toList ∧ Generates pattern.toList receiver.toList ∨
            '.' ∈ pattern.toList ∧
              Generates pattern.toList (receiver ++ "." ++ callee).toList)) ∧
      (1 < pattern.toList.count '.' → ∀ receiver callee : String,
        (ofString pattern).matchesCall receiver callee = false) ∧
      (∀ name : String, name ≠ "" → '.' ∉ name.toList →
        ((ofString pattern).matchesName name = true ↔
          '.' ∉ pattern.toList ∧ Generates pattern.toList name.toList)) ∧
      (∀ callee : String, (ofString pattern).matchesCall "" callee = false) ∧
      (ofString pattern).matchesName "" = false := by
  refine ⟨?_, ?_, ?_, ?_, ?_⟩
  · intro receiver callee nonempty dotFree dotFree'
    have written :
        (receiver ++ "." ++ callee).toList = receiver.toList ++ '.' :: callee.toList := by
      simp
    rw [matchesCall_iff, written, ← generates_name_iff dotFree,
      ← generates_call_iff dotFree dotFree']
    constructor
    · rintro ⟨-, name | call⟩
      · exact .inl ⟨dot_notMem_of_generates_name dotFree name, name⟩
      · exact .inr ⟨dot_mem_of_generates_call dotFree dotFree' call, call⟩
    · rintro (⟨-, name⟩ | ⟨-, call⟩)
      · exact ⟨nonempty, .inl name⟩
      · exact ⟨nonempty, .inr call⟩
  · intro dots receiver callee
    have count := length_pieces '.' pattern.toList
    rw [← Bool.not_eq_true, matchesCall_iff]
    rintro ⟨-, ⟨segment, split, -⟩ | ⟨first, second, split, -⟩⟩
    · rw [split, List.length_singleton] at count
      omega
    · rw [split, List.length_cons, List.length_singleton] at count
      omega
  · intro name nonempty dotFree
    rw [matchesName_iff, ← generates_name_iff dotFree]
    constructor
    · rintro ⟨-, generates⟩
      exact ⟨dot_notMem_of_generates_name dotFree generates, generates⟩
    · rintro ⟨-, generates⟩
      exact ⟨nonempty, generates⟩
  · intro callee
    rw [← Bool.not_eq_true, matchesCall_iff]
    exact fun matched => matched.1 rfl
  · rw [← Bool.not_eq_true, matchesName_iff]
    exact fun matched => matched.1 rfl

theorem matches_exact_page :
    Generates "pa*.*".toList "page.goto".toList ∧
      (ofString "pa*.*").matchesCall "page" "goto" = true := by
  have generates : Generates "pa*.*".toList "page.goto".toList := by
    refine .char (by decide) (.char (by decide) ?_)
    refine .star ['g', 'e'] (by decide) (.char (by decide) ?_)
    exact .star "goto".toList (by decide) .nil
  refine ⟨generates, ?_⟩
  apply ((matches_exact "pa*.*").1 "page" "goto" (by decide) (by decide) (by decide)).mpr
  exact .inr ⟨by decide, generates⟩

end CallPattern

end LayerLint
