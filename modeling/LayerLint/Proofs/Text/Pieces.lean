import LayerLint.Text.Wildcard
import Mathlib.Data.List.Infix

/-! Texts cut at a separator. The pieces hold no separator, and the text they come from is theirs
alone. -/

namespace LayerLint.Text

theorem length_pos {text : String} (nonempty : text ≠ "") : 0 < text.length :=
  Nat.pos_of_ne_zero (mt String.length_eq_zero_iff.mp nonempty)

variable {sep : Char}

theorem pieces_ne_nil (sep : Char) (cs : List Char) : pieces sep cs ≠ [] := by
  cases cs with
  | nil => exact List.cons_ne_nil _ _
  | cons c cs =>
      unfold pieces
      split
      · exact List.cons_ne_nil _ _
      · split <;> exact List.cons_ne_nil _ _

theorem sep_notMem_pieces {cs piece : List Char} (member : piece ∈ pieces sep cs) :
    sep ∉ piece := by
  induction cs generalizing piece with
  | nil =>
      obtain rfl := List.mem_singleton.mp member
      exact List.not_mem_nil
  | cons c cs ih =>
      unfold pieces at member
      split at member
      · rcases List.mem_cons.mp member with rfl | later
        · exact List.not_mem_nil
        · exact ih later
      · next differ =>
          have other : sep ≠ c := fun same => differ (beq_of_eq same.symm)
          split at member
          · next none => exact absurd none (pieces_ne_nil sep cs)
          · next first rest same =>
              rcases List.mem_cons.mp member with rfl | later
              · intro here
                rcases List.mem_cons.mp here with eq | inFirst
                · exact other eq
                · exact ih (same ▸ List.mem_cons_self) inFirst
              · exact ih (same ▸ List.mem_cons_of_mem _ later)

theorem pieces_of_notMem {cs : List Char} (none : sep ∉ cs) : pieces sep cs = [cs] := by
  induction cs with
  | nil => rfl
  | cons c cs ih =>
      obtain ⟨differ, later⟩ := not_or.mp (mt List.mem_cons.mpr none)
      rw [pieces, beq_false_of_ne (Ne.symm differ), ih later]
      rfl

theorem pieces_append {cs : List Char} (none : sep ∉ cs) (rest : List Char) :
    pieces sep (cs ++ sep :: rest) = cs :: pieces sep rest := by
  induction cs with
  | nil => rw [List.nil_append, pieces, beq_self_eq_true, if_pos rfl]
  | cons c cs ih =>
      obtain ⟨differ, later⟩ := not_or.mp (mt List.mem_cons.mpr none)
      rw [List.cons_append, pieces, beq_false_of_ne (Ne.symm differ), ih later]
      rfl

theorem pieces_append_sep (cs rest : List Char) :
    pieces sep (cs ++ sep :: rest) = pieces sep cs ++ pieces sep rest := by
  induction cs with
  | nil => simp [pieces]
  | cons c cs ih =>
      rw [List.cons_append, pieces, pieces, ih]
      split
      · rfl
      · cases first : pieces sep cs with
        | nil => exact absurd first (pieces_ne_nil sep cs)
        | cons piece rest => rfl

/-- The pieces with their separators make up the text again. -/
theorem intercalate_pieces (sep : Char) (cs : List Char) :
    [sep].intercalate (pieces sep cs) = cs := by
  induction cs with
  | nil => rfl
  | cons c cs ih =>
      unfold pieces
      cases found : pieces sep cs with
      | nil => exact absurd found (pieces_ne_nil sep cs)
      | cons piece more =>
          rw [found] at ih
          split
          · next same =>
              rw [List.intercalate_cons_cons, ih, eq_of_beq same]
              rfl
          · cases more with
            | nil => rw [← ih]; rfl
            | cons next more =>
                rw [← ih]
                simp only [List.intercalate_cons_cons, List.cons_append]

/-! ### A text from its pieces -/

variable {cs p : List Char} {ps : List (List Char)}

theorem pieces_cons_of_ne {c : Char} (other : c ≠ sep) (rest : pieces sep cs = p :: ps) :
    pieces sep (c :: cs) = (c :: p) :: ps := by
  rw [pieces, if_neg (by simpa using other), rest]

theorem pieces_append_of_notMem {front : List Char} (none : sep ∉ front)
    (rest : pieces sep cs = p :: ps) : pieces sep (front ++ cs) = (front ++ p) :: ps := by
  induction front with
  | nil => exact rest
  | cons c front ih =>
      obtain ⟨differ, later⟩ := not_or.mp (mt List.mem_cons.mpr none)
      exact pieces_cons_of_ne (Ne.symm differ) (ih later)

theorem pieces_eq_nil_cons (none : pieces sep cs = [] :: ps) :
    cs = [] ∧ ps = [] ∨ ∃ rest, cs = sep :: rest ∧ pieces sep rest = ps := by
  cases cs with
  | nil =>
      obtain ⟨-, rfl⟩ := List.cons.inj none
      exact .inl ⟨rfl, rfl⟩
  | cons c cs =>
      by_cases same : c = sep
      · subst same
        rw [pieces, if_pos (beq_self_eq_true c)] at none
        exact .inr ⟨cs, rfl, (List.cons.inj none).2⟩
      · obtain ⟨q, qs, rest⟩ := List.exists_cons_of_ne_nil (pieces_ne_nil sep cs)
        rw [pieces_cons_of_ne same rest] at none
        cases none

theorem pieces_eq_cons_cons {c : Char} (some : pieces sep cs = (c :: p) :: ps) :
    c ≠ sep ∧ ∃ rest, cs = c :: rest ∧ pieces sep rest = p :: ps := by
  cases cs with
  | nil => cases some
  | cons d cs =>
      by_cases same : d = sep
      · subst same
        rw [pieces, if_pos (beq_self_eq_true d)] at some
        cases some
      · obtain ⟨q, qs, rest⟩ := List.exists_cons_of_ne_nil (pieces_ne_nil sep cs)
        rw [pieces_cons_of_ne same rest] at some
        cases some
        exact ⟨same, cs, rfl, rest⟩

theorem pieces_eq_append_cons {front : List Char} (some : pieces sep cs = (front ++ p) :: ps) :
    sep ∉ front ∧ ∃ rest, cs = front ++ rest ∧ pieces sep rest = p :: ps := by
  induction front generalizing cs with
  | nil => exact ⟨List.not_mem_nil, cs, rfl, some⟩
  | cons c front ih =>
      obtain ⟨other, rest, rfl, below⟩ := pieces_eq_cons_cons some
      obtain ⟨none, tail, rfl, segments⟩ := ih below
      refine ⟨?_, tail, rfl, segments⟩
      rw [List.mem_cons, not_or]
      exact ⟨Ne.symm other, none⟩

theorem length_pieces (sep : Char) (cs : List Char) :
    (pieces sep cs).length = cs.count sep + 1 := by
  induction cs with
  | nil => rfl
  | cons c cs ih =>
      by_cases same : c = sep
      · subst same
        rw [pieces, if_pos (beq_self_eq_true c), List.length_cons, ih, List.count_cons_self]
      · obtain ⟨p, ps, rest⟩ := List.exists_cons_of_ne_nil (pieces_ne_nil sep cs)
        rw [pieces_cons_of_ne same rest, List.count_cons_of_ne same, ← ih, rest]
        rfl

variable {front : List Char}

theorem exists_of_pieces_cons_prefix {c : Char}
    (first : pieces sep (c :: front) <+: pieces sep cs) :
    ∃ rest, cs = c :: rest ∧ pieces sep front <+: pieces sep rest := by
  obtain ⟨ps, found⟩ := first
  by_cases same : c = sep
  · subst same
    rw [pieces, if_pos (beq_self_eq_true c), List.cons_append] at found
    rcases pieces_eq_nil_cons found.symm with ⟨-, none⟩ | ⟨rest, rfl, segments⟩
    · exact absurd (List.append_eq_nil_iff.mp none).1 (pieces_ne_nil c front)
    · exact ⟨rest, rfl, ps, segments.symm⟩
  · obtain ⟨q, qs, below⟩ := List.exists_cons_of_ne_nil (pieces_ne_nil sep front)
    rw [pieces_cons_of_ne same below, List.cons_append] at found
    obtain ⟨-, rest, rfl, segments⟩ := pieces_eq_cons_cons found.symm
    refine ⟨rest, rfl, ps, ?_⟩
    rw [below, segments, List.cons_append]

/-- The pieces of one text come first among those of another exactly if the text does, and the other
one ends there or goes on with a separator. -/
theorem pieces_prefix_iff :
    pieces sep front <+: pieces sep cs ↔ cs = front ∨ ∃ rest, cs = front ++ sep :: rest := by
  constructor
  · intro first
    induction front generalizing cs with
    | nil =>
        obtain ⟨ps, found⟩ := first
        rcases pieces_eq_nil_cons found.symm with ⟨rfl, -⟩ | ⟨rest, rfl, -⟩
        · exact .inl rfl
        · exact .inr ⟨rest, rfl⟩
    | cons c front ih =>
        obtain ⟨rest, rfl, below⟩ := exists_of_pieces_cons_prefix first
        rcases ih below with rfl | ⟨more, rfl⟩
        · exact .inl rfl
        · exact .inr ⟨more, rfl⟩
  · rintro (rfl | ⟨rest, rfl⟩)
    · exact List.prefix_rfl
    · rw [pieces_append_sep]
      exact List.prefix_append _ _

end LayerLint.Text
