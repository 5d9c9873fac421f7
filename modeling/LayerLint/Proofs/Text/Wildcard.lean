import LayerLint.Proofs.Text.Pieces
import LayerLint.Proofs.Text.Unquote
import LayerLint.Text.Wildcard
import Mathlib.Data.List.Basic

/-! Matching with stars is complete. The pieces of a pattern are looked for from the left, each
where it occurs first; this loses no match, since what follows the first occurrence of a piece ends
with what follows any other one. -/

namespace LayerLint.Text

/-! ### Stretches of a text -/

/-- A stretch is there exactly if both offsets are borders of characters, in order. -/
theorem stretch?_eq_some_iff {text window : List Char} {start stop : Nat} :
    stretch? text start stop = some window ↔
      ∃ front back, text = front ++ window ++ back ∧ byteLength front = start ∧
        start + byteLength window = stop := by
  unfold stretch?
  constructor
  · intro taken
    split at taken
    · next inRange =>
        simp only [Bool.and_eq_true, decide_eq_true_eq] at inRange
        obtain ⟨rest, ahead, taken⟩ := Option.bind_eq_some_iff.mp taken
        obtain ⟨back, behind, taken⟩ := Option.bind_eq_some_iff.mp taken
        obtain rfl := Option.some.inj taken
        obtain ⟨front, rfl, bytes⟩ := dropBytes_eq_some_iff.mp ahead
        obtain ⟨tail, same, left⟩ := dropBytes_eq_some_iff.mp behind
        obtain rfl : rest = back.reverse ++ tail.reverse := by
          rw [← List.reverse_append, ← same, List.reverse_reverse]
        simp only [byteLength_append, byteLength_reverse] at left inRange ⊢
        exact ⟨front, tail.reverse, (List.append_assoc _ _ _).symm, bytes, by omega⟩
    · cases taken
  · rintro ⟨front, back, rfl, rfl, rfl⟩
    have ahead :
        dropBytes (byteLength front) (front ++ window ++ back) = some (window ++ back) := by
      rw [dropBytes_eq_some_iff]
      exact ⟨front, List.append_assoc _ _ _, rfl⟩
    have behind : dropBytes (byteLength back) (window ++ back).reverse = some window.reverse := by
      rw [dropBytes_eq_some_iff]
      exact ⟨back.reverse, List.reverse_append, byteLength_reverse back⟩
    have size : byteLength (front ++ window ++ back) - (byteLength front + byteLength window) =
        byteLength back := by
      rw [byteLength_append, byteLength_append]
      omega
    rw [if_pos, ahead, size]
    · show (dropBytes _ (window ++ back).reverse).bind (fun rest => some rest.reverse) = some window
      rw [behind, Option.bind_some, List.reverse_reverse]
    · simp only [byteLength_append, Bool.and_eq_true, decide_eq_true_eq]
      omega

/-! ### The first occurrence of a piece -/

/-- The piece stands in the text between two parts, and nowhere further left. -/
structure First (piece text front back : List Char) : Prop where
  split : text = front ++ piece ++ back
  leftmost : ∀ gap after, text = gap ++ piece ++ after → after <:+ back

theorem first_of_prefix {piece text : List Char} (starts : piece <+: text) :
    ∃ back, First piece text [] back := by
  obtain ⟨back, rfl⟩ := starts
  refine ⟨back, rfl, ?_⟩
  intro gap after same
  have atEnd : after <:+ piece ++ back := ⟨gap ++ piece, same.symm⟩
  refine List.suffix_of_suffix_length_le atEnd (List.suffix_append piece back) ?_
  have lengths := congrArg List.length same
  simp only [List.length_append] at lengths
  omega

theorem First.cons {piece text front back : List Char} {c : Char}
    (first : First piece text front back) (other : ¬ piece <+: c :: text) :
    First piece (c :: text) (c :: front) back := by
  refine ⟨congrArg (c :: ·) first.split, ?_⟩
  intro gap after same
  cases gap with
  | nil => exact absurd ⟨after, same.symm⟩ other
  | cons d gap =>
      apply first.leftmost gap
      exact (List.cons.inj same).2

theorem bytesBefore?_cases (piece text : List Char) :
    (∃ front back, First piece text front back ∧
      bytesBefore? piece text = some (byteLength front)) ∨
    ((∀ front back, text ≠ front ++ piece ++ back) ∧ bytesBefore? piece text = none) := by
  induction text with
  | nil =>
      cases piece with
      | nil =>
          obtain ⟨back, first⟩ := first_of_prefix (List.nil_prefix (l := ([] : List Char)))
          exact .inl ⟨[], back, first, rfl⟩
      | cons c piece =>
          refine .inr ⟨?_, rfl⟩
          intro front back same
          simp at same
  | cons c text ih =>
      rw [bytesBefore?]
      by_cases starts : piece <+: c :: text
      · rw [if_pos (List.isPrefixOf_iff_prefix.mpr starts)]
        obtain ⟨back, first⟩ := first_of_prefix starts
        exact .inl ⟨[], back, first, rfl⟩
      · rw [if_neg (mt List.isPrefixOf_iff_prefix.mp starts)]
        rcases ih with ⟨front, back, first, found⟩ | ⟨nowhere, lost⟩
        · refine .inl ⟨c :: front, back, first.cons starts, ?_⟩
          rw [found]
          rfl
        · refine .inr ⟨?_, by rw [lost]; rfl⟩
          intro front back same
          cases front with
          | nil => exact starts ⟨back, same.symm⟩
          | cons d front => exact nowhere front back (List.cons.inj same).2

/-! ### Pieces one after the other -/

/-- The pieces stand in a text one after the other, with any gaps between them. -/
def Scattered : List (List Char) → List Char → Prop
  | [], _ => True
  | piece :: rest, text => ∃ gap after, text = gap ++ piece ++ after ∧ Scattered rest after

theorem Scattered.of_suffix {pieces : List (List Char)} {text longer : List Char}
    (scattered : Scattered pieces text) (atEnd : text <:+ longer) : Scattered pieces longer := by
  cases pieces with
  | nil => trivial
  | cons piece rest =>
      obtain ⟨gap, after, rfl, below⟩ := scattered
      obtain ⟨more, rfl⟩ := atEnd
      exact ⟨more ++ gap, after, by simp, below⟩

-- The exchange: whatever occurrence of the piece a match uses, the first one does as well.
theorem First.scattered_iff {piece text front back : List Char}
    (first : First piece text front back)
    (rest : List (List Char)) : Scattered (piece :: rest) text ↔ Scattered rest back := by
  constructor
  · rintro ⟨gap, after, same, below⟩
    exact below.of_suffix (first.leftmost gap after same)
  · intro below
    exact ⟨front, back, first.split, below⟩

/-- Between two borders of characters the search always has a verdict, and the right one. -/
theorem exists_occurBetween? (front window back : List Char) (pieces : List (List Char)) :
    ∃ verdict, occurBetween? (front ++ window ++ back) (byteLength front + byteLength window)
        (byteLength front) pieces = some verdict ∧
      (verdict = true ↔ Scattered pieces window) := by
  induction pieces generalizing front window with
  | nil => exact ⟨true, rfl, by simp [Scattered]⟩
  | cons piece rest ih =>
      have window? : stretch? (front ++ window ++ back) (byteLength front)
          (byteLength front + byteLength window) = some window :=
        stretch?_eq_some_iff.mpr ⟨front, back, rfl, rfl, rfl⟩
      rw [occurBetween?, window?]
      rcases bytesBefore?_cases piece window with ⟨gap, after, first, found⟩ | ⟨nowhere, lost⟩
      · obtain ⟨verdict, decided, right⟩ := ih (front ++ gap ++ piece) after
        have text : front ++ gap ++ piece ++ after ++ back = front ++ window ++ back := by
          rw [first.split]
          simp only [List.append_assoc]
        have start : byteLength (front ++ gap ++ piece) =
            byteLength front + byteLength gap + byteLength piece := by
          rw [byteLength_append, byteLength_append]
        have stop : byteLength (front ++ gap ++ piece) + byteLength after =
            byteLength front + byteLength window := by
          rw [start, first.split, byteLength_append, byteLength_append]
          omega
        rw [text, stop, start] at decided
        refine ⟨verdict, ?_, right.trans (first.scattered_iff rest).symm⟩
        simpa only [found] using decided
      · refine ⟨false, by simp only [lost], ?_⟩
        simp only [Bool.false_eq_true, false_iff]
        rintro ⟨gap, after, same, -⟩
        exact nowhere gap after same

/-! ### Patterns and their pieces -/

/-- The text arises from the pattern by putting some text in the place of each star. -/
inductive Fills : List Char → List Char → Prop
  | nil : Fills [] []
  | char {c : Char} {pattern text : List Char} (plain : c ≠ '*') (rest : Fills pattern text) :
      Fills (c :: pattern) (c :: text)
  | star {pattern text : List Char} (filling : List Char) (rest : Fills pattern text) :
      Fills ('*' :: pattern) (filling ++ text)

/-- The text consists of the pieces, with some text between each two of them. -/
def Joined : List (List Char) → List Char → Prop
  | [], _ => False
  | [piece], text => text = piece
  | piece :: next :: rest, text =>
    ∃ filling after, text = piece ++ filling ++ after ∧ Joined (next :: rest) after

theorem joined_cons_char {c : Char} {piece text : List Char} {rest : List (List Char)} :
    Joined ((c :: piece) :: rest) text ↔
      ∃ tail, text = c :: tail ∧ Joined (piece :: rest) tail := by
  cases rest with
  | nil =>
      constructor
      · rintro rfl
        exact ⟨piece, rfl, rfl⟩
      · rintro ⟨tail, rfl, rfl⟩
        rfl
  | cons next rest =>
      constructor
      · rintro ⟨filling, after, rfl, below⟩
        exact ⟨piece ++ filling ++ after, rfl, filling, after, rfl, below⟩
      · rintro ⟨tail, rfl, filling, after, rfl, below⟩
        exact ⟨filling, after, rfl, below⟩

theorem fills_iff_joined {pattern text : List Char} :
    Fills pattern text ↔ Joined (pieces '*' pattern) text := by
  induction pattern generalizing text with
  | nil =>
      constructor
      · rintro ⟨⟩
        rfl
      · rintro rfl
        exact .nil
  | cons c pattern ih =>
      rw [pieces]
      cases split : pieces '*' pattern with
      | nil => exact absurd split (pieces_ne_nil '*' pattern)
      | cons piece rest =>
          simp only [split] at ih
          by_cases star : c = '*'
          · subst star
            rw [if_pos (beq_self_eq_true _)]
            constructor
            · intro fills
              cases fills with
              | char plain below => exact absurd rfl plain
              | star filling below => exact ⟨filling, _, rfl, ih.mp below⟩
            · rintro ⟨filling, after, rfl, below⟩
              exact .star filling (ih.mpr below)
          · rw [if_neg (by simpa using star), joined_cons_char]
            constructor
            · intro fills
              cases fills with
              | char plain below => exact ⟨_, rfl, ih.mp below⟩
              | star filling below => exact absurd rfl star
            · rintro ⟨tail, rfl, below⟩
              exact .char star (ih.mpr below)

theorem joined_iff_scattered {first last text : List Char} {middle : List (List Char)} :
    Joined (first :: (middle ++ [last])) text ↔
      ∃ window, text = first ++ window ++ last ∧ Scattered middle window := by
  induction middle generalizing first text with
  | nil =>
      constructor
      · rintro ⟨filling, after, rfl, rfl⟩
        exact ⟨filling, rfl, trivial⟩
      · rintro ⟨window, rfl, -⟩
        exact ⟨window, last, rfl, rfl⟩
  | cons piece middle ih =>
      constructor
      · rintro ⟨filling, after, rfl, below⟩
        obtain ⟨window, rfl, scattered⟩ := ih.mp below
        exact ⟨filling ++ piece ++ window, by simp, filling, window, rfl, scattered⟩
      · rintro ⟨window, rfl, gap, after, rfl, scattered⟩
        exact ⟨gap, piece ++ after ++ last, by simp, ih.mpr ⟨after, rfl, scattered⟩⟩

/-! ### Both ends of a text -/

theorem exists_window {first last text : List Char} (starts : first <+: text) (ends : last <:+ text)
    (fits : byteLength first + byteLength last ≤ byteLength text) :
    ∃ window, text = first ++ window ++ last := by
  obtain ⟨front, rfl⟩ := ends
  rw [byteLength_append] at fits
  rcases List.prefix_or_prefix_of_prefix starts (List.prefix_append front last) with
    ⟨window, rfl⟩ | ⟨more, rfl⟩
  · exact ⟨window, rfl⟩
  · rw [byteLength_append] at fits
    obtain rfl := byteLength_eq_zero_iff.mp (show byteLength more = 0 by omega)
    exact ⟨[], by simp⟩

theorem exists_fitsBetween? (text first : List Char) (middle : List (List Char))
    (last : List Char) :
    ∃ verdict, fitsBetween? text first middle last = some verdict ∧
      (verdict = true ↔ ∃ window, text = first ++ window ++ last ∧ Scattered middle window) := by
  unfold fitsBetween?
  by_cases around : ∃ window, text = first ++ window ++ last
  · obtain ⟨window, rfl⟩ := around
    have starts : first.isPrefixOf (first ++ window ++ last) = true := by
      rw [List.isPrefixOf_iff_prefix, List.append_assoc]
      exact List.prefix_append first _
    have ends : last.isSuffixOf (first ++ window ++ last) = true := by
      rw [List.isSuffixOf_iff_suffix]
      exact List.suffix_append _ last
    have size : byteLength (first ++ window ++ last) =
        byteLength first + byteLength window + byteLength last := by
      rw [byteLength_append, byteLength_append]
    have fits : ¬ byteLength (first ++ window ++ last) < byteLength first + byteLength last := by
      omega
    have stop : byteLength (first ++ window ++ last) - byteLength last =
        byteLength first + byteLength window := by
      omega
    obtain ⟨verdict, decided, right⟩ := exists_occurBetween? first window last middle
    refine ⟨verdict, ?_, right.trans ?_⟩
    · simpa only [starts, ends, fits, stop, Bool.not_true, Bool.false_or, decide_false,
        Bool.false_eq_true, if_false] using decided
    · constructor
      · intro scattered
        exact ⟨window, rfl, scattered⟩
      · rintro ⟨other, same, scattered⟩
        obtain rfl := List.append_cancel_left (List.append_cancel_right same)
        exact scattered
  · refine ⟨false, ?_, ?_⟩
    · by_cases starts : first <+: text
      · by_cases ends : last <:+ text
        · have long : byteLength text < byteLength first + byteLength last := by
            by_contra fits
            exact around (exists_window starts ends (Nat.le_of_not_lt fits))
          simp [long]
        · simp [mt List.isSuffixOf_iff_suffix.mp ends]
      · simp [mt List.isPrefixOf_iff_prefix.mp starts]
    · simp only [Bool.false_eq_true, false_iff]
      rintro ⟨window, same, -⟩
      exact around ⟨window, same⟩

theorem exists_fitsPieces? {pieces : List (List Char)} (nonempty : pieces ≠ [])
    (text : List Char) :
    ∃ verdict, fitsPieces? text pieces = some verdict ∧ (verdict = true ↔ Joined pieces text) := by
  match pieces with
  | [only] =>
      refine ⟨only == text, rfl, ?_⟩
      rw [beq_iff_eq]
      exact eq_comm
  | first :: second :: rest =>
      obtain ⟨verdict, decided, right⟩ := exists_fitsBetween? text first (second :: rest).dropLast
        ((second :: rest).getLast (List.cons_ne_nil second rest))
      refine ⟨verdict, decided, right.trans ?_⟩
      rw [← joined_iff_scattered, List.dropLast_append_getLast]

theorem wildcardVerdict?_eq (pattern text : String) :
    wildcardVerdict? pattern text = some (wildcardMatches pattern text) := by
  obtain ⟨verdict, decided, -⟩ :=
    exists_fitsPieces? (pieces_ne_nil '*' pattern.toList) text.toList
  rw [wildcardMatches, wildcardVerdict?, decided, Option.getD_some]

theorem wildcardMatches_iff_fills (pattern text : String) :
    wildcardMatches pattern text = true ↔ Fills pattern.toList text.toList := by
  obtain ⟨verdict, decided, right⟩ :=
    exists_fitsPieces? (pieces_ne_nil '*' pattern.toList) text.toList
  rw [wildcardMatches, wildcardVerdict?, decided, Option.getD_some, right, fills_iff_joined]

/-- Matching always has a verdict: every stretch of the text that is looked at lies in range and
between borders of characters. The verdict is that the text fits exactly if it arises from the
pattern by replacing each star. -/
theorem wildcardMatches_complete (pattern text : String) :
    wildcardVerdict? pattern text = some (wildcardMatches pattern text) ∧
      (wildcardMatches pattern text = true ↔ Fills pattern.toList text.toList) :=
  ⟨wildcardVerdict?_eq pattern text, wildcardMatches_iff_fills pattern text⟩

end LayerLint.Text
