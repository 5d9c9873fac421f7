import LayerLint.Proofs.Text.LetterCase
import LayerLint.Text.Words

/-! The words of a test's name besides a leading `test`. Whether `test` is left out is decided by
the one character after it, and where a word ends by the case of up to three letters. Both agree
in the number of words: a word put before a text either stands on its own or lengthens the first
word. -/

namespace LayerLint.Text

/-! ### One step of the walk -/

section Step

variable {w c : Char} {ws cs : List Char}

theorem wordsAfter_letter (letter : isAlphabetic c = true) :
    wordsAfter [] (c :: cs) = wordsAfter [c] cs := by
  rw [wordsAfter, if_pos letter]

theorem wordsAfter_other (other : isAlphabetic c = false) :
    wordsAfter [] (c :: cs) = wordsAfter [] cs := by
  rw [wordsAfter, if_neg (by simp [other])]

theorem wordsAfter_end (other : isAlphabetic c = false) :
    wordsAfter (w :: ws) (c :: cs) = (w :: ws).reverse :: wordsAfter [] cs := by
  rw [wordsAfter, if_pos (by simp [other])]

theorem wordsAfter_break (letter : isAlphabetic c = true)
    (breaks : breaksBetween w c cs.head? = true) :
    wordsAfter (w :: ws) (c :: cs) = (w :: ws).reverse :: wordsAfter [c] cs := by
  rw [wordsAfter, if_neg (by simp [letter]), if_pos breaks]

theorem wordsAfter_join (letter : isAlphabetic c = true)
    (joins : breaksBetween w c cs.head? = false) :
    wordsAfter (w :: ws) (c :: cs) = wordsAfter (c :: w :: ws) cs := by
  rw [wordsAfter, if_neg (by simp [letter]), if_neg (by simp [joins])]

end Step

/-! ### A word before a text -/

/-- How a word goes on depends on its last letter only. -/
theorem exists_wordsAfter_eq_cons (w : Char) (cs : List Char) :
    ∃ first rest, ∀ ws, wordsAfter (w :: ws) cs = ((w :: ws).reverse ++ first) :: rest := by
  induction cs generalizing w with
  | nil =>
      refine ⟨[], [], ?_⟩
      intro ws
      rw [wordsAfter, List.append_nil]
  | cons c cs ih =>
      cases letter : isAlphabetic c with
      | false =>
          refine ⟨[], wordsAfter [] cs, ?_⟩
          intro ws
          rw [wordsAfter_end letter, List.append_nil]
      | true =>
          cases breaks : breaksBetween w c cs.head? with
          | true =>
              refine ⟨[], wordsAfter [c] cs, ?_⟩
              intro ws
              rw [wordsAfter_break letter breaks, List.append_nil]
          | false =>
              obtain ⟨first, rest, same⟩ := ih c
              refine ⟨c :: first, rest, ?_⟩
              intro ws
              rw [wordsAfter_join letter breaks, same]
              simp

/-- A word with the last letter `w` goes no further into the text. -/
def EndsBefore (w : Char) (cs : List Char) : Prop :=
  ∀ c more, cs = c :: more → isAlphabetic c = true → breaksBetween w c more.head? = true

theorem wordsAfter_of_endsBefore {w : Char} {cs : List Char} (ends : EndsBefore w cs)
    (ws : List Char) : wordsAfter (w :: ws) cs = (w :: ws).reverse :: wordsAfter [] cs := by
  cases cs with
  | nil => rfl
  | cons c cs =>
      cases letter : isAlphabetic c with
      | false => rw [wordsAfter_end letter, wordsAfter_other letter]
      | true => rw [wordsAfter_break letter (ends c cs rfl letter), wordsAfter_letter letter]

theorem wordsAfter_of_not_endsBefore {w : Char} {cs : List Char} (goesOn : ¬ EndsBefore w cs)
    (ws : List Char) : ∃ first rest, first ≠ [] ∧ wordsAfter [] cs = first :: rest ∧
      wordsAfter (w :: ws) cs = ((w :: ws).reverse ++ first) :: rest := by
  simp only [EndsBefore, not_forall, Bool.not_eq_true] at goesOn
  obtain ⟨c, more, rfl, letter, joins⟩ := goesOn
  obtain ⟨first, rest, same⟩ := exists_wordsAfter_eq_cons c more
  refine ⟨c :: first, rest, List.cons_ne_nil c first, ?_, ?_⟩
  · rw [wordsAfter_letter letter, same]
    rfl
  · rw [wordsAfter_join letter joins, same]
    simp

/-! ### `test` before a text -/

/-- After `test` comes no letter, or a capital that begins a word. After `TEST` a capital does so
only if a small letter follows it. -/
def StandsAlone (start : String) (rest : List Char) : Prop :=
  ∀ c more, rest = c :: more → isAlphabetic c = true → isUppercase c = true ∧
    (start = "TEST" → ∃ next, more.head? = some next ∧ isLowercase next = true)

theorem not_standsAlone_of_small {start : String} {rest : List Char}
    (small : rest.head?.any isLowercase = true) : ¬ StandsAlone start rest := by
  intro alone
  obtain ⟨c, first, lower⟩ := (Option.any_eq_true ..).mp small
  obtain ⟨more, rfl⟩ := List.head?_eq_some_iff.mp first
  have capital := (alone c more rfl (isAlphabetic_of_isLowercase lower)).1
  rw [isUppercase_of_isLowercase lower] at capital
  cases capital

theorem breaksBetween_small {w : Char} (small : isLowercase w = true) (c : Char)
    (next : Option Char) : breaksBetween w c next = isUppercase c := by
  simp [breaksBetween, small, isUppercase_of_isLowercase small]

theorem breaksBetween_capitals {w c : Char} (left : isUppercase w = true)
    (right : isUppercase c = true) (other : isLowercase w = false) (next : Option Char) :
    breaksBetween w c next = next.any isLowercase := by
  simp [breaksBetween, left, right, other]

theorem breaksBetween_of_not_capital {c : Char} (other : isUppercase c = false) (w : Char)
    (next : Option Char) : breaksBetween w c next = false := by
  simp [breaksBetween, other]

theorem wordsAfter_est (w : Char) (rest : List Char) :
    wordsAfter [w] ('e' :: 's' :: 't' :: rest) = wordsAfter ['t', 's', 'e', w] rest := by
  rw [wordsAfter_join (by decide), wordsAfter_join (by decide), wordsAfter_join (by decide)]
  all_goals exact breaksBetween_of_not_capital (by decide) _ _

theorem endsBefore_small_iff {start : String} (other : start ≠ "TEST") (rest : List Char) :
    EndsBefore 't' rest ↔ StandsAlone start rest := by
  have small : isLowercase 't' = true := by decide
  simp [EndsBefore, StandsAlone, other, breaksBetween_small small]

theorem endsBefore_capital_iff (rest : List Char) :
    EndsBefore 'T' rest ↔ StandsAlone "TEST" rest := by
  have capital : isUppercase 'T' = true := by decide
  have other : isLowercase 'T' = false := by decide
  simp [EndsBefore, StandsAlone, breaksBetween, capital, other, Option.any_eq_true]

/-- A spelling of `test` is read as one word, except that its last letter goes with a small letter
after `TEST`. -/
theorem wordsAfter_test {start : String} (spelled : start ∈ ["test", "Test", "TEST"])
    (rest : List Char) :
    (∃ w ws, start.toList = (w :: ws).reverse ∧
        wordsAfter [] (start.toList ++ rest) = wordsAfter (w :: ws) rest ∧
        (EndsBefore w rest ↔ StandsAlone start rest)) ∨
      start = "TEST" ∧ rest.head?.any isLowercase = true ∧
        wordsAfter [] (start.toList ++ rest) = ['T', 'E', 'S'] :: wordsAfter ['T'] rest := by
  simp only [List.mem_cons, List.not_mem_nil, or_false] at spelled
  rcases spelled with rfl | rfl | rfl
  · refine .inl ⟨'t', ['s', 'e', 't'], rfl, ?_, endsBefore_small_iff (by decide) rest⟩
    show wordsAfter [] ('t' :: 'e' :: 's' :: 't' :: rest) = _
    rw [wordsAfter_letter (by decide), wordsAfter_est]
  · refine .inl ⟨'t', ['s', 'e', 'T'], rfl, ?_, endsBefore_small_iff (by decide) rest⟩
    show wordsAfter [] ('T' :: 'e' :: 's' :: 't' :: rest) = _
    rw [wordsAfter_letter (by decide), wordsAfter_est]
  · have begun :
        wordsAfter [] ("TEST".toList ++ rest) = wordsAfter ['S', 'E', 'T'] ('T' :: rest) := by
      show wordsAfter [] ('T' :: 'E' :: 'S' :: 'T' :: rest) = _
      rw [wordsAfter_letter (by decide), wordsAfter_join (by decide) rfl,
        wordsAfter_join (by decide) rfl]
    have last : breaksBetween 'S' 'T' rest.head? = rest.head?.any isLowercase :=
      breaksBetween_capitals (by decide) (by decide) (by decide) _
    cases small : rest.head?.any isLowercase with
    | false =>
        refine .inl ⟨'T', ['S', 'E', 'T'], rfl, ?_, endsBefore_capital_iff rest⟩
        rw [begun, wordsAfter_join (by decide) (last.trans small)]
    | true =>
        refine .inr ⟨rfl, rfl, ?_⟩
        rw [begun, wordsAfter_break (by decide) (last.trans small)]
        rfl

theorem head?_wordsAfter_test_iff {start : String} (spelled : start ∈ ["test", "Test", "TEST"])
    (rest : List Char) :
    (wordsAfter [] (start.toList ++ rest)).head? = some start.toList ↔ StandsAlone start rest := by
  rcases wordsAfter_test spelled rest with
    ⟨w, ws, same, read, alone⟩ | ⟨rfl, small, read⟩
  · rw [read, ← alone, same]
    constructor
    · intro first
      by_contra goesOn
      obtain ⟨added, others, filled, -, joined⟩ := wordsAfter_of_not_endsBefore goesOn ws
      rw [joined, List.head?_cons, Option.some.injEq, List.append_right_eq_self] at first
      exact filled first
    · intro ends
      rw [wordsAfter_of_endsBefore ends, List.head?_cons]
  · rw [read, List.head?_cons]
    exact iff_of_false (by decide) (not_standsAlone_of_small small)

theorem length_wordsAfter_test {start : String} (spelled : start ∈ ["test", "Test", "TEST"])
    {rest : List Char} (other : rest.head?.any isLowercase = false) :
    (wordsAfter [] rest).length =
      if (wordsAfter [] (start.toList ++ rest)).head? = some start.toList then
        (wordsAfter [] (start.toList ++ rest)).length - 1
      else (wordsAfter [] (start.toList ++ rest)).length := by
  rcases wordsAfter_test spelled rest with
    ⟨w, ws, same, read, alone⟩ | ⟨rfl, small, read⟩
  · have ends_iff := alone.trans (head?_wordsAfter_test_iff spelled rest).symm
    split
    · next first =>
        rw [read, wordsAfter_of_endsBefore (ends_iff.mpr first), List.length_cons,
          Nat.add_sub_cancel]
    · next longer =>
        obtain ⟨added, others, -, alike, joined⟩ :=
          wordsAfter_of_not_endsBefore (mt ends_iff.mp longer) ws
        rw [read, alike, joined, List.length_cons, List.length_cons]
  · rw [small] at other
    cases other

/-! ### Names of tests -/

theorem wordsAfter_dropWhile_underscore (cs : List Char) :
    wordsAfter [] (cs.dropWhile (· == '_')) = wordsAfter [] cs := by
  induction cs with
  | nil => rfl
  | cons c cs ih =>
      rw [List.dropWhile_cons]
      split
      · next underscore =>
          rw [ih, wordsAfter_other]
          rw [beq_iff_eq.mp underscore]
          decide
      · rfl

theorem withoutTestWord_of_not_test {name : String}
    (other : ∀ start : String, lowerAscii start = "test" → ¬ start.toList <+: name.toList) :
    withoutTestWord name = name := by
  have none : ¬ (lowerAscii (String.ofList (name.toList.take 4)) == "test") = true := by
    intro spelled
    apply other _ (beq_iff_eq.mp spelled)
    rw [String.toList_ofList]
    exact List.take_prefix 4 name.toList
  simp only [withoutTestWord]
  rw [if_neg none]

theorem withoutTestWord_test {start : String} (spelled : start ∈ ["test", "Test", "TEST"])
    (rest : String) :
    withoutTestWord (start ++ rest) =
      if rest.toList.head?.any isLowercase then start ++ rest
      else String.ofList (rest.toList.dropWhile (· == '_')) := by
  have parts : lowerAscii start = "test" ∧ start.toList.length = 4 := by
    simp only [List.mem_cons, List.not_mem_nil, or_false] at spelled
    rcases spelled with rfl | rfl | rfl <;> decide +kernel
  simp only [withoutTestWord, String.toList_append]
  rw [List.take_left' parts.2, List.drop_left' parts.2, String.ofList_toList, parts.1,
    if_pos (beq_self_eq_true _)]
  cases rest.toList with
  | nil => rfl
  | cons c more => rfl

theorem length_words (name : String) :
    (words name).length = (wordsAfter [] name.toList).length :=
  List.length_map _

theorem head?_words_eq_some_iff {name word : String} :
    (words name).head? = some word ↔ (wordsAfter [] name.toList).head? = some word.toList := by
  rw [words, List.head?_map, Option.map_eq_some_iff]
  constructor
  · rintro ⟨cs, first, rfl⟩
    rw [first, String.toList_ofList]
  · intro first
    exact ⟨word.toList, first, String.ofList_toList⟩

/-- A name that does not begin with `test`, in whatever case, is described by all its words. After a
leading `test`, `Test` or `TEST` the count leaves out one word exactly if this is the first word,
and so exactly if no letter follows or a capital begins the next word. -/
theorem descriptiveWords_exact (name : String) :
    ((∀ start : String, lowerAscii start = "test" → ¬ start.toList <+: name.toList) →
        descriptiveWords name = (words name).length) ∧
      ∀ start ∈ ["test", "Test", "TEST"], ∀ rest : String, name = start ++ rest →
        ((words name).head? = some start ↔ StandsAlone start rest.toList) ∧
        descriptiveWords name =
          if (words name).head? = some start then (words name).length - 1
          else (words name).length := by
  refine ⟨fun other => by rw [descriptiveWords, withoutTestWord_of_not_test other], ?_⟩
  rintro start spelled rest rfl
  have alone : (words (start ++ rest)).head? = some start ↔ StandsAlone start rest.toList := by
    rw [head?_words_eq_some_iff, String.toList_append]
    exact head?_wordsAfter_test_iff spelled rest.toList
  refine ⟨alone, ?_⟩
  rw [descriptiveWords, withoutTestWord_test spelled]
  cases small : rest.toList.head?.any isLowercase with
  | true =>
      rw [if_pos rfl, if_neg (mt alone.mp (not_standsAlone_of_small small))]
  | false =>
      have counted := length_wordsAfter_test spelled small
      rw [if_neg (by decide)]
      simpa only [head?_words_eq_some_iff, length_words, String.toList_append,
        String.toList_ofList, wordsAfter_dropWhile_underscore] using counted

theorem descriptiveWords_exact_two_names :
    words "TESTLogin" = ["TEST", "Login"] ∧ descriptiveWords "TESTLogin" = 1 ∧
      words "TESTING" = ["TESTING"] ∧ descriptiveWords "TESTING" = 1 := by
  have split : words "TESTLogin" = ["TEST", "Login"] := by decide +kernel
  have whole : words "TESTING" = ["TESTING"] := by decide +kernel
  have one := ((descriptiveWords_exact "TESTLogin").2 "TEST" (by decide) "Login" rfl).2
  have all := ((descriptiveWords_exact "TESTING").2 "TEST" (by decide) "ING" rfl).2
  rw [split] at one
  rw [whole] at all
  exact ⟨split, one, whole, all⟩

end LayerLint.Text
