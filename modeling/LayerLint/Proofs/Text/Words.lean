import LayerLint.Text.Words
import Mathlib.Data.List.Basic
import Mathlib.Data.List.Pairwise

/-! The division of an identifier into words. The words are stretches of the text that hold its
letters, all of them and nothing else, and one ends inside a run of letters exactly where the case
of the letters around says so. The walk keeps the letters of the word that has begun; what it has
passed is divided already, and what it keeps is one stretch without a break. -/

namespace LayerLint.Text

/-! ### Stretches of a text -/

/-- A stretch of a text, from one position up to another. Positions count characters. -/
structure Span where
  start : Nat
  stop : Nat

namespace Span

def Holds (s : Span) (i : Nat) : Prop :=
  s.start ≤ i ∧ i < s.stop

def of (s : Span) (cs : List Char) : List Char :=
  (cs.drop s.start).take (s.stop - s.start)

theorem of_append (front middle back : List Char) :
    (⟨front.length, front.length + middle.length⟩ : Span).of (front ++ middle ++ back) =
      middle := by
  rw [of, List.append_assoc, List.drop_left, Nat.add_sub_cancel_left, List.take_left]

theorem of_ne_nil {s : Span} {cs : List Char} (nonempty : s.start < s.stop)
    (fits : s.stop ≤ cs.length) : s.of cs ≠ [] := by
  apply List.ne_nil_of_length_pos
  rw [of, List.length_take, List.length_drop]
  omega

end Span

def LetterAt (cs : List Char) (i : Nat) : Prop :=
  ∃ c, cs[i]? = some c ∧ isAlphabetic c = true

/-- By its case, what stands after the position begins a word: a capital after a small letter, or a
capital after another one and before a small letter. -/
def CaseBreak (cs : List Char) (i : Nat) : Prop :=
  ∃ a b, cs[i]? = some a ∧ cs[i + 1]? = some b ∧
    (isLowercase a = true ∧ isUppercase b = true ∨
      isUppercase a = true ∧ isUppercase b = true ∧ ∃ c, cs[i + 2]? = some c ∧ isLowercase c = true)

theorem letterAt_cons_zero {c : Char} {cs : List Char} :
    LetterAt (c :: cs) 0 ↔ isAlphabetic c = true := by
  simp [LetterAt]

theorem not_letterAt_of_length_le {cs : List Char} {i : Nat} (after : cs.length ≤ i) :
    ¬ LetterAt cs i := by
  rintro ⟨c, present, -⟩
  rw [List.getElem?_eq_none after] at present
  cases present

theorem caseBreak_iff {cs : List Char} {i : Nat} {a b : Char} (left : cs[i]? = some a)
    (right : cs[i + 1]? = some b) :
    CaseBreak cs i ↔ breaksBetween a b cs[i + 2]? = true := by
  simp only [CaseBreak, left, right, breaksBetween, Option.some.injEq, Bool.or_eq_true,
    Bool.and_eq_true, Option.any_eq_true, and_assoc]
  constructor
  · rintro ⟨a, b, rfl, rfl, breaks⟩
    exact breaks
  · intro breaks
    exact ⟨a, b, rfl, rfl, breaks⟩

/-! ### Dividing from the end -/

/-- The stretches divide the letters of a text, from a position on, into words. -/
structure DividesFrom (cs : List Char) (n : Nat) (spans : List Span) : Prop where
  proper : ∀ s ∈ spans, n ≤ s.start ∧ s.start < s.stop
  ordered : spans.Pairwise fun s t => s.stop ≤ t.start
  letters : ∀ i, n ≤ i → ((∃ s ∈ spans, s.Holds i) ↔ LetterAt cs i)
  joins : ∀ i, n ≤ i → LetterAt cs i → LetterAt cs (i + 1) →
    ((∃ s ∈ spans, s.Holds i ∧ s.Holds (i + 1)) ↔ ¬ CaseBreak cs i)

namespace DividesFrom

variable {cs : List Char} {n : Nat} {spans : List Span}

theorem nil (none : ∀ i, n ≤ i → ¬ LetterAt cs i) : DividesFrom cs n [] where
  proper := by simp
  ordered := .nil
  letters i after := by simp [none i after]
  joins i after letter := absurd letter (none i after)

theorem skip (other : ¬ LetterAt cs n) (below : DividesFrom cs (n + 1) spans) :
    DividesFrom cs n spans where
  proper s member := by
    have := below.proper s member
    omega
  ordered := below.ordered
  letters i after := by
    rcases Nat.eq_or_lt_of_le after with rfl | later
    · refine ⟨?_, fun letter => absurd letter other⟩
      rintro ⟨s, member, holds⟩
      have := below.proper s member
      have := holds.1
      omega
    · exact below.letters i later
  joins i after letter next := by
    rcases Nat.eq_or_lt_of_le after with rfl | later
    · exact absurd letter other
    · exact below.joins i later letter next

/-- A word is put before a division: after it comes no letter up to where the division begins, or
the case of the next letter begins a word. -/
theorem cons {k m : Nat} (below : DividesFrom cs m spans) (nonempty : n < k) (ends : k ≤ m)
    (inside : ∀ i, n ≤ i → i < k → LetterAt cs i)
    (whole : ∀ i, n ≤ i → i + 1 < k → ¬ CaseBreak cs i)
    (gap : ∀ i, k ≤ i → i < m → ¬ LetterAt cs i)
    (breaks : LetterAt cs k → CaseBreak cs (k - 1)) :
    DividesFrom cs n (⟨n, k⟩ :: spans) := by
  have later : ∀ s ∈ spans, ∀ i, s.Holds i → m ≤ i := by
    intro s member i holds
    exact Nat.le_trans (below.proper s member).1 holds.1
  constructor
  · intro s member
    rcases List.mem_cons.mp member with rfl | member
    · exact ⟨Nat.le_refl n, nonempty⟩
    · have := below.proper s member
      omega
  · refine List.pairwise_cons.mpr ⟨fun s member => ?_, below.ordered⟩
    exact Nat.le_trans ends (below.proper s member).1
  · intro i after
    rw [List.exists_mem_cons_iff]
    by_cases first : i < k
    · exact iff_of_true (.inl ⟨after, first⟩) (inside i after first)
    · by_cases between : i < m
      · refine iff_of_false ?_ (gap i (by omega) between)
        rintro (⟨-, early⟩ | ⟨s, member, holds⟩)
        · exact first early
        · have := later s member i holds
          omega
      · rw [← below.letters i (by omega)]
        exact or_iff_right fun holds => first holds.2
  · intro i after letter next
    rw [List.exists_mem_cons_iff]
    rcases Nat.lt_trichotomy (i + 1) k with early | last | late
    · exact iff_of_true (.inl ⟨⟨after, Nat.lt_of_succ_lt early⟩, Nat.le_succ_of_le after, early⟩)
        (whole i after early)
    · subst last
      refine iff_of_false ?_ (not_not_intro (breaks next))
      rintro (⟨-, -, long⟩ | ⟨s, member, holds, -⟩)
      · exact Nat.lt_irrefl _ long
      · have := later s member i holds
        omega
    · have beyond : m ≤ i := by
        by_contra between
        exact gap i (by omega) (by omega) letter
      rw [← below.joins i beyond letter next]
      refine or_iff_right fun holds => ?_
      have early : i < k := holds.1.2
      omega

end DividesFrom

/-! ### The walk -/

section Walk

/-! Of the text, `front` is divided already, and `held` are the letters of the word that has begun,
the last one first. -/

variable {cs front held rest : List Char}

theorem getElem?_rest (text : cs = front ++ held.reverse ++ rest) (j : Nat) :
    cs[front.length + held.length + j]? = rest[j]? := by
  rw [text, List.getElem?_append_right (by simp)]
  simp

theorem letterAt_rest_iff (text : cs = front ++ held.reverse ++ rest) (j : Nat) :
    LetterAt cs (front.length + held.length + j) ↔ LetterAt rest j := by
  rw [LetterAt, getElem?_rest text, LetterAt]

theorem letterAt_held (text : cs = front ++ held.reverse ++ rest)
    (letters : ∀ c ∈ held, isAlphabetic c = true) {i : Nat} (after : front.length ≤ i)
    (before : i < front.length + held.length) : LetterAt cs i := by
  have bound : i - front.length < held.reverse.length := by
    rw [List.length_reverse]
    omega
  refine ⟨held.reverse[i - front.length], ?_,
    letters _ (List.mem_reverse.mp (List.getElem_mem bound))⟩
  rw [text, List.append_assoc, List.getElem?_append_right after, List.getElem?_append_left bound,
    List.getElem?_eq_getElem bound]

theorem caseBreak_last_iff {w c : Char} (text : cs = front ++ (w :: held).reverse ++ c :: rest) :
    CaseBreak cs (front.length + held.length) ↔ breaksBetween w c rest.head? = true := by
  have left : cs[front.length + held.length]? = some w := by
    rw [List.reverse_cons, ← List.append_assoc, List.append_assoc] at text
    exact getElem?_rest text 0
  have right : cs[front.length + held.length + 1]? = some c := getElem?_rest text 0
  have next : cs[front.length + held.length + 2]? = rest.head? := by
    rw [List.head?_eq_getElem?]
    exact getElem?_rest text 1
  rw [caseBreak_iff left right, next]

/-- The word that has begun ends here. -/
theorem exists_dividesFrom_cons (text : cs = front ++ held.reverse ++ rest) (nonempty : held ≠ [])
    (letters : ∀ c ∈ held, isAlphabetic c = true)
    (whole : ∀ i, front.length ≤ i → i + 1 < front.length + held.length → ¬ CaseBreak cs i)
    {m : Nat} {found : List (List Char)} (ends : front.length + held.length ≤ m)
    (gap : ∀ i, front.length + held.length ≤ i → i < m → ¬ LetterAt cs i)
    (breaks : LetterAt cs (front.length + held.length) →
      CaseBreak cs (front.length + held.length - 1))
    (below : ∃ spans, DividesFrom cs m spans ∧ found = spans.map fun s => s.of cs) :
    ∃ spans, DividesFrom cs front.length spans ∧
      held.reverse :: found = spans.map fun s => s.of cs := by
  obtain ⟨spans, divides, rfl⟩ := below
  have long := List.length_pos_iff.mpr nonempty
  refine ⟨⟨front.length, front.length + held.length⟩ :: spans, ?_, ?_⟩
  · exact divides.cons (by omega) ends (fun i => letterAt_held text letters) whole gap breaks
  · have word := Span.of_append front held.reverse rest
    rw [List.length_reverse, ← text] at word
    rw [List.map_cons, word]

end Walk

/-- The words of a text are what stands in the stretches of a division. -/
theorem exists_dividesFrom {cs front held rest : List Char}
    (text : cs = front ++ held.reverse ++ rest) (letters : ∀ c ∈ held, isAlphabetic c = true)
    (whole : ∀ i, front.length ≤ i → i + 1 < front.length + held.length → ¬ CaseBreak cs i) :
    ∃ spans, DividesFrom cs front.length spans ∧
      wordsAfter held rest = spans.map fun s => s.of cs := by
  fun_induction wordsAfter held rest generalizing front with
  | case1 =>
      refine ⟨[], .nil fun i after => not_letterAt_of_length_le ?_, rfl⟩
      simpa [text] using after
  | case2 w ws =>
      have none : ∀ i, front.length + (w :: ws).length ≤ i → ¬ LetterAt cs i := by
        intro i after
        apply not_letterAt_of_length_le
        simpa [text] using after
      exact exists_dividesFrom_cons text (List.cons_ne_nil w ws) letters whole (Nat.le_refl _)
        (fun i after _ => none i after) (fun letter => absurd letter (none _ (Nat.le_refl _)))
        ⟨[], .nil none, rfl⟩
  | case3 c rest letter ih =>
      refine ih (by simpa using text) (by simpa using letter) ?_
      intro i after before
      simp only [List.length_singleton] at before
      omega
  | case4 c rest other ih =>
      obtain ⟨spans, divides, found⟩ := @ih (front ++ [c]) (by simpa using text) letters
        (by simp; omega)
      refine ⟨spans, .skip ?_ (by simpa using divides), found⟩
      have here := letterAt_rest_iff text 0
      rw [letterAt_cons_zero] at here
      exact mt here.mp other
  | case5 w ws c rest other ih =>
      have none : ¬ LetterAt cs (front.length + (w :: ws).length) := by
        have here := letterAt_rest_iff text 0
        rw [letterAt_cons_zero] at here
        exact mt here.mp (by simpa using other)
      have below := @ih (front ++ (w :: ws).reverse ++ [c]) (by simpa using text) (by simp)
        (by simp; omega)
      have size : (front ++ (w :: ws).reverse ++ [c]).length =
          front.length + (w :: ws).length + 1 := by simp [Nat.add_assoc]
      rw [size] at below
      refine exists_dividesFrom_cons text (List.cons_ne_nil w ws) letters whole (Nat.le_succ _)
        (fun i after before => ?_) (fun letter => absurd letter none) below
      obtain rfl : i = front.length + (w :: ws).length := by omega
      exact none
  | case6 w ws c rest letter breaks ih =>
      have below := @ih (front ++ (w :: ws).reverse) (by simpa using text)
        (by simpa using letter) (by simp; omega)
      have size : (front ++ (w :: ws).reverse).length = front.length + (w :: ws).length := by simp
      rw [size] at below
      exact exists_dividesFrom_cons text (List.cons_ne_nil w ws) letters whole (Nat.le_refl _)
        (fun i after before => by omega) (fun _ => (caseBreak_last_iff text).mpr breaks) below
  | case7 w ws c rest letter joins ih =>
      refine ih (by simpa using text) ?_ ?_
      · exact List.forall_mem_cons.mpr ⟨by simpa using letter, letters⟩
      · intro i after before
        rcases Nat.lt_or_ge (i + 1) (front.length + (w :: ws).length) with early | last
        · exact whole i after early
        · obtain rfl : i = front.length + ws.length := by
            simp only [List.length_cons] at before last
            omega
          exact mt (caseBreak_last_iff text).mp joins

/-! ### Words and letters -/

theorem flatten_wordsAfter (held cs : List Char) :
    (wordsAfter held cs).flatten = held.reverse ++ cs.filter isAlphabetic := by
  fun_induction wordsAfter held cs with
  | case1 => rfl
  | case2 w ws => simp
  | case3 c cs letter ih => simp [ih, letter]
  | case4 c cs other ih => simp [ih, other]
  | case5 w ws c cs other ih => simp_all
  | case6 w ws c cs letter breaks ih => simp_all
  | case7 w ws c cs letter joins ih => simp_all

namespace DividesFrom

variable {cs : List Char} {n : Nat} {spans : List Span}

theorem eq_of_holds (divides : DividesFrom cs n spans) {s t : Span} (left : s ∈ spans)
    (right : t ∈ spans) {i : Nat} (holds : s.Holds i) (holds' : t.Holds i) : s = t := by
  have apart : spans.Pairwise fun s t => s.stop ≤ t.start ∨ t.stop ≤ s.start :=
    divides.ordered.imp Or.inl
  have : Std.Symm fun s t : Span => s.stop ≤ t.start ∨ t.stop ≤ s.start := ⟨fun _ _ => Or.symm⟩
  by_contra other
  have := apart.forall left right other
  obtain ⟨low, high⟩ := holds
  obtain ⟨low', high'⟩ := holds'
  omega

theorem stop_le (divides : DividesFrom cs n spans) {s : Span} (member : s ∈ spans) :
    s.stop ≤ cs.length := by
  obtain ⟨after, nonempty⟩ := divides.proper s member
  have last : s.Holds (s.stop - 1) := ⟨by omega, by omega⟩
  have letter := (divides.letters (s.stop - 1) (by omega)).mp ⟨s, member, last⟩
  by_contra beyond
  exact not_letterAt_of_length_le (by omega) letter

/-- Neighbouring letters stand in different stretches exactly at a break. -/
theorem parts_iff (divides : DividesFrom cs n spans) {i : Nat} (after : n ≤ i)
    (letter : LetterAt cs i) (next : LetterAt cs (i + 1)) :
    (∃ s ∈ spans, ∃ t ∈ spans, s ≠ t ∧ s.Holds i ∧ t.Holds (i + 1)) ↔ CaseBreak cs i := by
  rw [← not_iff_not, ← divides.joins i after letter next]
  constructor
  · intro never
    obtain ⟨s, left, holds⟩ := (divides.letters i after).mpr letter
    obtain ⟨t, right, holds'⟩ := (divides.letters (i + 1) (Nat.le_succ_of_le after)).mpr next
    obtain rfl : s = t := by
      by_contra other
      exact never ⟨s, left, t, right, other, holds, holds'⟩
    exact ⟨s, left, holds, holds'⟩
  · rintro ⟨u, member, here, there⟩ ⟨s, left, t, right, other, holds, holds'⟩
    apply other
    calc s = u := divides.eq_of_holds left member holds here
      _ = t := divides.eq_of_holds member right there holds'

end DividesFrom

/-- The words of an identifier hold letters only, none is empty, and together they are all its
letters in order. Each word is a stretch of the text. Neighbouring letters stand in different words
exactly where a capital follows a small letter, or a capital follows another and a small letter
comes next; and letters with something else between them never share a word. -/
theorem words_exact (name : String) :
    let cs := name.toList
    (∀ w ∈ words name, w ≠ "" ∧ ∀ c ∈ w.toList, isAlphabetic c = true) ∧
      String.join (words name) = String.ofList (cs.filter isAlphabetic) ∧
      ∃ spans : List Span,
        words name = spans.map (fun s => String.ofList (s.of cs)) ∧
        (∀ s ∈ spans, s.start < s.stop ∧ s.stop ≤ cs.length) ∧
        (spans.Pairwise fun s t => s.stop ≤ t.start) ∧
        (∀ i, (∃ s ∈ spans, s.Holds i) ↔ LetterAt cs i) ∧
        (∀ i, LetterAt cs i → LetterAt cs (i + 1) →
          ((∃ s ∈ spans, ∃ t ∈ spans, s ≠ t ∧ s.Holds i ∧ t.Holds (i + 1)) ↔ CaseBreak cs i)) ∧
        ∀ i j k, i < j → j < k → ¬ LetterAt cs j → ∀ s ∈ spans, s.Holds i → ¬ s.Holds k := by
  intro cs
  have text : cs = [] ++ ([] : List Char).reverse ++ cs := rfl
  obtain ⟨spans, divides, found⟩ := exists_dividesFrom text (List.forall_mem_nil _)
    fun i _ inside => absurd inside (Nat.not_lt_zero _)
  have stretches : words name = spans.map fun s => String.ofList (s.of cs) := by
    rw [words, found, List.map_map]
    rfl
  have joined : (words name).flatMap String.toList = cs.filter isAlphabetic := by
    rw [words, List.flatMap_map]
    simpa using flatten_wordsAfter [] cs
  have bounds : ∀ s ∈ spans, s.start < s.stop ∧ s.stop ≤ cs.length :=
    fun s member => ⟨(divides.proper s member).2, divides.stop_le member⟩
  refine ⟨?_, ?_, spans, stretches, bounds, divides.ordered,
    fun i => divides.letters i (Nat.zero_le i),
    fun i => divides.parts_iff (Nat.zero_le i), ?_⟩
  · intro w member
    constructor
    · rw [stretches] at member
      obtain ⟨s, span, rfl⟩ := List.mem_map.mp member
      have filled := Span.of_ne_nil (bounds s span).1 (bounds s span).2
      exact fun empty => filled (String.ofList_eq_empty_iff.mp empty)
    · intro c inside
      have letter : c ∈ (words name).flatMap String.toList :=
        List.mem_flatMap.mpr ⟨w, member, inside⟩
      rw [joined] at letter
      exact (List.mem_filter.mp letter).2
  · rw [← String.toList_inj, String.toList_join, joined, String.toList_ofList]
  · intro i j k before after other s member first last
    have here : s.Holds j := ⟨by have := first.1; omega, by have := last.2; omega⟩
    exact other ((divides.letters j (Nat.zero_le j)).mp ⟨s, member, here⟩)

theorem words_exact_acronym :
    words "HTTPRequest2" = ["HTTP", "Request"] ∧ ∃ spans : List Span,
      words "HTTPRequest2" = spans.map (fun s => String.ofList (s.of "HTTPRequest2".toList)) ∧
        ∃ s ∈ spans, ∃ t ∈ spans, s ≠ t ∧ s.Holds 3 ∧ t.Holds 4 := by
  obtain ⟨-, -, spans, stretches, -, -, -, parts, -⟩ := words_exact "HTTPRequest2"
  refine ⟨by decide +kernel, spans, stretches, ?_⟩
  have breaks : CaseBreak "HTTPRequest2".toList 3 :=
    ⟨'P', 'R', rfl, rfl, .inr ⟨by decide, by decide, 'e', rfl, by decide⟩⟩
  exact (parts 3 ⟨'P', rfl, by decide⟩ ⟨'R', rfl, by decide⟩).mpr breaks

end LayerLint.Text
