import LayerLint.Proofs.Json.Spelling
import LayerLint.Settings.Reader
import Mathlib.Data.List.Forall2

/-! What readers make of spelled documents. A reader that has read a part of a text stands right
after it; where the text stands matters for faults alone. -/

namespace LayerLint.Json

/-- A reader makes `x` of a text and leaves `rest` of it, wherever the text stands. -/
def Reads {α : Type} (r : Read α) (cs : List Char) (x : α) (rest : List Char) : Prop :=
  ∀ m, ∃ m', r.run ⟨cs, m⟩ = .ok (x, ⟨rest, m'⟩)

section

variable {α β : Type} {r : Read α} {cs mid rest : List Char} {x : α} {y : β}

theorem Reads.pure (x : α) (cs : List Char) : Reads (pure x) cs x cs :=
  fun m => ⟨m, rfl⟩

theorem Reads.bind {f : α → Read β} (first : Reads r cs x mid) (second : Reads (f x) mid y rest) :
    Reads (r >>= f) cs y rest := by
  intro m
  obtain ⟨m₁, ran⟩ := first m
  obtain ⟨m₂, ran'⟩ := second m₁
  refine ⟨m₂, ?_⟩
  rw [StateT.run_bind, ran]
  exact ran'

theorem Reads.get_bind {f : Cursor → Read β} (reads : ∀ m, Reads (f ⟨cs, m⟩) cs y rest) :
    Reads (get >>= f) cs y rest :=
  fun m => reads m m

theorem Reads.run' (reads : Reads r cs x rest) : r.run' { rest := cs } = .ok x := by
  obtain ⟨m, ran⟩ := reads {}
  rw [StateT.run'_eq, ran]
  rfl

theorem Reads.map (f : α → β) (reads : Reads r cs x rest) :
    Reads (do return f (← r)) cs (f x) rest :=
  reads.bind (.pure _ _)

end

theorem reads_next? (cs : List Char) : Reads next? cs cs.head? cs :=
  fun m => ⟨m, rfl⟩

theorem reads_bump (c : Char) (cs : List Char) : Reads bump (c :: cs) () cs :=
  fun m => ⟨m.next c, rfl⟩

/-! ### Blanks -/

theorem skipSpace_rest (m : Mark) (cs : List Char) :
    (skipSpace m cs).rest = cs.dropWhile isSpace := by
  induction cs generalizing m with
  | nil => rfl
  | cons c cs ih =>
      rw [skipSpace, List.dropWhile_cons]
      split
      · exact ih _
      · rfl

theorem reads_nextPastSpace? (cs : List Char) :
    Reads nextPastSpace? cs (cs.dropWhile isSpace).head? (cs.dropWhile isSpace) := by
  intro m
  refine ⟨(skipSpace m cs).mark, ?_⟩
  rw [← skipSpace_rest m cs]
  rfl

/-- Blanks before a character are passed over. -/
theorem reads_past {ws : List Char} (blanks : Blanks ws) {c : Char} (visible : isSpace c = false)
    (cs : List Char) : Reads nextPastSpace? (ws ++ c :: cs) (some c) (c :: cs) := by
  have dropped : (ws ++ c :: cs).dropWhile isSpace = c :: cs := by
    rw [List.dropWhile_append_of_pos blanks]
    exact List.dropWhile_cons_of_neg (by simp [visible])
  have reads := reads_nextPastSpace? (ws ++ c :: cs)
  rwa [dropped] at reads

theorem reads_past_end {ws : List Char} (blanks : Blanks ws) :
    Reads nextPastSpace? ws none [] := by
  have dropped : ws.dropWhile isSpace = [] := by
    rw [← List.append_nil ws, List.dropWhile_append_of_pos blanks, List.dropWhile_nil]
  have reads := reads_nextPastSpace? ws
  rwa [dropped] at reads

/-! ### Texts -/

theorem textAfter_char {c : Char} {xs : List Char} (spells : SpellsChar c xs) (m : Mark)
    (done rest : List Char) :
    ∃ m', textAfter m done (xs ++ rest) = textAfter m' (c :: done) rest := by
  cases spells with
  | itself visible quote backslash =>
      refine ⟨m.next c, ?_⟩
      simp [textAfter, backslash, Nat.not_lt_of_le visible]
  | @letter c x is =>
      refine ⟨m.plus 2, ?_⟩
      have other : x ≠ 'u' := by
        rintro rfl
        cases is
      simp [textAfter, is, other]
  | @code a b c d n is high low =>
      refine ⟨m.plus 6, ?_⟩
      -- The reader looks whether a second code follows; after a whole character it does not matter.
      by_cases second : ∃ e f g h rest', rest = '\\' :: 'u' :: e :: f :: g :: h :: rest'
      · obtain ⟨e, f, g, h, rest', rfl⟩ := second
        cases other : hexOf? e f g h <;> simp [textAfter, is, high, low, other]
      · have alone : ∀ e f g h rest', rest = '\\' :: 'u' :: e :: f :: g :: h :: rest' → False :=
          fun e f g h rest' eq => second ⟨e, f, g, h, rest', eq⟩
        simp only [List.cons_append, List.nil_append]
        rw [textAfter.eq_5 _ _ _ _ _ _ _ alone]
        simp [is, high, low]
  | halves is is' high low =>
      refine ⟨m.plus 12, ?_⟩
      simp [textAfter, is, is', high, low]

theorem textAfter_spelled {s cs : List Char} (spells : SpellsText s cs) (m : Mark)
    (done rest : List Char) :
    ∃ m', textAfter m done (cs ++ '"' :: rest) = .ok (done.reverse ++ s, ⟨rest, m'⟩) := by
  induction spells generalizing m done with
  | nil =>
      refine ⟨m.plus 1, ?_⟩
      rw [List.nil_append, textAfter, List.append_nil]
  | cons first _ ih =>
      obtain ⟨m₁, step⟩ := textAfter_char first m done (_ ++ '"' :: rest)
      obtain ⟨m₂, read⟩ := ih m₁ (_ :: done)
      refine ⟨m₂, ?_⟩
      rw [List.append_assoc, step, read, List.reverse_cons, List.append_assoc]
      rfl

theorem reads_readText {s cs : List Char} (spells : SpellsText s cs) (rest : List Char) :
    Reads readText ('"' :: (cs ++ '"' :: rest)) (String.ofList s) rest := by
  intro m
  obtain ⟨m', read⟩ := textAfter_spelled spells (m.next '"') [] rest
  refine ⟨m', ?_⟩
  have start : (⟨'"' :: (cs ++ '"' :: rest), m⟩ : Cursor).bump = ⟨cs ++ '"' :: rest, m.next '"'⟩ :=
    rfl
  simp [readText, bump, start, read]

/-! ### Numbers -/

def Ends (rest : List Char) : Prop :=
  ∀ c ∈ rest.head?, isDigit c = false ∧ c ≠ '.' ∧ c ≠ 'e' ∧ c ≠ 'E'

theorem isDigit_of_mem_toDigits {n : Nat} {c : Char} (member : c ∈ Nat.toDigits 10 n) :
    isDigit c = true := by
  have digit := Nat.isDigit_of_mem_toDigits (by decide) (by decide) member
  simpa [isDigit, Char.isDigit, Char.le_def] using digit

theorem toDigits_eq_cons (n : Nat) : ∃ c cs, Nat.toDigits 10 n = c :: cs ∧ isDigit c = true := by
  obtain ⟨c, cs, digits⟩ := List.exists_cons_of_ne_nil (Nat.toDigits_ne_nil (n := n) (b := 10))
  refine ⟨c, cs, digits, isDigit_of_mem_toDigits (n := n) ?_⟩
  rw [digits]
  exact List.mem_cons_self

theorem isSpace_of_isDigit {c : Char} (digit : isDigit c = true) : isSpace c = false := by
  cases blank : isSpace c with
  | false => rfl
  | true =>
      simp only [isSpace, Bool.or_eq_true, beq_iff_eq] at blank
      rcases blank with ((rfl | rfl) | rfl) | rfl <;> cases digit

theorem ne_of_isDigit {c d : Char} (digit : isDigit c = true) (other : isDigit d = false) :
    c ≠ d := by
  rintro rfl
  rw [digit] at other
  cases other

theorem reads_takeDigits {ds rest : List Char} (digits : ∀ c ∈ ds, isDigit c = true)
    (stops : ∀ c ∈ rest.head?, isDigit c = false) : Reads takeDigits (ds ++ rest) ds rest := by
  have taken : (ds ++ rest).takeWhile isDigit = ds := by
    rw [List.takeWhile_append_of_pos digits]
    cases rest with
    | nil => rw [List.takeWhile_nil, List.append_nil]
    | cons c rest =>
        have other := stops c rfl
        rw [List.takeWhile_cons_of_neg (by simp [other]), List.append_nil]
  intro m
  refine ⟨m.plus ds.length, ?_⟩
  have ran : takeDigits.run ⟨ds ++ rest, m⟩ = .ok ((ds ++ rest).takeWhile isDigit,
      ⟨(ds ++ rest).drop ((ds ++ rest).takeWhile isDigit).length,
        m.plus ((ds ++ rest).takeWhile isDigit).length⟩) := rfl
  rw [ran, taken, List.drop_left]

theorem le_ofDigitChars (ds : List Char) (n : Nat) : n ≤ Nat.ofDigitChars 10 ds n := by
  induction ds generalizing n with
  | nil => exact Nat.le_refl n
  | cons d ds ih =>
      rw [Nat.ofDigitChars_cons]
      exact Nat.le_trans (by omega) (ih _)

/-- A number within the limit is taken in whole. -/
theorem significand_eq (ds : List Char) (n : Nat) (fits : Nat.ofDigitChars 10 ds n ≤ wholeLimit) :
    significand n ds = (Nat.ofDigitChars 10 ds n, 0) := by
  induction ds generalizing n with
  | nil => rfl
  | cons d ds ih =>
      rw [Nat.ofDigitChars_cons] at fits
      have step : n * 10 + (d.toNat - 48) = 10 * n + (d.toNat - '0'.toNat) := by
        rw [Nat.mul_comm]
        rfl
      have small := Nat.le_trans (le_ofDigitChars ds _) fits
      rw [significand]
      simp only [step, Nat.not_lt_of_le small, if_false]
      exact ih _ fits

/-- A number other than 0 does not begin with the digit 0. -/
theorem head_toDigits {n : Nat} (positive : 0 < n) :
    ∃ c cs, Nat.toDigits 10 n = c :: cs ∧ c ≠ '0' := by
  induction n using Nat.strongRecOn with
  | _ n ih =>
      rcases Nat.lt_or_ge n 10 with small | large
      · rw [Nat.toDigits_of_lt_base small]
        have nonzero : ∀ d < 10, 0 < d → d.digitChar ≠ '0' := by decide
        exact ⟨_, [], rfl, nonzero n small positive⟩
      · obtain ⟨c, cs, digits, nonzero⟩ := ih (n / 10) (by omega) (by omega)
        rw [Nat.toDigits_of_base_le (by decide) large, digits]
        exact ⟨c, cs ++ _, rfl, nonzero⟩

/-- Digits without a needless zero before them. -/
inductive IsInteger : List Char → Prop
  | zero : IsInteger ['0']
  | digits {c : Char} {ds : List Char} : c ≠ '0' → (∀ d ∈ c :: ds, isDigit d = true) →
      IsInteger (c :: ds)

theorem isInteger_toDigits (n : Nat) : IsInteger (Nat.toDigits 10 n) := by
  rcases Nat.eq_zero_or_pos n with rfl | positive
  · exact .zero
  · obtain ⟨c, cs, digits, nonzero⟩ := head_toDigits positive
    rw [digits]
    exact .digits nonzero fun d member => isDigit_of_mem_toDigits (digits ▸ member)

theorem any_isDigit_of_stops {cs : List Char} (stops : ∀ c ∈ cs.head?, isDigit c = false) :
    cs.head?.any isDigit = false := by
  cases cs with
  | nil => rfl
  | cons c cs => exact stops c rfl

theorem reads_integer {int rest : List Char} (integer : IsInteger int)
    (stops : ∀ c ∈ rest.head?, isDigit c = false) :
    Reads (do
      match ← next? with
      | none => refuse .endInValue
      | some c =>
        if c == '0' then
          bump
          if (← next?).any isDigit then refuseNext .invalidNumber
          return ['0']
        else if isDigit c then takeDigits
        else refuseNext .invalidNumber) (int ++ rest) int rest := by
  refine (reads_next? _).bind ?_
  cases integer with
  | zero =>
      rw [List.singleton_append]
      refine (reads_bump '0' _).bind ((reads_next? _).bind ?_)
      rw [any_isDigit_of_stops stops]
      exact .pure _ _
  | @digits c ds nonzero digits =>
      simp only [List.cons_append, List.head?_cons, beq_false_of_ne nonzero,
        digits c List.mem_cons_self, Bool.false_eq_true, if_false, if_true]
      exact reads_takeDigits digits stops

theorem reads_readNumber {n : Nat} (fits : n ≤ wholeLimit) {rest : List Char} (ends : Ends rest) :
    Reads (readNumber true) (Nat.toDigits 10 n ++ rest) (.natural n) rest := by
  have value : significand 0 (Nat.toDigits 10 n) = (n, 0) := by
    have whole := significand_eq (Nat.toDigits 10 n) 0
    rw [Nat.ofDigitChars_ten_toDigits] at whole
    exact whole fits
  refine (reads_integer (isInteger_toDigits n) fun c is => (ends c is).1).bind ?_
  rw [value]
  refine (reads_next? _).bind ?_
  cases rest with
  | nil => exact .pure _ _
  | cons c rest =>
      obtain ⟨-, point, small, large⟩ := ends c rfl
      simp only [List.head?_cons, Option.some.injEq, point, small, large, imp_self,
        Nat.lt_irrefl, if_false]
      exact .pure _ _

/-! ### Lists -/

/-- What stands before an item or a member: nothing before the first, and a comma before each
other one. -/
inductive Leads : Bool → List Char → Prop
  | first : Leads true []
  | next {b : List Char} : Blanks b → Leads false (b ++ [','])

/-- A spelled value begins with a character that is neither a blank nor the end of a list. -/
theorem Spells.head {v : Value} {cs : List Char} (spells : Spells v cs) :
    ∃ c ds, cs = c :: ds ∧ isSpace c = false ∧ c ≠ ']' := by
  cases spells with
  | number n =>
      obtain ⟨c, ds, digits, digit⟩ := toDigits_eq_cons n
      exact ⟨c, ds, digits, isSpace_of_isDigit digit, ne_of_isDigit digit rfl⟩
  | string _ => exact ⟨_, _, rfl, rfl, by decide⟩
  | emptyArray _ => exact ⟨_, _, rfl, rfl, by decide⟩
  | array _ => exact ⟨_, _, rfl, rfl, by decide⟩
  | emptyObject _ => exact ⟨_, _, rfl, rfl, by decide⟩
  | object _ => exact ⟨_, _, rfl, rfl, by decide⟩

theorem ends_nil : Ends [] := by
  intro c none
  cases none

theorem Ends.of_blanks {b : List Char} (blanks : Blanks b) {rest : List Char}
    (ends : Ends rest) : Ends (b ++ rest) := by
  cases b with
  | nil => exact ends
  | cons x b =>
      intro d is
      obtain rfl := Option.mem_some.mp is
      have blank := blanks x List.mem_cons_self
      simp only [isSpace, Bool.or_eq_true, beq_iff_eq] at blank
      rcases blank with ((rfl | rfl) | rfl) | rfl <;> decide

theorem ends_comma (rest : List Char) : Ends (',' :: rest) := by
  rintro c ⟨⟩
  decide

theorem ends_bracket (rest : List Char) : Ends (']' :: rest) := by
  rintro c ⟨⟩
  decide

theorem ends_brace (rest : List Char) : Ends ('\x7d' :: rest) := by
  rintro c ⟨⟩
  decide

theorem reads_hasItem {first : Bool} {before : List Char} (leads : Leads first before)
    {a : List Char} (blanks : Blanks a) {c : Char} (visible : isSpace c = false) (other : c ≠ ']')
    (cs : List Char) : Reads (hasItem first) (before ++ (a ++ c :: cs)) true (c :: cs) := by
  cases leads with
  | first =>
      refine (reads_past blanks visible cs).bind ?_
      simp only [if_true]
      exact .pure _ _
  | @next b blanks' =>
      rw [List.append_assoc]
      refine (reads_past blanks' rfl _).bind ((reads_bump ',' _).bind ?_)
      refine (reads_past blanks visible cs).bind ?_
      simp only
      exact .pure _ _

theorem reads_hasItem_end (first : Bool) {a : List Char} (blanks : Blanks a) (cs : List Char) :
    Reads (hasItem first) (a ++ ']' :: cs) false (']' :: cs) :=
  (reads_past blanks rfl cs).bind (.pure _ _)

theorem reads_endList (cs : List Char) : Reads endList (']' :: cs) () cs :=
  (reads_past blanks_nil rfl cs).bind (reads_bump ']' cs)

section

variable {α : Type} {item : Read α}

theorem length_of_spellsItems {vs : List Value} {cs : List Char} (spells : SpellsItems vs cs) :
    vs.length ≤ cs.length := by
  induction vs generalizing cs with
  | nil => exact Nat.zero_le _
  | cons v vs ih =>
      cases spells with
      | last _ spelled _ =>
          obtain ⟨c, ds, rfl, -⟩ := spelled.head
          simp only [List.length_append, List.length_cons, List.length_nil]
          omega
      | next _ _ _ more =>
          have shorter := ih more
          simp only [List.length_append, List.length_cons]
          omega

theorem reads_readItems_end (fuel : Nat) (first : Bool) {a : List Char} (blanks : Blanks a)
    (rest : List Char) :
    Reads (readItems item (fuel + 1) first) (a ++ ']' :: rest) [] (']' :: rest) :=
  (reads_hasItem_end first blanks rest).bind (.pure _ _)

/-- Items are read one after the other, if each of them is read as such. -/
theorem reads_readItems {vs : List Value} {xs : List α} {cs : List Char}
    (spells : SpellsItems vs cs)
    (reads : List.Forall₂ (fun v x => ∀ ds rest, ds.length ≤ cs.length → Spells v ds → Ends rest →
      Reads item (ds ++ rest) x rest) vs xs)
    {fuel : Nat} (enough : xs.length < fuel) {first : Bool} {before : List Char}
    (leads : Leads first before) (rest : List Char) :
    Reads (readItems item fuel first) (before ++ (cs ++ ']' :: rest)) xs (']' :: rest) := by
  induction xs generalizing vs cs fuel first before with
  | nil =>
      cases reads
      cases spells
  | cons x xs ih =>
      obtain ⟨fuel, rfl⟩ := Nat.exists_eq_add_one.mpr (Nat.zero_lt_of_lt enough)
      rw [List.length_cons] at enough
      obtain _ | ⟨own, others⟩ := reads
      cases spells with
      | @last _ a ds b blanks spelled blanks' =>
          cases others
          obtain ⟨fuel, rfl⟩ := Nat.exists_eq_add_one.mpr (Nat.lt_of_succ_lt_succ enough)
          have read := own ds (b ++ ']' :: rest)
            (by simp only [List.length_append]; omega) spelled
            (.of_blanks blanks' (ends_bracket rest))
          obtain ⟨c, es, rfl, visible, other⟩ := spelled.head
          simp only [List.append_assoc, List.cons_append]
          exact (reads_hasItem leads blanks visible other _).bind
            (read.bind ((reads_readItems_end fuel false blanks' rest).bind (.pure _ _)))
      | @next _ _ a ds b es blanks spelled blanks' more =>
          have read := own ds (b ++ ',' :: (es ++ ']' :: rest))
            (by simp only [List.length_append]; omega) spelled
            (.of_blanks blanks' (ends_comma _))
          have further := ih more
            (others.imp fun _ _ later ds rest shorter => later ds rest
              (by simp only [List.length_append, List.length_cons]; omega))
            (Nat.lt_of_succ_lt_succ enough) (.next blanks')
          obtain ⟨c, cs, rfl, visible, other⟩ := spelled.head
          simp only [List.append_assoc, List.cons_append, List.nil_append] at further ⊢
          exact (reads_hasItem leads blanks visible other _).bind
            (read.bind (further.bind (.pure _ _)))

/-- A list is read, if each of its items is. -/
theorem reads_readList {vs : List Value} {xs : List α} {cs : List Char}
    (spells : Spells (.array vs) cs)
    (reads : List.Forall₂ (fun v x => ∀ ds rest, ds.length < cs.length → Spells v ds → Ends rest →
      Reads item (ds ++ rest) x rest) vs xs)
    {a : List Char} (blanks : Blanks a) (rest : List Char) :
    Reads (readList item) (a ++ (cs ++ rest)) xs rest := by
  cases spells with
  | @emptyArray ws blanks' =>
      cases reads
      simp only [List.append_assoc, List.cons_append, List.nil_append]
      refine (reads_past blanks rfl _).bind ((reads_bump '[' _).bind (Reads.get_bind fun m => ?_))
      exact (reads_readItems_end _ true blanks' rest).bind
        ((reads_endList rest).bind (.pure _ _))
  | @array _ ds items =>
      have enough := length_of_spellsItems items
      rw [reads.length_eq] at enough
      simp only [List.append_assoc, List.cons_append, List.nil_append]
      refine (reads_past blanks rfl _).bind ((reads_bump '[' _).bind (Reads.get_bind fun m => ?_))
      have few : xs.length < (ds ++ ']' :: rest).length + 1 := by
        simp only [List.length_append]
        omega
      have read := reads_readItems items
        (reads.imp fun _ _ own es rest shorter => own es rest
          (by simp only [List.length_append, List.length_cons]; omega)) few .first rest
      exact read.bind ((reads_endList rest).bind (.pure _ _))

end

/-! ### Single values -/

theorem reads_readString {s : String} {cs : List Char} (spells : Spells (.string s) cs)
    {a : List Char} (blanks : Blanks a) (rest : List Char) :
    Reads readString (a ++ (cs ++ rest)) s rest := by
  cases spells with
  | string text =>
      have read := reads_readText text rest
      rw [String.ofList_toList] at read
      simp only [List.append_assoc, List.cons_append, List.nil_append]
      exact (reads_past blanks rfl _).bind read

theorem reads_readWhole {n : UInt64} {cs : List Char} (spells : Spells (.number n.toNat) cs)
    (expected : String) {a : List Char} (blanks : Blanks a) {rest : List Char} (ends : Ends rest) :
    Reads (readWhole expected) (a ++ (cs ++ rest)) n rest := by
  have fits : n.toNat ≤ wholeLimit := Nat.le_of_lt_succ n.toNat_lt
  cases spells with
  | number =>
      have read := reads_readNumber fits ends
      obtain ⟨c, ds, digits, digit⟩ := toDigits_eq_cons n.toNat
      have sign : (c == '-') = false := beq_false_of_ne (ne_of_isDigit digit rfl)
      rw [digits] at read ⊢
      refine (reads_past blanks (isSpace_of_isDigit digit) _).bind ?_
      simp only [sign, digit, Bool.or_true, bne, if_true]
      refine read.bind ?_
      have same : n.toNat.toUInt64 = n := UInt64.ofNat_toNat
      simp only [same]
      exact .pure _ _

/-! ### Members -/

theorem length_of_spellsMembers {ms : List (String × Value)} {cs : List Char}
    (spells : SpellsMembers ms cs) : ms.length ≤ cs.length := by
  induction ms generalizing cs with
  | nil => exact Nat.zero_le _
  | cons m ms ih =>
      cases spells with
      | last member =>
          cases member
          simp only [List.length_append, List.length_cons, List.length_nil]
          omega
      | next _ more =>
          have shorter := ih more
          simp only [List.length_append, List.length_cons]
          omega

theorem reads_hasMember {first : Bool} {before : List Char} (leads : Leads first before)
    {a : List Char} (blanks : Blanks a) (cs : List Char) :
    Reads (hasMember first) (before ++ (a ++ '"' :: cs)) true ('"' :: cs) := by
  cases leads with
  | first => exact (reads_past blanks rfl cs).bind (.pure _ _)
  | next blanks' =>
      rw [List.append_assoc]
      exact (reads_past blanks' rfl _).bind ((reads_bump ',' _).bind
        ((reads_past blanks rfl cs).bind (.pure _ _)))

theorem reads_hasMember_end (first : Bool) {a : List Char} (blanks : Blanks a) (cs : List Char) :
    Reads (hasMember first) (a ++ '\x7d' :: cs) false ('\x7d' :: cs) :=
  (reads_past blanks rfl cs).bind (.pure _ _)

theorem reads_readColon {a : List Char} (blanks : Blanks a) (cs : List Char) :
    Reads readColon (a ++ ':' :: cs) () cs :=
  (reads_past blanks rfl cs).bind (reads_bump ':' cs)

end LayerLint.Json
