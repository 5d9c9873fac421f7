import LayerLint.Proofs.Json.Reading

/-! Documents of every kind, by their form alone: numbers with fractions and exponents, and texts
whose escapes need not stand for characters. A document that is passed over is passed over as a
whole. -/

namespace LayerLint.Json

/-! ### The form of documents -/

/-- What may stand between the quotes of a text. -/
inductive IsCharacters : List Char → Prop
  | nil : IsCharacters []
  | itself {c : Char} {cs : List Char} : 32 ≤ c.toNat → c ≠ '"' → c ≠ '\\' → IsCharacters cs →
      IsCharacters (c :: cs)
  | letter {x : Char} {cs : List Char} : (escaped? x).isSome = true → IsCharacters cs →
      IsCharacters ('\\' :: x :: cs)
  | code {a b c d : Char} {cs : List Char} : (hexOf? a b c d).isSome = true → IsCharacters cs →
      IsCharacters ('\\' :: 'u' :: a :: b :: c :: d :: cs)

/-- One digit or more. -/
structure IsDigits (ds : List Char) : Prop where
  nonempty : ds ≠ []
  digits : ∀ d ∈ ds, isDigit d = true

inductive IsFraction : List Char → Prop
  | none : IsFraction []
  | some {ds : List Char} : IsDigits ds → IsFraction ('.' :: ds)

inductive IsExponent : List Char → Prop
  | none : IsExponent []
  | some {e : Char} {sign ds : List Char} : e ∈ ['e', 'E'] → sign ∈ [[], ['+'], ['-']] →
      IsDigits ds → IsExponent (e :: (sign ++ ds))

/-- A number without its sign. -/
inductive IsNumber : List Char → Prop
  | mk {int frac exp : List Char} : IsInteger int → IsFraction frac → IsExponent exp →
      IsNumber (int ++ (frac ++ exp))

def words : List (List Char) :=
  [['n', 'u', 'l', 'l'], ['t', 'r', 'u', 'e'], ['f', 'a', 'l', 's', 'e']]

mutual

/-- A text that begins and ends with one document. -/
inductive IsValue : List Char → Prop
  | word {cs : List Char} : cs ∈ words → IsValue cs
  | number {cs : List Char} : IsNumber cs → IsValue cs
  | negative {cs : List Char} : IsNumber cs → IsValue ('-' :: cs)
  | string {cs : List Char} : IsCharacters cs → IsValue ('"' :: (cs ++ ['"']))
  | emptyArray {ws : List Char} : Blanks ws → IsValue ('[' :: (ws ++ [']']))
  | array {cs : List Char} : IsItems cs → IsValue ('[' :: (cs ++ [']']))
  | emptyObject {ws : List Char} : Blanks ws → IsValue ('\x7b' :: (ws ++ ['\x7d']))
  | object {cs : List Char} : IsMembers cs → IsValue ('\x7b' :: (cs ++ ['\x7d']))

/-- Documents with commas between them; there is at least one. -/
inductive IsItems : List Char → Prop
  | last {a cs b : List Char} : Blanks a → IsValue cs → Blanks b → IsItems (a ++ (cs ++ b))
  | next {a cs b ds : List Char} : Blanks a → IsValue cs → Blanks b → IsItems ds →
      IsItems (a ++ (cs ++ (b ++ ',' :: ds)))

/-- Names and documents with commas between them; there is at least one. -/
inductive IsMembers : List Char → Prop
  | last {a ks b c cs d : List Char} : Blanks a → IsCharacters ks → Blanks b → Blanks c →
      IsValue cs → Blanks d →
      IsMembers (a ++ '"' :: (ks ++ '"' :: (b ++ ':' :: (c ++ (cs ++ d)))))
  | next {a ks b c cs d ds : List Char} : Blanks a → IsCharacters ks → Blanks b → Blanks c →
      IsValue cs → Blanks d → IsMembers ds →
      IsMembers (a ++ '"' :: (ks ++ '"' :: (b ++ ':' :: (c ++ (cs ++ (d ++ ',' :: ds))))))

end

/-! ### Spelled documents -/

theorem IsCharacters.of_spellsText {s cs : List Char} (spells : SpellsText s cs) :
    IsCharacters cs := by
  induction spells with
  | nil => exact .nil
  | cons first _ ih =>
      cases first with
      | itself visible quote backslash => exact .itself visible quote backslash ih
      | letter is => exact .letter (by rw [is]; rfl) ih
      | code is _ _ => exact .code (by rw [is]; rfl) ih
      | halves is is' _ _ => exact .code (by rw [is]; rfl) (.code (by rw [is']; rfl) ih)

mutual

theorem IsValue.of_spells : {v : Value} → {cs : List Char} → Spells v cs → IsValue cs
  | _, _, .number n => by
      have number := IsNumber.mk (isInteger_toDigits n) .none .none
      rw [List.append_nil, List.append_nil] at number
      exact .number number
  | _, _, .string text => .string (.of_spellsText text)
  | _, _, .emptyArray blanks => .emptyArray blanks
  | _, _, .array items => .array (.of_spellsItems items)
  | _, _, .emptyObject blanks => .emptyObject blanks
  | _, _, .object members => .object (.of_spellsMembers members)

theorem IsItems.of_spellsItems : {vs : List Value} → {cs : List Char} → SpellsItems vs cs →
    IsItems cs
  | _, _, .last before spelled behind => .last before (.of_spells spelled) behind
  | _, _, .next before spelled behind more =>
      .next before (.of_spells spelled) behind (.of_spellsItems more)

theorem IsMembers.of_spellsMembers : {ms : List (String × Value)} → {cs : List Char} →
    SpellsMembers ms cs → IsMembers cs
  | _, _, .last (.mk a text b c spelled d) =>
      .last a (.of_spellsText text) b c (.of_spells spelled) d
  | _, _, .next (.mk a text b c spelled d) more => by
      have rest := IsMembers.next a (.of_spellsText text) b c (.of_spells spelled) d
        (.of_spellsMembers more)
      simpa only [List.append_assoc, List.cons_append] using rest

end

/-! ### Passing over documents -/

theorem skipTextAfter_valid {cs : List Char} (valid : IsCharacters cs) (m : Mark)
    (rest : List Char) : ∃ m', skipTextAfter m (cs ++ '"' :: rest) = .ok ⟨rest, m'⟩ := by
  induction valid generalizing m with
  | nil => exact ⟨m.plus 1, rfl⟩
  | @itself c _ visible quote backslash _ ih =>
      obtain ⟨m', passed⟩ := ih (m.next c)
      refine ⟨m', ?_⟩
      simp [skipTextAfter, backslash, Nat.not_lt_of_le visible, passed]
  | @letter x _ is _ ih =>
      obtain ⟨m', passed⟩ := ih (m.plus 2)
      have other : x ≠ 'u' := by
        rintro rfl
        cases is
      refine ⟨m', ?_⟩
      simp [skipTextAfter, other, is, passed]
  | code is _ ih =>
      obtain ⟨m', passed⟩ := ih (m.plus 6)
      refine ⟨m', ?_⟩
      simp [skipTextAfter, is, passed]

theorem reads_skipText {cs : List Char} (valid : IsCharacters cs) (rest : List Char) :
    Reads skipText ('"' :: (cs ++ '"' :: rest)) () rest := by
  intro m
  obtain ⟨m', passed⟩ := skipTextAfter_valid valid (m.next '"') rest
  refine ⟨m', ?_⟩
  have start : (⟨'"' :: (cs ++ '"' :: rest), m⟩ : Cursor).bump = ⟨cs ++ '"' :: rest, m.next '"'⟩ :=
    rfl
  simp [skipText, bump, start, passed]

section

variable {frac exp rest : List Char}

theorem stops_exponent (exponent : IsExponent exp) (ends : Ends rest) :
    ∀ c ∈ (exp ++ rest).head?, isDigit c = false := by
  cases exponent with
  | none => exact fun c is => (ends c is).1
  | @some e _ _ letter _ _ =>
      rintro c ⟨⟩
      rcases List.mem_pair.mp letter with rfl | rfl <;> rfl

theorem stops_fraction (fraction : IsFraction frac) (exponent : IsExponent exp) (ends : Ends rest) :
    ∀ c ∈ (frac ++ (exp ++ rest)).head?, isDigit c = false := by
  cases fraction with
  | none =>
      rw [List.nil_append]
      exact stops_exponent exponent ends
  | some _ =>
      rintro c ⟨⟩
      rfl

theorem no_exponent_of_ends (ends : Ends rest) :
    rest.head?.any (fun c => c == 'e' || c == 'E') = false := by
  cases rest with
  | nil => rfl
  | cons c rest =>
      obtain ⟨-, -, small, large⟩ := ends c rfl
      rw [List.head?_cons, Option.any_some, beq_false_of_ne small, beq_false_of_ne large,
        Bool.or_self]

theorem exponent_letter {e : Char} (letter : e ∈ ['e', 'E']) : (e == 'e' || e == 'E') = true := by
  rcases List.mem_pair.mp letter with rfl | rfl <;> rfl

theorem bump_if_bind {α : Type} (signed : Bool) (f : Unit → Read α) :
    (if signed then bump >>= f else f ()) = (if signed then bump else pure ()) >>= f := by
  cases signed <;> rfl

/-- The sign of an exponent is passed over, if there is one. -/
theorem reads_sign {sign : List Char} (signed : sign ∈ [[], ['+'], ['-']]) {d : Char}
    (digit : isDigit d = true) (cs : List Char) :
    Reads (if (sign ++ d :: cs).head?.any (fun c => c == '+' || c == '-') then bump else pure ())
      (sign ++ d :: cs) () (d :: cs) := by
  simp only [List.mem_cons, List.not_mem_nil, or_false] at signed
  rcases signed with rfl | rfl | rfl
  · have plus := ne_of_isDigit digit (show isDigit '+' = false from rfl)
    have minus := ne_of_isDigit digit (show isDigit '-' = false from rfl)
    simp only [List.nil_append, List.head?_cons, Option.any_some, beq_false_of_ne plus,
      beq_false_of_ne minus, Bool.or_self, Bool.false_eq_true, if_false]
    exact .pure _ _
  · exact reads_bump '+' _
  · exact reads_bump '-' _

theorem Reads.past_sign {α : Type} {f : Unit → Read α} {x : α} {sign cs : List Char}
    (signed : sign ∈ [[], ['+'], ['-']]) {d : Char} (digit : isDigit d = true)
    (reads : Reads (f ()) (d :: cs) x rest) :
    Reads (if (sign ++ d :: cs).head?.any (fun c => c == '+' || c == '-') then bump >>= f else f ())
      (sign ++ d :: cs) x rest := by
  rw [bump_if_bind]
  exact (reads_sign signed digit cs).bind reads

theorem reads_skipExponent (exponent : IsExponent exp) (ends : Ends rest) :
    Reads (do if (← next?).any fun c => c == 'e' || c == 'E' then skipExponent) (exp ++ rest) ()
      rest := by
  refine (reads_next? _).bind ?_
  cases exponent with
  | none =>
      rw [List.nil_append, no_exponent_of_ends ends]
      exact .pure _ _
  | @some e sign ds letter signed digits =>
      have taken := reads_takeDigits digits.digits fun c is => (ends c is).1
      obtain ⟨d, ds, rfl⟩ := List.exists_cons_of_ne_nil digits.nonempty
      have digit := digits.digits d List.mem_cons_self
      rw [List.cons_append, List.append_assoc, List.head?_cons, Option.any_some,
        exponent_letter letter]
      refine (reads_bump e _).bind ((reads_next? _).bind ?_)
      refine .past_sign signed digit ((reads_next? _).bind ?_)
      simp only [List.head?_cons, digit, if_true]
      exact taken.bind (.pure _ _)

def skipTail : Read Unit := do
  if (← next?) == some '.' then
    bump
    if (← takeDigits).isEmpty then refuseNext .invalidNumber
  if (← next?).any fun c => c == 'e' || c == 'E' then skipExponent

theorem head_exponent_ne_point (exponent : IsExponent exp) (ends : Ends rest) :
    ((exp ++ rest).head? == some '.') = false := by
  apply beq_false_of_ne
  intro point
  cases exponent with
  | none => exact (ends '.' point).2.1 rfl
  | some letter _ _ =>
      obtain rfl := Option.some.inj point
      cases letter with
      | tail _ letter => cases List.mem_singleton.mp letter

theorem reads_skipTail (fraction : IsFraction frac) (exponent : IsExponent exp)
    (ends : Ends rest) : Reads skipTail (frac ++ (exp ++ rest)) () rest := by
  have passed := reads_skipExponent exponent ends
  have stops := stops_exponent exponent ends
  refine (reads_next? _).bind ?_
  cases fraction with
  | none =>
      rw [List.nil_append, head_exponent_ne_point exponent ends]
      exact passed
  | some digits =>
      refine (reads_bump '.' _).bind ((reads_takeDigits digits.digits stops).bind ?_)
      rw [if_neg (by simpa using digits.nonempty)]
      exact passed

theorem reads_skipNumber {cs : List Char} (number : IsNumber cs) (ends : Ends rest) :
    Reads skipNumber (cs ++ rest) () rest := by
  obtain ⟨integer, fraction, exponent⟩ := number
  have tail := reads_skipTail fraction exponent ends
  have stops := stops_fraction fraction exponent ends
  rw [List.append_assoc, List.append_assoc]
  refine (reads_next? _).bind ?_
  cases integer with
  | zero =>
      rw [List.singleton_append]
      refine (reads_bump '0' _).bind ((reads_next? _).bind ?_)
      rw [any_isDigit_of_stops stops]
      exact tail
  | @digits c ds nonzero digits =>
      simp only [List.cons_append, List.head?_cons, beq_false_of_ne nonzero,
        digits c List.mem_cons_self, Bool.false_eq_true, if_false, if_true]
      exact (reads_takeDigits digits stops).bind tail

end

theorem IsNumber.head {cs : List Char} (number : IsNumber cs) :
    ∃ c ds, cs = c :: ds ∧ isDigit c = true := by
  obtain ⟨integer, -, -⟩ := number
  cases integer with
  | zero => exact ⟨_, _, rfl, rfl⟩
  | digits _ digits => exact ⟨_, _, rfl, digits _ List.mem_cons_self⟩

theorem mem_words {cs : List Char} : cs ∈ words ↔ cs = ['n', 'u', 'l', 'l'] ∨
    cs = ['t', 'r', 'u', 'e'] ∨ cs = ['f', 'a', 'l', 's', 'e'] := by
  simp only [words, List.mem_cons, List.not_mem_nil, or_false]

/-- How a document goes on after its first character. -/
theorem IsValue.starts {cs : List Char} (value : IsValue cs) :
    ∃ c ds, cs = c :: ds ∧ isSpace c = false ∧ c ≠ ']' ∧
      (c = '"' → ∃ text, ds = text ++ ['"'] ∧ IsCharacters text) ∧
      (c = '[' → ∃ inner, ds = inner ++ [']'] ∧ (Blanks inner ∨ IsItems inner)) ∧
      (c = '-' → IsNumber ds) ∧ (isDigit c = true → IsNumber (c :: ds)) := by
  cases value with
  | word is =>
      rcases mem_words.mp is with rfl | rfl | rfl <;>
        exact ⟨_, _, rfl, rfl, by decide, nofun, nofun, nofun, nofun⟩
  | number number =>
      obtain ⟨c, ds, rfl, digit⟩ := number.head
      refine ⟨c, ds, rfl, isSpace_of_isDigit digit, ne_of_isDigit digit rfl, ?_, ?_, ?_,
        fun _ => number⟩
      · exact fun is => absurd is (ne_of_isDigit digit rfl)
      · exact fun is => absurd is (ne_of_isDigit digit rfl)
      · exact fun is => absurd is (ne_of_isDigit digit rfl)
  | negative number => exact ⟨_, _, rfl, rfl, by decide, nofun, nofun, fun _ => number, nofun⟩
  | string text =>
      exact ⟨_, _, rfl, rfl, by decide, fun _ => ⟨_, rfl, text⟩, nofun, nofun, nofun⟩
  | emptyArray within =>
      exact ⟨_, _, rfl, rfl, by decide, nofun, fun _ => ⟨_, rfl, .inl within⟩, nofun, nofun⟩
  | array items =>
      exact ⟨_, _, rfl, rfl, by decide, nofun, fun _ => ⟨_, rfl, .inr items⟩, nofun, nofun⟩
  | emptyObject _ => exact ⟨_, _, rfl, rfl, by decide, nofun, nofun, nofun, nofun⟩
  | object _ => exact ⟨_, _, rfl, rfl, by decide, nofun, nofun, nofun, nofun⟩

/-- Items without the blanks before the first one. -/
theorem IsItems.head {cs : List Char} (items : IsItems cs) :
    ∃ a c ds, cs = a ++ c :: ds ∧ Blanks a ∧ isSpace c = false ∧ c ≠ ']' ∧ IsItems (c :: ds) := by
  cases items with
  | last before value behind =>
      obtain ⟨c, ds, rfl, visible, other, -⟩ := value.starts
      exact ⟨_, c, _, rfl, before, visible, other, .last blanks_nil value behind⟩
  | next before value behind more =>
      obtain ⟨c, ds, rfl, visible, other, -⟩ := value.starts
      exact ⟨_, c, _, rfl, before, visible, other, .next blanks_nil value behind more⟩

theorem IsMembers.head {cs : List Char} (members : IsMembers cs) :
    ∃ a ds, cs = a ++ '"' :: ds ∧ Blanks a ∧ IsMembers ('"' :: ds) := by
  cases members with
  | last before text b c value behind =>
      exact ⟨_, _, rfl, before, .last blanks_nil text b c value behind⟩
  | next before text b c value behind more =>
      exact ⟨_, _, rfl, before, .next blanks_nil text b c value behind more⟩

theorem reads_readWord (word rest : List Char) : Reads (readWord word) (word ++ rest) () rest := by
  induction word with
  | nil => exact .pure _ _
  | cons w word ih =>
      refine (reads_next? _).bind ?_
      simp only [List.cons_append, List.head?_cons, BEq.rfl, if_true]
      exact (reads_bump w _).bind ih

/-- Documents are passed over, given twice as many steps as they have characters. -/
structure Passes (fuel : Nat) : Prop where
  value {cs : List Char} : IsValue cs → 2 * cs.length ≤ fuel → ∀ {a rest : List Char}, Blanks a →
    Ends rest → Reads (skipValue fuel) (a ++ (cs ++ rest)) () rest
  items {cs : List Char} : IsItems cs → 2 * cs.length < fuel → ∀ rest,
    Reads (skipItems fuel) (cs ++ ']' :: rest) () rest
  members {cs : List Char} : IsMembers cs → 2 * cs.length < fuel → ∀ rest,
    Reads (skipMembers fuel) (cs ++ '\x7d' :: rest) () rest

theorem reads_skipValue_number {cs rest : List Char} (number : IsNumber cs) (ends : Ends rest)
    {a : List Char} (blanks : Blanks a) (fuel : Nat) :
    Reads (skipValue (fuel + 1)) (a ++ (cs ++ rest)) () rest := by
  have passed := reads_skipNumber number ends
  obtain ⟨c, ds, rfl, digit⟩ := number.head
  refine (reads_past blanks (isSpace_of_isDigit digit) _).bind ?_
  have n := ne_of_isDigit digit (show isDigit 'n' = false from rfl)
  have t := ne_of_isDigit digit (show isDigit 't' = false from rfl)
  have f := ne_of_isDigit digit (show isDigit 'f' = false from rfl)
  have quote := ne_of_isDigit digit (show isDigit '"' = false from rfl)
  have bracket := ne_of_isDigit digit (show isDigit '[' = false from rfl)
  have brace := ne_of_isDigit digit (show isDigit '\x7b' = false from rfl)
  have minus := ne_of_isDigit digit (show isDigit '-' = false from rfl)
  simp only [beq_false_of_ne minus, digit, Bool.false_eq_true, if_false, if_true]
  exact passed

theorem passes_value {fuel : Nat} (passes : Passes fuel) {cs : List Char} (value : IsValue cs)
    (enough : 2 * cs.length ≤ fuel + 1) {a rest : List Char} (blanks : Blanks a)
    (ends : Ends rest) : Reads (skipValue (fuel + 1)) (a ++ (cs ++ rest)) () rest := by
  cases value with
  | word is =>
      rcases mem_words.mp is with rfl | rfl | rfl
      · exact (reads_past blanks rfl _).bind ((reads_bump 'n' _).bind (reads_readWord _ rest))
      · exact (reads_past blanks rfl _).bind ((reads_bump 't' _).bind (reads_readWord _ rest))
      · exact (reads_past blanks rfl _).bind ((reads_bump 'f' _).bind (reads_readWord _ rest))
  | number number => exact reads_skipValue_number number ends blanks fuel
  | negative number =>
      exact (reads_past blanks rfl _).bind ((reads_bump '-' _).bind (reads_skipNumber number ends))
  | string text =>
      simp only [List.append_assoc, List.cons_append, List.nil_append]
      exact (reads_past blanks rfl _).bind (reads_skipText text rest)
  | emptyArray within =>
      simp only [List.append_assoc, List.cons_append, List.nil_append]
      exact (reads_past blanks rfl _).bind ((reads_bump '[' _).bind
        ((reads_past within rfl rest).bind (reads_bump ']' rest)))
  | array items =>
      obtain ⟨b, c, ds, rfl, before, visible, other, items⟩ := items.head
      simp only [List.append_assoc, List.cons_append, List.nil_append, List.length_append,
        List.length_cons, List.length_nil] at enough ⊢
      refine (reads_past blanks rfl _).bind ((reads_bump '[' _).bind ?_)
      refine (reads_past before visible _).bind ?_
      simp only
      exact passes.items items (by rw [List.length_cons]; omega) rest
  | emptyObject within =>
      simp only [List.append_assoc, List.cons_append, List.nil_append]
      exact (reads_past blanks rfl _).bind ((reads_bump '\x7b' _).bind
        ((reads_past within rfl rest).bind (reads_bump '\x7d' rest)))
  | object members =>
      obtain ⟨b, ds, rfl, before, members⟩ := members.head
      simp only [List.append_assoc, List.cons_append, List.nil_append, List.length_append,
        List.length_cons, List.length_nil] at enough ⊢
      refine (reads_past blanks rfl _).bind ((reads_bump '\x7b' _).bind ?_)
      exact (reads_past before rfl _).bind
        (passes.members members (by rw [List.length_cons]; omega) rest)

theorem passes_items {fuel : Nat} (passes : Passes fuel) {cs : List Char} (items : IsItems cs)
    (enough : 2 * cs.length < fuel + 1) (rest : List Char) :
    Reads (skipItems (fuel + 1)) (cs ++ ']' :: rest) () rest := by
  cases items with
  | last before value behind =>
      simp only [List.append_assoc, List.length_append] at enough ⊢
      refine (passes.value value (by omega) before (.of_blanks behind (ends_bracket rest))).bind ?_
      exact (reads_past behind rfl rest).bind (reads_bump ']' rest)
  | next before value behind more =>
      simp only [List.append_assoc, List.cons_append, List.length_append,
        List.length_cons] at enough ⊢
      refine (passes.value value (by omega) before (.of_blanks behind (ends_comma _))).bind ?_
      refine (reads_past behind rfl _).bind ((reads_bump ',' _).bind ?_)
      exact passes.items more (by omega) rest

theorem passes_members {fuel : Nat} (passes : Passes fuel) {cs : List Char}
    (members : IsMembers cs) (enough : 2 * cs.length < fuel + 1) (rest : List Char) :
    Reads (skipMembers (fuel + 1)) (cs ++ '\x7d' :: rest) () rest := by
  cases members with
  | last before text b c value behind =>
      simp only [List.append_assoc, List.cons_append, List.length_append,
        List.length_cons] at enough ⊢
      refine (reads_past before rfl _).bind ((reads_skipText text _).bind ?_)
      refine (reads_readColon b _).bind ?_
      refine (passes.value value (by omega) c (.of_blanks behind (ends_brace rest))).bind ?_
      exact (reads_past behind rfl rest).bind (reads_bump '\x7d' rest)
  | next before text b c value behind more =>
      simp only [List.append_assoc, List.cons_append, List.length_append,
        List.length_cons] at enough ⊢
      refine (reads_past before rfl _).bind ((reads_skipText text _).bind ?_)
      refine (reads_readColon b _).bind ?_
      refine (passes.value value (by omega) c (.of_blanks behind (ends_comma _))).bind ?_
      refine (reads_past behind rfl _).bind ((reads_bump ',' _).bind ?_)
      exact passes.members more (by omega) rest

theorem passes (fuel : Nat) : Passes fuel := by
  -- A list and its first item take a step each, and its brackets pay for both.
  induction fuel with
  | zero =>
      constructor
      · intro cs value enough
        obtain ⟨c, ds, rfl, -⟩ := value.starts
        rw [List.length_cons] at enough
        omega
      · exact fun _ enough => absurd enough (Nat.not_lt_zero _)
      · exact fun _ enough => absurd enough (Nat.not_lt_zero _)
  | succ fuel ih => exact ⟨passes_value ih, passes_items ih, passes_members ih⟩

end LayerLint.Json
