import LayerLint.Proofs.Json.Reading

/-! Reading any document of the kinds that are written here. A document is read from each of its
spellings, so that no text spells two documents. -/

namespace LayerLint.Json

def readNatural : Read Nat := do
  let digits ← takeDigits
  if digits.isEmpty || (digits.head? == some '0' && 1 < digits.length) then refuse .invalidNumber
  if (← next?).any fun c => c == '.' || c == 'e' || c == 'E' then refuseNext .invalidNumber
  return Nat.ofDigitChars 10 digits 0

def readPairs {α : Type} (item : Read α) : Nat → Bool → Read (List (String × α))
  | 0, _ => return []
  | fuel + 1, first => do
    if ← hasMember first then
      let name ← readText
      readColon
      let x ← item
      return (name, x) :: (← readPairs item fuel false)
    else return []

def readObject {α : Type} (item : Read α) : Read (List (String × α)) := do
  match ← nextPastSpace? with
  | none => refuseNext .endInValue
  | some '\x7b' =>
    bump
    let members ← readPairs item ((← get).rest.length + 1) true
    bump
    return members
  | some _ => refuseNext .expectedValue

/-- Reads a document; `depth` bounds how deep its parts are nested. -/
def readDocument : Nat → Read Value
  | 0 => refuseNext .expectedValue
  | depth + 1 => do
    match ← nextPastSpace? with
    | none => refuseNext .endInValue
    | some '"' => return .string (← readText)
    | some '[' => return .array (← readList (readDocument depth))
    | some '\x7b' => return .object (← readObject (readDocument depth))
    | some _ => return .number (← readNatural)

def Value.ofText (text : String) : Except Fault Value :=
  (do
    let v ← readDocument (text.length + 1)
    match ← nextPastSpace? with
    | some _ => refuseNext .trailingCharacters
    | none => return v : Read Value).run' { rest := text.toList }

/-! ### Reading what is spelled -/

theorem reads_readNatural (n : Nat) {rest : List Char} (ends : Ends rest) :
    Reads readNatural (Nat.toDigits 10 n ++ rest) n rest := by
  have all : ∀ c ∈ Nat.toDigits 10 n, isDigit c = true := fun c => isDigit_of_mem_toDigits
  have wellFormed : ((Nat.toDigits 10 n).isEmpty ||
      ((Nat.toDigits 10 n).head? == some '0' && decide (1 < (Nat.toDigits 10 n).length))) =
        false := by
    rcases Nat.eq_zero_or_pos n with rfl | positive
    · rfl
    · obtain ⟨c, cs, digits, nonzero⟩ := head_toDigits positive
      simp [digits, nonzero]
  have finished : (rest.head?.any fun c => c == '.' || c == 'e' || c == 'E') = false := by
    cases rest with
    | nil => rfl
    | cons c rest =>
        obtain ⟨-, point, small, large⟩ := ends c rfl
        simp [point, small, large]
  refine (reads_takeDigits all fun c is => (ends c is).1).bind ?_
  simp only [wellFormed, Bool.false_eq_true, if_false]
  refine (reads_next? rest).bind ?_
  simp only [finished, Bool.false_eq_true, if_false]
  have read := Reads.pure (Nat.ofDigitChars 10 (Nat.toDigits 10 n) 0) rest
  rwa [Nat.ofDigitChars_ten_toDigits] at read ⊢

section

variable {item : Read Value}

/-- A member is read, if its value is, and then what follows it. -/
theorem reads_readPairs_cons {k : String} {v : Value} {ms : List (String × Value)}
    {cs tail rest : List Char} (spells : SpellsMember (k, v) cs)
    (reads : ∀ a ds rest, Blanks a → ds.length ≤ cs.length → Spells v ds → Ends rest →
      Reads item (a ++ (ds ++ rest)) v rest)
    {fuel : Nat} {first : Bool} {before : List Char} (leads : Leads first before)
    (ends : ∀ d, Blanks d → Ends (d ++ tail))
    (later : ∀ d, Blanks d → Reads (readPairs item fuel false) (d ++ tail) ms rest) :
    Reads (readPairs item (fuel + 1) first) (before ++ (cs ++ tail)) ((k, v) :: ms) rest := by
  cases spells with
  | @mk _ _ a ks b c ds d blanks text blanksName blanksColon spelled blanksAfter =>
      have name := reads_readText text (b ++ ':' :: (c ++ (ds ++ (d ++ tail))))
      rw [String.ofList_toList] at name
      have read := reads c ds (d ++ tail) blanksColon
        (by simp only [List.length_append, List.length_cons]; omega) spelled (ends d blanksAfter)
      simp only [List.append_assoc, List.cons_append]
      refine (reads_hasMember leads blanks _).bind ?_
      simp only [if_true]
      exact name.bind ((reads_readColon blanksName _).bind
        (read.bind ((later d blanksAfter).bind (.pure _ _))))

theorem reads_readPairs_end (fuel : Nat) (first : Bool) {a : List Char} (blanks : Blanks a)
    (rest : List Char) :
    Reads (readPairs item (fuel + 1) first) (a ++ '\x7d' :: rest) [] ('\x7d' :: rest) :=
  (reads_hasMember_end first blanks rest).bind (.pure _ _)

/-- Members are read one after the other, if each of their values is read as such. -/
theorem reads_readPairs {ms : List (String × Value)} {cs : List Char}
    (spells : SpellsMembers ms cs)
    (reads : ∀ v a ds rest, Blanks a → ds.length ≤ cs.length → Spells v ds → Ends rest →
      Reads item (a ++ (ds ++ rest)) v rest)
    {fuel : Nat} (enough : ms.length < fuel) {first : Bool} {before : List Char}
    (leads : Leads first before) (rest : List Char) :
    Reads (readPairs item fuel first) (before ++ (cs ++ '\x7d' :: rest)) ms ('\x7d' :: rest) := by
  induction ms generalizing cs fuel first before with
  | nil => cases spells
  | cons m ms ih =>
      obtain ⟨fuel, rfl⟩ := Nat.exists_eq_add_one.mpr (Nat.zero_lt_of_lt enough)
      rw [List.length_cons, Nat.add_lt_add_iff_right] at enough
      obtain ⟨k, v⟩ := m
      cases spells with
      | last member =>
          obtain ⟨fuel, rfl⟩ := Nat.exists_eq_add_one.mpr enough
          exact reads_readPairs_cons member (reads v) leads
            (fun d blanks => .of_blanks blanks (ends_brace rest))
            fun d blanks => reads_readPairs_end fuel false blanks rest
      | @next _ _ ds es member more =>
          rw [List.append_assoc, List.cons_append]
          refine reads_readPairs_cons member
            (fun a ds rest blanks shorter => reads v a ds rest blanks
              (by simp only [List.length_append]; omega)) leads
            (fun d blanks => .of_blanks blanks (ends_comma _)) fun d blanks => ?_
          have others := ih more
            (fun w a ds rest blanks shorter => reads w a ds rest blanks
              (by simp only [List.length_append, List.length_cons]; omega)) enough (.next blanks)
          rw [List.append_assoc] at others
          exact others

theorem reads_readObject {ms : List (String × Value)} {cs : List Char}
    (spells : Spells (.object ms) cs)
    (reads : ∀ v a ds rest, Blanks a → ds.length < cs.length → Spells v ds → Ends rest →
      Reads item (a ++ (ds ++ rest)) v rest)
    {a : List Char} (blanks : Blanks a) (rest : List Char) :
    Reads (readObject item) (a ++ (cs ++ rest)) ms rest := by
  cases spells with
  | emptyObject blanks' =>
      simp only [List.append_assoc, List.cons_append, List.nil_append]
      refine (reads_past blanks rfl _).bind ((reads_bump '\x7b' _).bind ?_)
      refine Reads.get_bind fun m => (reads_readPairs_end _ true blanks' rest).bind ?_
      exact (reads_bump '\x7d' rest).bind (.pure _ _)
  | @object _ ds members =>
      have few : ms.length < (ds ++ '\x7d' :: rest).length + 1 := by
        have enough := length_of_spellsMembers members
        simp only [List.length_append]
        omega
      have read := reads_readPairs members
        (fun v a es rest blanks shorter => reads v a es rest blanks
          (by simp only [List.length_append, List.length_cons]; omega)) few .first rest
      simp only [List.append_assoc, List.cons_append, List.nil_append]
      refine (reads_past blanks rfl _).bind ((reads_bump '\x7b' _).bind ?_)
      exact Reads.get_bind fun m => read.bind ((reads_bump '\x7d' rest).bind (.pure _ _))

end

/-- A document is read from each of its spellings. -/
theorem reads_readDocument {v : Value} {cs : List Char} (spells : Spells v cs) {depth : Nat}
    (enough : cs.length < depth) {a rest : List Char} (blanks : Blanks a) (ends : Ends rest) :
    Reads (readDocument depth) (a ++ (cs ++ rest)) v rest := by
  induction depth generalizing v cs a rest with
  | zero => cases enough
  | succ depth ih =>
      cases v with
      | number n =>
          cases spells
          have read := reads_readNatural n ends
          obtain ⟨c, ds, digits, digit⟩ := toDigits_eq_cons n
          have quote := ne_of_isDigit digit (show isDigit '"' = false from rfl)
          have bracket := ne_of_isDigit digit (show isDigit '[' = false from rfl)
          have brace := ne_of_isDigit digit (show isDigit '\x7b' = false from rfl)
          rw [digits] at read ⊢
          refine (reads_past blanks (isSpace_of_isDigit digit) _).bind ?_
          simp only
          exact read.map _
      | string s =>
          cases spells with
          | string text =>
              have read := reads_readText text rest
              rw [String.ofList_toList] at read
              simp only [List.append_assoc, List.cons_append, List.nil_append]
              exact (reads_past blanks rfl _).bind (read.map _)
      | array vs =>
          have starts : ∃ ds, cs = '[' :: ds := by
            cases spells with
            | emptyArray _ => exact ⟨_, rfl⟩
            | array _ => exact ⟨_, rfl⟩
          have read := reads_readList spells
            (List.forall₂_same.mpr fun v _ ds rest shorter spelled ends =>
              ih spelled (by omega) blanks_nil ends) blanks_nil rest
          obtain ⟨ds, rfl⟩ := starts
          exact (reads_past blanks rfl _).bind (read.map _)
      | object ms =>
          have starts : ∃ ds, cs = '\x7b' :: ds := by
            cases spells with
            | emptyObject _ => exact ⟨_, rfl⟩
            | object _ => exact ⟨_, rfl⟩
          have read := reads_readObject spells
            (fun v a ds rest blanks shorter spelled ends =>
              ih spelled (by omega) blanks ends) blanks_nil rest
          obtain ⟨ds, rfl⟩ := starts
          exact (reads_past blanks rfl _).bind (read.map _)

theorem Value.ofText_of_spellsDocument {v : Value} {text : String}
    (spells : SpellsDocument v text) : Value.ofText text = .ok v := by
  obtain ⟨a, cs, b, blanks, spelled, blanks', chars⟩ := spells
  have enough : cs.length < text.length + 1 := by
    rw [← String.length_toList, chars]
    simp only [List.length_append]
    omega
  have ends : Ends b := by
    rw [← List.append_nil b]
    exact .of_blanks blanks' ends_nil
  have reads := reads_readDocument spelled enough blanks ends
  rw [← chars] at reads
  exact (reads.bind ((reads_past_end blanks').bind (.pure v []))).run'

/-- No text spells two documents. -/
theorem SpellsDocument.unique {v w : Value} {text : String} (spells : SpellsDocument v text)
    (spells' : SpellsDocument w text) : v = w :=
  Except.ok.inj ((Value.ofText_of_spellsDocument spells).symm.trans
    (Value.ofText_of_spellsDocument spells'))

end LayerLint.Json
