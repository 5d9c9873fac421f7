import LayerLint.Proofs.Json.Grammar

/-! What readers leave of a document, whatever kind of document it is. A reader that refuses a
document leaves nothing; one that makes anything of it leaves what follows it. -/

namespace LayerLint.Json

/-- If a reader makes anything of a text, it leaves `rest` of it. -/
def Leaves {α : Type} (r : Read α) (cs rest : List Char) : Prop :=
  ∀ m x c, r.run ⟨cs, m⟩ = .ok (x, c) → c.rest = rest

/-- A reader makes nothing of a text. -/
def Refuses {α : Type} (r : Read α) (cs : List Char) : Prop :=
  ∀ m x c, r.run ⟨cs, m⟩ ≠ .ok (x, c)

section

variable {α β : Type} {r : Read α} {f : α → Read β} {cs mid rest : List Char} {x : α}

theorem exists_of_run_bind {c c' : Cursor} {y : β} (ran : (r >>= f).run c = .ok (y, c')) :
    ∃ x mid, r.run c = .ok (x, mid) ∧ (f x).run mid = .ok (y, c') := by
  rw [StateT.run_bind] at ran
  cases first : r.run c with
  | error fault =>
      rw [first] at ran
      cases ran
  | ok result =>
      rw [first] at ran
      exact ⟨result.1, result.2, rfl, ran⟩

theorem Reads.leaves (reads : Reads r cs x rest) : Leaves r cs rest := by
  intro m y c ran
  obtain ⟨m', read⟩ := reads m
  rw [read] at ran
  cases ran
  rfl

theorem Refuses.leaves (refuses : Refuses r cs) (rest : List Char) : Leaves r cs rest := by
  intro m x c ran
  exact absurd ran (refuses m x c)

theorem Leaves.bind (first : Leaves r cs mid) (second : ∀ x, Leaves (f x) mid rest) :
    Leaves (r >>= f) cs rest := by
  intro m y c ran
  obtain ⟨x, ⟨left, m'⟩, ran, ran'⟩ := exists_of_run_bind ran
  obtain rfl := first m x _ ran
  exact second x m' y c ran'

theorem Leaves.get_bind {f : Cursor → Read β} (leaves : ∀ m, Leaves (f ⟨cs, m⟩) cs rest) :
    Leaves (get >>= f) cs rest :=
  fun m y c ran => leaves m m y c ran

theorem Leaves.bind_refuses (first : Leaves r cs mid) (second : ∀ x, Refuses (f x) mid) :
    Refuses (r >>= f) cs := by
  intro m y c ran
  obtain ⟨x, ⟨left, m'⟩, ran, ran'⟩ := exists_of_run_bind ran
  obtain rfl := first m x _ ran
  exact second x m' y c ran'

theorem Reads.bind_leaves (first : Reads r cs x mid) (second : Leaves (f x) mid rest) :
    Leaves (r >>= f) cs rest := by
  intro m y c ran
  obtain ⟨m', read⟩ := first m
  obtain ⟨z, mid, ran, ran'⟩ := exists_of_run_bind ran
  cases read.symm.trans ran
  exact second m' y c ran'

theorem Reads.bind_refuses (first : Reads r cs x mid) (second : Refuses (f x) mid) :
    Refuses (r >>= f) cs := by
  intro m y c ran
  obtain ⟨m', read⟩ := first m
  obtain ⟨z, mid, ran, ran'⟩ := exists_of_run_bind ran
  cases read.symm.trans ran
  exact second m' y c ran'

theorem Refuses.get_bind {f : Cursor → Read β} (refuses : ∀ m, Refuses (f ⟨cs, m⟩) cs) :
    Refuses (get >>= f) cs :=
  fun m y c => refuses m m y c

theorem Refuses.bind (refuses : Refuses r cs) : Refuses (r >>= f) cs := by
  intro m y c ran
  obtain ⟨x, mid, ran, -⟩ := exists_of_run_bind ran
  exact refuses m x mid ran

theorem Refuses.of_bind (refuses : ∀ x cs, Refuses (f x) cs) : Refuses (r >>= f) cs := by
  intro m y c ran
  obtain ⟨x, ⟨left, m'⟩, -, ran'⟩ := exists_of_run_bind ran
  exact refuses x left m' y c ran'

theorem Refuses.run'_ne (refuses : Refuses r cs) (x : α) : r.run' { rest := cs } ≠ .ok x := by
  intro ran
  rw [StateT.run'_eq] at ran
  cases made : r.run { rest := cs } with
  | error fault =>
      rw [made] at ran
      cases ran
  | ok result => exact refuses {} result.1 result.2 made

theorem refuses_throw (fault : Fault) (cs : List Char) : Refuses (throw fault : Read α) cs :=
  fun _ _ _ => nofun

theorem refuses_refuse (kind : FaultKind) (cs : List Char) : Refuses (refuse kind : Read α) cs :=
  fun _ _ _ => nofun

theorem refuses_refuseType (expected : String) (cs : List Char) :
    Refuses (refuseType expected : Read α) cs :=
  .of_bind fun _ cs => refuses_refuse _ cs

end

theorem skipTextAfter_code {a b c d : Char} {n : Nat} (is : hexOf? a b c d = some n) (m : Mark)
    (rest : List Char) : skipTextAfter m ('\\' :: 'u' :: a :: b :: c :: d :: rest) =
      skipTextAfter (m.plus 6) rest := by
  rw [skipTextAfter, is, Option.isSome_some, if_pos rfl]

/-- A text that is read is passed over to the same place. -/
theorem skipTextAfter_of_textAfter {m : Mark} {done cs s : List Char} {c : Cursor}
    (read : textAfter m done cs = .ok (s, c)) (m' : Mark) :
    ∃ m'', skipTextAfter m' cs = .ok ⟨c.rest, m''⟩ := by
  fun_induction textAfter m done cs generalizing m' with
  | case2 =>
      cases read
      exact ⟨_, rfl⟩
  | case4 m done a b c d e f g h rest n k second first high low ih =>
      rw [skipTextAfter_code first, skipTextAfter_code second]
      exact ih read _
  | case7 m done a b c d e f g h rest n k second first high low ih =>
      rw [skipTextAfter_code first]
      exact ih read _
  | case10 m done a b c d e f g h rest n second first high low ih =>
      rw [skipTextAfter_code first]
      exact ih read _
  | case14 m done a b c d rest alone n first high low ih =>
      rw [skipTextAfter_code first]
      exact ih read _
  | case17 m done x rest _ _ _ y is ih =>
      have step : skipTextAfter m' ('\\' :: x :: rest) = skipTextAfter (m'.plus 2) rest := by
        simp [skipTextAfter, is]
      rw [step]
      exact ih read _
  | case20 m done x rest _ _ _ _ _ _ visible ih =>
      have step : skipTextAfter m' (x :: rest) = skipTextAfter (m'.next x) rest := by
        simp [skipTextAfter, visible]
      rw [step]
      exact ih read _
  | _ => cases read

theorem leaves_readText {cs : List Char} (valid : IsCharacters cs) (rest : List Char) :
    Leaves readText ('"' :: (cs ++ '"' :: rest)) rest := by
  intro m x c ran
  have start : (⟨'"' :: (cs ++ '"' :: rest), m⟩ : Cursor).bump = ⟨cs ++ '"' :: rest, m.next '"'⟩ :=
    rfl
  cases read : textAfter (m.next '"') [] (cs ++ '"' :: rest) with
  | error fault => simp [readText, bump, start, read] at ran
  | ok result =>
      have made : String.ofList result.1 = x ∧ result.2 = c := by
        simpa [readText, bump, start, read] using ran
      obtain ⟨m₁, passed⟩ := skipTextAfter_of_textAfter read (m.next '"')
      obtain ⟨m₂, valid⟩ := skipTextAfter_valid valid (m.next '"') rest
      rw [← made.2]
      exact (Cursor.mk.inj (Except.ok.inj (passed.symm.trans valid))).1

section

variable {exp rest : List Char}

theorem leaves_finish (positive : Bool) (digits : Nat) (e : Int) (cs : List Char) :
    Leaves (finish positive digits e) cs cs := by
  unfold finish
  split
  · exact (Reads.pure _ _).leaves
  · exact (refuses_refuse _ _).leaves cs

theorem Leaves.past_sign {α : Type} {f : Unit → Read α} {sign cs : List Char}
    (signed : sign ∈ [[], ['+'], ['-']]) {d : Char} (digit : isDigit d = true)
    (leaves : Leaves (f ()) (d :: cs) rest) :
    Leaves
      (if (sign ++ d :: cs).head?.any (fun c => c == '+' || c == '-') then bump >>= f else f ())
      (sign ++ d :: cs) rest := by
  rw [bump_if_bind]
  exact (reads_sign signed digit cs).bind_leaves leaves

theorem leaves_readExponent {e : Char} {sign ds : List Char} (signed : sign ∈ [[], ['+'], ['-']])
    (digits : IsDigits ds) (ends : Ends rest) (positive : Bool) (n : Nat) (power : Int) :
    Leaves (readExponent positive n power) (e :: (sign ++ (ds ++ rest))) rest := by
  have taken := reads_takeDigits digits.digits fun c is => (ends c is).1
  obtain ⟨d, ds, rfl⟩ := List.exists_cons_of_ne_nil digits.nonempty
  have digit := digits.digits d List.mem_cons_self
  rw [List.cons_append] at taken ⊢
  refine (reads_bump e _).bind_leaves ((reads_next? _).bind_leaves ((reads_next? _).bind_leaves ?_))
  refine .past_sign signed digit ((reads_next? _).bind_leaves ?_)
  simp only [List.head?_cons, digit, Bool.not_true, Bool.false_eq_true, if_false]
  refine taken.bind_leaves ?_
  split
  · exact leaves_finish _ _ _ rest
  · split
    · exact Refuses.leaves (.of_bind fun _ cs => refuses_throw _ cs) rest
    · exact (Reads.pure _ _).leaves

theorem leaves_readFraction {ds : List Char} (digits : IsDigits ds) (exponent : IsExponent exp)
    (ends : Ends rest) (positive : Bool) (n : Nat) (power : Int) :
    Leaves (readFraction positive n power) ('.' :: (ds ++ (exp ++ rest))) rest := by
  have stops := stops_exponent exponent ends
  refine (reads_bump '.' _).bind_leaves ((reads_takeDigits digits.digits stops).bind_leaves ?_)
  rw [if_neg (by simpa using digits.nonempty)]
  refine (reads_next? _).bind_leaves ?_
  cases exponent with
  | none =>
      rw [List.nil_append, no_exponent_of_ends ends]
      exact leaves_finish _ _ _ rest
  | some letter signed digits =>
      rw [List.cons_append, List.append_assoc, List.head?_cons, Option.any_some,
        exponent_letter letter]
      exact leaves_readExponent signed digits ends _ _ _

theorem leaves_readNumber {cs : List Char} (number : IsNumber cs) (ends : Ends rest)
    (positive : Bool) : Leaves (readNumber positive) (cs ++ rest) rest := by
  obtain ⟨integer, fraction, exponent⟩ := number
  have stops := stops_fraction fraction exponent ends
  rw [List.append_assoc, List.append_assoc]
  refine (reads_integer integer stops).bind_leaves ((reads_next? _).bind_leaves ?_)
  cases fraction with
  | some digits => exact leaves_readFraction digits exponent ends _ _ _
  | none =>
      rw [List.nil_append]
      cases exponent with
      | some letter signed digits =>
          rw [List.cons_append, List.append_assoc]
          rcases List.mem_pair.mp letter with rfl | rfl
          · exact leaves_readExponent signed digits ends _ _ _
          · exact leaves_readExponent signed digits ends _ _ _
      | none =>
          rw [List.nil_append]
          split
          · next point => exact absurd rfl (ends '.' point).2.1
          · next small => exact absurd rfl (ends 'e' small).2.2.1
          · next large => exact absurd rfl (ends 'E' large).2.2.2
          · split
            · exact leaves_finish _ _ _ rest
            · split
              · exact (Reads.pure _ _).leaves
              · split <;> exact (Reads.pure _ _).leaves

end

section

variable {cs a rest : List Char} (value : IsValue cs) (blanks : Blanks a)

include value blanks

theorem leaves_readString (rest : List Char) : Leaves readString (a ++ (cs ++ rest)) rest := by
  obtain ⟨c, ds, rfl, visible, -, text, -⟩ := value.starts
  rw [List.cons_append]
  refine (reads_past blanks visible _).bind_leaves ?_
  split
  · next none => cases none
  · next quote =>
      obtain rfl := Option.some.inj quote
      obtain ⟨text, rfl, valid⟩ := text rfl
      rw [List.append_assoc, List.singleton_append]
      exact leaves_readText valid rest
  · exact (refuses_refuseType _ _).leaves rest

theorem leaves_readWhole (expected : String) (ends : Ends rest) :
    Leaves (readWhole expected) (a ++ (cs ++ rest)) rest := by
  obtain ⟨c, ds, rfl, visible, -, -, -, negative, number⟩ := value.starts
  refine (reads_past blanks visible _).bind_leaves ?_
  by_cases minus : c = '-'
  · subst minus
    refine (reads_bump '-' _).bind_leaves ((leaves_readNumber (negative rfl) ends _).bind ?_)
    rintro (n | n | x)
    · exact (Reads.pure _ _).leaves
    · exact (refuses_refuse _ _).leaves rest
    · exact (refuses_refuse _ _).leaves rest
  · cases digit : isDigit c with
    | true =>
        simp only [beq_false_of_ne minus, digit, Bool.or_true, Bool.false_eq_true, if_false,
          if_true]
        refine (leaves_readNumber (number digit) ends _).bind ?_
        rintro (n | n | x)
        · exact (Reads.pure _ _).leaves
        · exact (refuses_refuse _ _).leaves rest
        · exact (refuses_refuse _ _).leaves rest
    | false =>
        simp only [beq_false_of_ne minus, digit, Bool.or_self, Bool.false_eq_true, if_false]
        exact (refuses_refuseType _ _).leaves rest

end

section

variable {α : Type} {item : Read α} {cs : List Char}
  (leaves : ∀ {ds rest : List Char}, IsValue ds → Ends rest → Leaves item (ds ++ rest) rest)

include leaves

theorem leaves_readItems (items : IsItems cs) {fuel : Nat} (enough : cs.length < fuel)
    {first : Bool}
    {before : List Char} (leads : Leads first before) (rest : List Char) :
    Leaves (readItems item fuel first) (before ++ (cs ++ ']' :: rest)) (']' :: rest) := by
  induction fuel generalizing cs first before with
  | zero => exact absurd enough (Nat.not_lt_zero _)
  | succ fuel ih =>
      cases items with
      | @last a ds b blanks value behind =>
          have own := leaves value (.of_blanks behind (ends_bracket rest))
          obtain ⟨c, es, rfl, visible, other, -⟩ := value.starts
          simp only [List.append_assoc, List.cons_append, List.length_append,
            List.length_cons] at enough own ⊢
          obtain ⟨fuel, rfl⟩ := Nat.exists_eq_add_one.mpr (by omega : 0 < fuel)
          refine (reads_hasItem leads blanks visible other _).bind_leaves (own.bind fun x => ?_)
          exact (reads_readItems_end fuel false behind rest).bind_leaves (Reads.pure _ _).leaves
      | @next a ds b es blanks value behind more =>
          have own := leaves value (.of_blanks behind (ends_comma (es ++ ']' :: rest)))
          obtain ⟨c, fs, rfl, visible, other, -⟩ := value.starts
          simp only [List.append_assoc, List.cons_append, List.length_append,
            List.length_cons] at enough own ⊢
          have others := ih more (by omega) (.next behind)
          rw [List.append_assoc, List.singleton_append] at others
          refine (reads_hasItem leads blanks visible other _).bind_leaves (own.bind fun x => ?_)
          exact others.bind fun _ => (Reads.pure _ _).leaves

theorem leaves_readList (value : IsValue cs) {a : List Char} (blanks : Blanks a)
    (rest : List Char) : Leaves (readList item) (a ++ (cs ++ rest)) rest := by
  obtain ⟨c, ds, rfl, visible, -, -, list, -⟩ := value.starts
  rw [List.cons_append]
  refine (reads_past blanks visible _).bind_leaves ?_
  split
  · next none => cases none
  · next bracket =>
      obtain rfl := Option.some.inj bracket
      obtain ⟨inner, rfl, inside⟩ := list rfl
      rw [List.append_assoc, List.singleton_append]
      refine (reads_bump '[' _).bind_leaves (.get_bind fun m => ?_)
      have read : Leaves (readItems item ((inner ++ ']' :: rest).length + 1) true)
          (inner ++ ']' :: rest) (']' :: rest) := by
        rcases inside with within | items
        · exact (reads_readItems_end _ true within rest).leaves
        · exact leaves_readItems leaves items (by rw [List.length_append]; omega) .first rest
      exact read.bind fun xs => ((reads_endList rest).bind (.pure xs _)).leaves
  · exact (refuses_refuseType _ _).leaves rest

end

end LayerLint.Json
