import LayerLint.Text.Name
import Mathlib.Data.List.TakeWhile

/-! Cutting the quotes off string literals. As many bytes are cut off at the end as there are quotes
at the start, so that a cut can fall inside a character. It does so exactly if more quotes open the
literal than close it and the bytes over do not make up whole characters. Where as many quotes close
the literal as open it, what is left is its content, unless the quotes are two: then they are taken
for an empty literal. -/

namespace LayerLint.Text

/-! ### Bytes of characters -/

@[simp] theorem byteLength_nil : byteLength [] = 0 := rfl

@[simp] theorem byteLength_cons (c : Char) (cs : List Char) :
    byteLength (c :: cs) = c.utf8Size + byteLength cs := rfl

@[simp] theorem byteLength_append (cs ds : List Char) :
    byteLength (cs ++ ds) = byteLength cs + byteLength ds := by
  induction cs with
  | nil => simp
  | cons c cs ih => simp [ih, Nat.add_assoc]

@[simp] theorem byteLength_reverse (cs : List Char) : byteLength cs.reverse = byteLength cs := by
  induction cs with
  | nil => rfl
  | cons c cs ih => simp [ih, Nat.add_comm]

@[simp] theorem byteLength_replicate (n : Nat) (c : Char) :
    byteLength (List.replicate n c) = n * c.utf8Size := by
  induction n with
  | zero => simp
  | succ n ih => simp [List.replicate_succ, ih, Nat.succ_mul, Nat.add_comm]

theorem byteLength_quotes (n : Nat) : byteLength (List.replicate n '"') = n := by
  rw [byteLength_replicate, show '"'.utf8Size = 1 from rfl, Nat.mul_one]

theorem byteLength_eq_zero_iff {cs : List Char} : byteLength cs = 0 ↔ cs = [] := by
  cases cs with
  | nil => simp
  | cons c cs =>
      have size := c.utf8Size_pos
      simp only [byteLength_cons, reduceCtorEq, iff_false]
      omega

/-- An offset in bytes at which a character begins, or at which the text ends. -/
def IsBorder (cs : List Char) (offset : Nat) : Prop :=
  ∃ front back, cs = front ++ back ∧ byteLength front = offset

/-- What follows a text has no part in where its characters begin. -/
theorem isBorder_append_iff {cs : List Char} {offset : Nat} (inside : offset ≤ byteLength cs)
    (rest : List Char) : IsBorder (cs ++ rest) offset ↔ IsBorder cs offset := by
  constructor
  · rintro ⟨front, back, same, rfl⟩
    rcases List.append_eq_append_iff.mp same with ⟨more, rfl, rfl⟩ | ⟨more, rfl, rfl⟩
    · have none : more = [] := by
        rw [byteLength_append] at inside
        exact byteLength_eq_zero_iff.mp (by omega)
      subst none
      exact ⟨cs, [], by simp, by simp⟩
    · exact ⟨front, more, rfl, rfl⟩
  · rintro ⟨front, back, rfl, rfl⟩
    exact ⟨front, back ++ rest, by simp, rfl⟩

/-- Bytes can be dropped exactly if they make up whole characters. -/
theorem dropBytes_eq_some_iff {n : Nat} {cs rest : List Char} :
    dropBytes n cs = some rest ↔ ∃ front, cs = front ++ rest ∧ byteLength front = n := by
  induction cs generalizing n with
  | nil =>
      cases n with
      | zero =>
          simp only [dropBytes, Option.some.injEq]
          constructor
          · rintro rfl
            exact ⟨[], rfl, rfl⟩
          · rintro ⟨front, same, -⟩
            exact (List.append_eq_nil_iff.mp same.symm).2.symm
      | succ n =>
          simp only [dropBytes, reduceCtorEq, false_iff, not_exists, not_and]
          intro front same
          simp [(List.append_eq_nil_iff.mp same.symm).1]
  | cons c cs ih =>
      cases n with
      | zero =>
          simp only [dropBytes, Option.some.injEq]
          constructor
          · rintro rfl
            exact ⟨[], rfl, rfl⟩
          · rintro ⟨front, same, empty⟩
            rw [same, byteLength_eq_zero_iff.mp empty, List.nil_append]
      | succ n =>
          have size := c.utf8Size_pos
          simp only [dropBytes]
          split
          · next fits =>
              rw [ih]
              constructor
              · rintro ⟨front, rfl, bytes⟩
                exact ⟨c :: front, rfl, by rw [byteLength_cons, bytes]; omega⟩
              · rintro ⟨front, same, bytes⟩
                cases front with
                | nil => simp at bytes
                | cons first front =>
                    obtain ⟨rfl, rfl⟩ := List.cons.inj same
                    exact ⟨front, rfl, by rw [byteLength_cons] at bytes; omega⟩
          · next long =>
              simp only [reduceCtorEq, false_iff, not_exists, not_and]
              intro front same bytes
              cases front with
              | nil => simp at bytes
              | cons first front =>
                  obtain ⟨rfl, -⟩ := List.cons.inj same
                  rw [byteLength_cons] at bytes
                  omega

/-- Bytes can be dropped from the end exactly if a character begins before them. -/
theorem dropBytes_reverse_eq_none_iff {n : Nat} {cs : List Char} (fits : n ≤ byteLength cs) :
    dropBytes n cs.reverse = none ↔ ¬ IsBorder cs (byteLength cs - n) := by
  rw [← not_iff_not, not_not, ← Ne, Option.ne_none_iff_exists']
  constructor
  · rintro ⟨rest, dropped⟩
    obtain ⟨front, same, bytes⟩ := dropBytes_eq_some_iff.mp dropped
    have split : cs = rest.reverse ++ front.reverse := by
      rw [← List.reverse_append, ← same, List.reverse_reverse]
    refine ⟨rest.reverse, front.reverse, split, ?_⟩
    rw [split, byteLength_append, byteLength_reverse front, bytes]
    omega
  · rintro ⟨front, back, rfl, bytes⟩
    refine ⟨front.reverse, dropBytes_eq_some_iff.mpr ⟨back.reverse, by simp, ?_⟩⟩
    rw [byteLength_append] at bytes fits
    rw [byteLength_reverse]
    omega

/-! ### Literals -/

def isLiteralMark (c : Char) : Bool :=
  c == '@' || c == '$'

/-- A literal taken apart: the marks in front, the number of quotes that open it, and all the
rest. -/
structure Quoted (text : String) (marks : List Char) (quotes : Nat) (rest : List Char) : Prop where
  chars : text.toList = marks ++ List.replicate quotes '"' ++ rest
  marks_only : ∀ c ∈ marks, isLiteralMark c = true
  no_mark : quotes = 0 → ∀ c ∈ rest.head?, isLiteralMark c = false
  no_quote : rest.head? ≠ some '"'

theorem exists_quoted (text : String) : ∃ marks quotes rest, Quoted text marks quotes rest := by
  let body := text.toList.dropWhile isLiteralMark
  have quotes : body.takeWhile (· == '"') =
      List.replicate (body.takeWhile (· == '"')).length '"' :=
    List.eq_replicate_of_mem fun c member => by
      simpa using List.mem_takeWhile_imp (p := (· == '"')) member
  refine ⟨text.toList.takeWhile isLiteralMark, (body.takeWhile (· == '"')).length,
    body.dropWhile (· == '"'), ?_, fun c member => List.mem_takeWhile_imp member, ?_, ?_⟩
  · rw [← quotes, List.append_assoc, List.takeWhile_append_dropWhile,
      List.takeWhile_append_dropWhile]
  · intro none c first
    have whole : body.dropWhile (· == '"') = body := by
      have split := List.takeWhile_append_dropWhile (p := (· == '"')) (l := body)
      rwa [List.length_eq_zero_iff.mp none, List.nil_append] at split
    rw [whole] at first
    have stops := List.head?_dropWhile_not isLiteralMark text.toList
    rw [show (text.toList.dropWhile isLiteralMark).head? = some c from first] at stops
    simpa using stops
  · intro first
    have stops := List.head?_dropWhile_not (· == '"') body
    rw [first] at stops
    simp at stops

namespace Quoted

variable {text : String} {marks rest : List Char} {quotes : Nat}

/-- Without its marks, a literal begins with its quotes. -/
theorem dropWhile_marks (q : Quoted text marks quotes rest) :
    (text.toList.dropWhile fun c => c == '@' || c == '$') =
      List.replicate quotes '"' ++ rest := by
  change text.toList.dropWhile isLiteralMark = _
  rw [q.chars, List.append_assoc, List.dropWhile_append_of_pos q.marks_only]
  cases quotes with
  | succ n => rfl
  | zero =>
      cases rest with
      | nil => rfl
      | cons c rest =>
          have other := q.no_mark rfl c rfl
          rw [List.replicate_zero, List.nil_append, List.dropWhile_cons_of_neg (by simp [other])]

theorem takeWhile_quotes (q : Quoted text marks quotes rest) :
    (List.replicate quotes '"' ++ rest).takeWhile (· == '"') = List.replicate quotes '"' := by
  have none : rest.takeWhile (· == '"') = [] := by
    have differ := q.no_quote
    cases rest with
    | nil => rfl
    | cons c rest => simpa using differ
  rw [List.takeWhile_append_of_pos, none, List.append_nil]
  intro c member
  simp [(List.mem_replicate.mp member).2]

theorem unquote_eq (q : Quoted text marks quotes rest) :
    unquote text =
      if quotes = 2 ∨ byteLength rest < quotes then some ""
      else (dropBytes quotes rest.reverse).map fun kept => String.ofList kept.reverse := by
  have size : byteLength (List.replicate quotes '"' ++ rest) = quotes + byteLength rest := by
    rw [byteLength_append, byteLength_quotes]
  have dropped : (List.replicate quotes '"' ++ rest).drop quotes = rest := by
    rw [List.drop_left' (List.length_replicate ..)]
  have short : quotes + byteLength rest < quotes * 2 ↔ byteLength rest < quotes := by omega
  simp only [unquote, q.dropWhile_marks, q.takeWhile_quotes, List.length_replicate, size, dropped,
    Bool.or_eq_true, beq_iff_eq, decide_eq_true_eq, short]

/-- The content of a literal cannot be cut out exactly if the cut at its end falls inside a
character. -/
theorem unquote_eq_none_iff (q : Quoted text marks quotes rest) :
    unquote text = none ↔
      quotes ≠ 2 ∧ quotes ≤ byteLength rest ∧
        ¬ IsBorder rest (byteLength rest - quotes) := by
  rw [q.unquote_eq]
  split
  · next plain =>
      simp only [reduceCtorEq, false_iff]
      rintro ⟨two, fits, -⟩
      omega
  · next cut =>
      obtain ⟨two, fits⟩ := not_or.mp cut
      rw [Nat.not_lt] at fits
      rw [Option.map_eq_none_iff, dropBytes_reverse_eq_none_iff fits]
      simp [two, fits]

/-- What is cut out of a literal if its quotes are not two: all up to as many bytes from the end as
there are opening quotes. -/
theorem unquote_of_append {content back : List Char}
    (q : Quoted text marks quotes (content ++ back)) (two : quotes ≠ 2)
    (bytes : byteLength back = quotes) : unquote text = some (String.ofList content) := by
  have long : ¬ (quotes = 2 ∨ byteLength (content ++ back) < quotes) := by
    rw [byteLength_append]
    omega
  have cut : dropBytes quotes (content ++ back).reverse = some content.reverse :=
    dropBytes_eq_some_iff.mpr ⟨back.reverse, List.reverse_append, by rw [byteLength_reverse, bytes]⟩
  rw [q.unquote_eq, if_neg long, cut, Option.map_some, List.reverse_reverse]

/-- A content that is not empty is the first thing after the opening quotes. -/
theorem of_enclosed {content : List Char} {closing : Nat}
    (chars : text.toList =
      marks ++ List.replicate quotes '"' ++ content ++ List.replicate closing '"')
    (marked : ∀ c ∈ marks, isLiteralMark c = true) (start : content.head? ≠ some '"')
    (nonempty : content ≠ []) (opened : 0 < quotes) :
    Quoted text marks quotes (content ++ List.replicate closing '"') := by
  refine ⟨?_, marked, fun none => absurd none (by omega), ?_⟩
  · rw [chars, List.append_assoc _ content]
  · cases content with
    | nil => exact absurd rfl nonempty
    | cons c content => exact start

/-- Around an empty content, the closing quotes count as opening ones. -/
theorem of_empty {closing : Nat}
    (chars : text.toList = marks ++ List.replicate quotes '"' ++ List.replicate closing '"')
    (marked : ∀ c ∈ marks, isLiteralMark c = true) :
    Quoted text marks (quotes + closing) [] := by
  refine ⟨?_, marked, fun _ c none => by simp at none, by simp⟩
  rw [chars, List.append_assoc, List.replicate_append_replicate, List.append_nil]

end Quoted

/-- A literal whose content cannot be cut out: as many bytes before its end as it has opening
quotes, no character begins. -/
def SplitsCharacter (text : String) : Prop :=
  ∃ marks quotes rest, Quoted text marks quotes rest ∧ quotes ≠ 2 ∧ quotes ≤ byteLength rest ∧
    ¬ IsBorder rest (byteLength rest - quotes)

theorem unquote_eq_none_iff (text : String) : unquote text = none ↔ SplitsCharacter text := by
  constructor
  · intro none
    obtain ⟨marks, quotes, rest, q⟩ := exists_quoted text
    exact ⟨marks, quotes, rest, q, q.unquote_eq_none_iff.mp none⟩
  · rintro ⟨marks, quotes, rest, q, splits⟩
    exact q.unquote_eq_none_iff.mpr splits

/-- A literal that more quotes open than close: the quotes over decide. They are cut off at the end
of its content, byte by byte. With no quotes over, no character is split. -/
theorem splitsCharacter_closed_iff {marks content : List Char} {closing more : Nat}
    (marked : ∀ c ∈ marks, isLiteralMark c = true) (start : content.head? ≠ some '"')
    (nonempty : content ≠ []) (quotes : 0 < closing + more) (two : closing + more ≠ 2) :
    SplitsCharacter (String.ofList (marks ++ List.replicate (closing + more) '"' ++ content ++
        List.replicate closing '"')) ↔
      more ≤ byteLength content ∧ ¬ IsBorder content (byteLength content - more) := by
  have q : Quoted (String.ofList (marks ++ List.replicate (closing + more) '"' ++ content ++
      List.replicate closing '"')) marks (closing + more)
      (content ++ List.replicate closing '"') :=
    .of_enclosed String.toList_ofList marked start nonempty quotes
  have size :
      byteLength (content ++ List.replicate closing '"') = byteLength content + closing := by
    rw [byteLength_append, byteLength_quotes]
  have offset : byteLength content + closing - (closing + more) = byteLength content - more := by
    omega
  rw [← unquote_eq_none_iff, q.unquote_eq_none_iff, size, offset,
    isBorder_append_iff (Nat.sub_le _ _)]
  constructor
  · rintro ⟨-, fits, inside⟩
    exact ⟨by omega, inside⟩
  · rintro ⟨fits, inside⟩
    exact ⟨two, by omega, inside⟩

/-! ### Quoting and unquoting -/

/-- The literal with the given content between as many quotes on both sides. -/
def literal (marks : String) (quotes : Nat) (content : String) : String :=
  let delimiter := String.ofList (List.replicate quotes '"')
  marks ++ delimiter ++ content ++ delimiter

theorem toList_literal (marks : String) (quotes : Nat) (content : String) :
    (literal marks quotes content).toList =
      marks.toList ++ List.replicate quotes '"' ++ content.toList ++ List.replicate quotes '"' := by
  simp only [literal, String.toList_append, String.toList_ofList]

section Literal

variable {marks content : String} {quotes : Nat}

theorem unquote_literal_empty (marked : marks.toList.all isLiteralMark = true)
    (opened : 0 < quotes) : unquote (literal marks quotes "") = some "" := by
  -- All the quotes open the literal, so that it is too short to be closed by as many.
  have q : Quoted (literal marks quotes "") marks.toList (quotes + quotes) [] :=
    .of_empty (by rw [toList_literal, String.toList_empty, List.append_nil])
      (List.all_eq_true.mp marked)
  rw [q.unquote_eq, if_pos (Or.inr (by rw [byteLength_nil]; omega))]

/-- What is left of a literal is its content, but two quotes are taken for an empty literal. -/
theorem unquote_literal (marked : marks.toList.all isLiteralMark = true)
    (start : content.toList.head? ≠ some '"') (opened : 0 < quotes) :
    unquote (literal marks quotes content) = some (if quotes = 2 then "" else content) := by
  -- Only a content that is not empty keeps the two runs of quotes apart.
  by_cases empty : content = ""
  · rw [empty, ite_self, unquote_literal_empty marked opened]
  · have nonempty : content.toList ≠ [] := fun none => empty (String.toList_eq_nil_iff.mp none)
    have q := Quoted.of_enclosed (toList_literal marks quotes content) (List.all_eq_true.mp marked)
      start nonempty opened
    by_cases two : quotes = 2
    · rw [q.unquote_eq, if_pos (Or.inl two), if_pos two]
    · rw [q.unquote_of_append two (byteLength_quotes quotes), String.ofList_toList, if_neg two]

/-- Unquoting undoes quoting, whatever marks stand in front, exactly unless two quotes enclose a
content that is not empty. -/
theorem unquote_literal_eq_content_iff (marked : marks.toList.all isLiteralMark = true)
    (start : content.toList.head? ≠ some '"') (opened : 0 < quotes) :
    unquote (literal marks quotes content) = some content ↔ quotes ≠ 2 ∨ content = "" := by
  rw [unquote_literal marked start opened, Option.some.injEq]
  by_cases two : quotes = 2
  · rw [if_pos two, eq_comm]
    simp [two]
  · simp [two]

end Literal

/-- Quotes and characters of several bytes at the end of a content, and a content that is empty. -/
theorem unquote_literal_raw_and_empty :
    literal "$@" 3 "a\"€\"\"" = "$@\"\"\"a\"€\"\"\"\"\"" ∧
      unquote (literal "$@" 3 "a\"€\"\"") = some "a\"€\"\"" ∧
      unquote (literal "" 2 "") = some "" :=
  ⟨by decide, (unquote_literal_eq_content_iff (by decide) (by decide) (by decide)).mpr (by decide),
    (unquote_literal_eq_content_iff (by decide) (by decide) (by decide)).mpr (by decide)⟩

end LayerLint.Text
