import LayerLint.Text.Name
import Mathlib.Data.List.TakeWhile

/-! The simple name of a type. A type is named by segments between dots, and every segment may have
type arguments. The simple name is the identifier of the first segment with arguments, or of the
last one if there is none. So a type inside another one goes by the wrong name if the outer one has
arguments. -/

namespace LayerLint.Text

/-- Whether the angle brackets of a text pair up, given the number of those open before it. -/
def isBalanced : Nat → List Char → Bool
  | before, [] => before == 0
  | before, c :: cs =>
    if c == '<' then isBalanced (before + 1) cs
    else if c == '>' then before != 0 && isBalanced (before - 1) cs
    else isBalanced before cs

def isNameChar (c : Char) : Bool :=
  c != '.' && c != '<' && c != '>' && !isBlank c

/-- A segment of the name of a type: an identifier, and the text of its type arguments if it has
them. -/
structure TypeSegment where
  identifier : String
  arguments : Option String
  nonempty : identifier ≠ ""
  plain : identifier.toList.all isNameChar = true
  balanced : arguments.all (fun inner => isBalanced 0 inner.toList) = true

namespace TypeSegment

def isGeneric (s : TypeSegment) : Bool :=
  s.arguments.isSome

def chars (s : TypeSegment) : List Char :=
  s.identifier.toList ++
    match s.arguments with
    | none => []
    | some inner => '<' :: inner.toList ++ ['>']

theorem plain_of_mem {s : TypeSegment} {c : Char} (member : c ∈ s.identifier.toList) :
    c ≠ '.' ∧ c ≠ '<' ∧ isBlank c = false := by
  have plain := List.all_eq_true.mp s.plain c member
  simp only [isNameChar, Bool.and_eq_true, bne_iff_ne, Bool.not_eq_true'] at plain
  exact ⟨plain.1.1.1, plain.1.1.2, plain.2⟩

end TypeSegment

def typeChars (segments : List TypeSegment) : List Char :=
  ['.'].intercalate (segments.map TypeSegment.chars)

def typeName (segments : List TypeSegment) : String :=
  String.ofList (typeChars segments)

/-! ### Texts that stay whole -/

theorem trimmed_of_no_blank {x : String} (noBlank : ∀ c ∈ x.toList, isBlank c = false) :
    trimmed x = x := by
  have kept : ∀ cs : List Char, (∀ c ∈ cs, isBlank c = false) → cs.dropWhile isBlank = cs := by
    intro cs none
    cases cs with
    | nil => rfl
    | cons c cs => simp [none c List.mem_cons_self]
  have back : ∀ c ∈ x.toList.reverse, isBlank c = false := by
    intro c member
    exact noBlank c (List.mem_reverse.mp member)
  rw [trimmed, kept _ noBlank, kept _ back, List.reverse_reverse, String.ofList_toList]

theorem afterLast_of_forall {p : Char → Bool} {cs : List Char} (none : ∀ c ∈ cs, p c = false) :
    afterLast p cs = cs := by
  have all : cs.reverse.takeWhile (!p ·) = cs.reverse := by
    rw [List.takeWhile_eq_self_iff]
    intro c member
    rw [none c (List.mem_reverse.mp member)]
    rfl
  rw [afterLast, all, List.reverse_reverse]

/-! ### Cutting at brackets -/

def beforeBracket (cs : List Char) : List Char :=
  cs.takeWhile (· != '<')

theorem beforeBracket_identifier (s : TypeSegment) (rest : List Char) :
    beforeBracket (s.identifier.toList ++ rest) = s.identifier.toList ++ beforeBracket rest := by
  apply List.takeWhile_append_of_pos
  intro c member
  simpa using (s.plain_of_mem member).2.1

theorem beforeBracket_of_generic {s : TypeSegment} (generic : s.isGeneric = true)
    (rest : List Char) : beforeBracket (s.chars ++ rest) = s.identifier.toList := by
  obtain ⟨inner, arguments⟩ := Option.isSome_iff_exists.mp generic
  rw [TypeSegment.chars, arguments, List.append_assoc, beforeBracket_identifier]
  exact List.append_nil _

theorem beforeBracket_of_plain {s : TypeSegment} (plain : s.isGeneric = false) (rest : List Char) :
    beforeBracket (s.chars ++ rest) = s.identifier.toList ++ beforeBracket rest := by
  have none : s.arguments = none := by simpa [TypeSegment.isGeneric] using plain
  rw [TypeSegment.chars, none, List.append_nil, beforeBracket_identifier]

theorem typeChars_cons (s last : TypeSegment) (segments : List TypeSegment) :
    typeChars (s :: (segments ++ [last])) = s.chars ++ '.' :: typeChars (segments ++ [last]) := by
  cases segments with
  | nil => simp [typeChars]
  | cons t ts => simp [typeChars]

/-- The segment by which a type is called: the first one with type arguments, or the last one. -/
def callingSegment (segments : List TypeSegment) (last : TypeSegment) : TypeSegment :=
  (segments.find? TypeSegment.isGeneric).getD last

/-- The identifiers before the one by which a type is called, each with its dot. -/
def qualifier (segments : List TypeSegment) : List Char :=
  (segments.takeWhile (!·.isGeneric)).flatMap fun s => s.identifier.toList ++ ['.']

theorem beforeBracket_typeChars (segments : List TypeSegment) (last : TypeSegment) :
    beforeBracket (typeChars (segments ++ [last])) =
      qualifier segments ++ (callingSegment segments last).identifier.toList := by
  induction segments with
  | nil =>
      have alone : typeChars ([] ++ [last]) = last.chars ++ [] := by simp [typeChars]
      rw [alone]
      cases generic : last.isGeneric with
      | true => exact beforeBracket_of_generic generic []
      | false => exact (beforeBracket_of_plain generic []).trans (List.append_nil _)
  | cons s segments ih =>
      rw [List.cons_append, typeChars_cons]
      cases generic : s.isGeneric with
      | true =>
          rw [beforeBracket_of_generic generic]
          simp [qualifier, callingSegment, generic]
      | false =>
          have dot : beforeBracket ('.' :: typeChars (segments ++ [last])) =
              '.' :: beforeBracket (typeChars (segments ++ [last])) := rfl
          rw [beforeBracket_of_plain generic, dot, ih]
          simp [qualifier, callingSegment, generic]

/-! ### Cutting at dots -/

theorem afterLast_append {p : Char → Bool} {c : Char} (ends : p c = true) (front back : List Char) :
    afterLast p (front ++ c :: back) = afterLast p back := by
  rw [afterLast, afterLast, List.reverse_append, List.reverse_cons, List.append_assoc,
    List.singleton_append, List.takeWhile_append, List.takeWhile_cons_of_neg (by simp [ends])]
  split
  · next whole =>
      rw [List.append_nil, (List.takeWhile_prefix _).eq_of_length whole]
  · rfl

theorem afterLast_identifier (s : TypeSegment) :
    afterLast (· == '.') s.identifier.toList = s.identifier.toList := by
  apply afterLast_of_forall
  intro c member
  simpa using (s.plain_of_mem member).1

theorem afterLast_qualifier (segments : List TypeSegment) (s : TypeSegment) :
    afterLast (· == '.') (qualifier segments ++ s.identifier.toList) = s.identifier.toList := by
  rw [qualifier]
  induction segments.takeWhile (!·.isGeneric) with
  | nil => exact afterLast_identifier s
  | cons t outer ih =>
      rw [List.flatMap_cons, List.append_assoc, List.append_assoc, List.singleton_append]
      exact (afterLast_append rfl _ _).trans ih

theorem isBlank_of_mem_qualifier {segments : List TypeSegment} {c : Char}
    (member : c ∈ qualifier segments) : isBlank c = false := by
  obtain ⟨s, -, here⟩ := List.mem_flatMap.mp member
  rcases List.mem_append.mp here with inside | dot
  · exact (s.plain_of_mem inside).2.2
  · rw [List.mem_singleton.mp dot]
    rfl

theorem simpleName_typeName (segments : List TypeSegment) (last : TypeSegment) :
    simpleName (typeName (segments ++ [last])) = (callingSegment segments last).identifier := by
  have cut : (typeName (segments ++ [last])).toList.takeWhile (· != '<') =
      qualifier segments ++ (callingSegment segments last).identifier.toList := by
    rw [typeName, String.toList_ofList]
    exact beforeBracket_typeChars segments last
  generalize callingSegment segments last = s at cut ⊢
  have unspaced : ∀ c ∈ (String.ofList (qualifier segments ++ s.identifier.toList)).toList,
      isBlank c = false := by
    rw [String.toList_ofList]
    intro c member
    rcases List.mem_append.mp member with outer | inside
    · exact isBlank_of_mem_qualifier outer
    · exact (s.plain_of_mem inside).2.2
  have whole := trimmed_of_no_blank fun c member => (s.plain_of_mem member).2.2
  rw [simpleName, cut, trimmed_of_no_blank unspaced, String.toList_ofList,
    afterLast_qualifier, String.ofList_toList, whole]

/-- The simple name of a type is the identifier of the first segment with type arguments, or of the
last segment if there is none. It is the identifier of the last segment exactly if the first segment
before that with type arguments, if there is one, has the same identifier. -/
theorem simpleName_eq_last_iff (segments : List TypeSegment) (last : TypeSegment) :
    simpleName (typeName (segments ++ [last])) =
        ((segments.find? TypeSegment.isGeneric).getD last).identifier ∧
      (simpleName (typeName (segments ++ [last])) = last.identifier ↔
        ∀ outer, segments.find? TypeSegment.isGeneric = some outer →
          outer.identifier = last.identifier) := by
  rw [simpleName_typeName, callingSegment]
  refine ⟨rfl, ?_⟩
  cases found : segments.find? TypeSegment.isGeneric with
  | none => simp
  | some outer => simp

/-- A type inside a type with arguments goes by the name of the outer one. -/
theorem simpleName_of_inner_type :
    let outer : TypeSegment := ⟨"List", some "int", by decide, by decide, by decide⟩
    let inner : TypeSegment := ⟨"Enumerator", none, by decide, by decide, by decide⟩
    typeName [outer, inner] = "List<int>.Enumerator" ∧
      simpleName (typeName [outer, inner]) = "List" ∧
      simpleName (typeName [outer, inner]) ≠ inner.identifier := by
  decide

end LayerLint.Text
