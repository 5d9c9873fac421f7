import LayerLint.Json.Fault
import LayerLint.Decimal.Shortest

/-! Reading the parts of a document: blanks, words, numbers and texts. Faults are placed by bytes:
at the bytes read so far, or one byte further where the next byte is to blame. -/

namespace LayerLint.Json

/-- The rest of a text and the place where it starts. -/
structure Cursor where
  rest : List Char
  mark : Mark := {}

abbrev Read := StateT Cursor (Except Fault)

def Cursor.ahead (c : Cursor) : Mark :=
  match c.rest with
  | [] => c.mark
  | x :: _ => c.mark.into x

def Cursor.bump (c : Cursor) : Cursor :=
  match c.rest with
  | [] => c
  | x :: rest => ⟨rest, c.mark.next x⟩

def refuse {α : Type} (kind : FaultKind) : Read α := do
  throw ⟨kind, (← get).mark⟩

/-- Refuses the next byte. -/
def refuseNext {α : Type} (kind : FaultKind) : Read α := do
  throw ⟨kind, (← get).ahead⟩

def next? : Read (Option Char) :=
  return (← get).rest.head?

def bump : Read Unit :=
  modify Cursor.bump

def isSpace (c : Char) : Bool :=
  c == ' ' || c == '\n' || c == '\t' || c == '\r'

/-- The characters of a list from the first one on that is no blank. -/
def skipSpace (m : Mark) : List Char → Cursor
  | [] => ⟨[], m⟩
  | c :: cs => if isSpace c then skipSpace (m.next c) cs else ⟨c :: cs, m⟩

/-- The next character that is no blank. -/
def nextPastSpace? : Read (Option Char) := do
  modify fun c => skipSpace c.mark c.rest
  next?

/-- Reads the rest of a word such as `null`. -/
def readWord : List Char → Read Unit
  | [] => return
  | w :: ws => do
    match ← next? with
    | none => refuse .endInValue
    | some c =>
      if c == w then
        bump
        readWord ws
      else refuseNext .expectedIdent

/-! ### Texts -/

def hexValue? (c : Char) : Option Nat :=
  if '0' ≤ c && c ≤ '9' then some (c.toNat - 48)
  else if 'a' ≤ c && c ≤ 'f' then some (c.toNat - 87)
  else if 'A' ≤ c && c ≤ 'F' then some (c.toNat - 55)
  else none

def hexOf? (a b c d : Char) : Option Nat := do
  let a ← hexValue? a
  let b ← hexValue? b
  let c ← hexValue? c
  let d ← hexValue? d
  return ((a * 16 + b) * 16 + c) * 16 + d

/-- The place `n` bytes further, or at the end of the text; whether there are as many bytes. -/
def Mark.plusBytes (m : Mark) : Nat → List Char → Mark × Bool
  | 0, _ => (m, true)
  | _ + 1, [] => (m, false)
  | n + 1, c :: cs =>
    if c.utf8Size ≤ n + 1 then (m.next c).plusBytes (n + 1 - c.utf8Size) cs
    else (⟨m.line, m.column + n + 1⟩, true)

/-- The fault of four bytes that are no hexadecimal digits. -/
def hexFault (m : Mark) (cs : List Char) : Fault :=
  let (mark, enough) := m.plusBytes 4 cs
  if enough then ⟨.invalidEscape, mark⟩ else ⟨.endInString, mark⟩

/-- The place after ASCII characters. -/
def Mark.plus (m : Mark) (n : Nat) : Mark :=
  ⟨m.line, m.column + n⟩

/-- What follows `\u` and its four digits, when they are the first half of a character: the fault
of a second half that is not there. -/
def pairFault (m : Mark) (cs : List Char) : Fault :=
  match cs with
  | [] => ⟨.endInString, m⟩
  | '\\' :: [] => ⟨.endInString, m.plus 1⟩
  | '\\' :: 'u' :: rest =>
    match rest with
    | a :: b :: c :: d :: _ =>
      if (hexOf? a b c d).isSome then ⟨.loneSurrogate, m.plus 6⟩ else hexFault (m.plus 2) rest
    | _ => hexFault (m.plus 2) rest
  | '\\' :: c :: _ => ⟨.endOfHexEscape, (m.plus 1).into c⟩
  | c :: _ => ⟨.endOfHexEscape, m.into c⟩

def isHighHalf (n : Nat) : Bool :=
  0xD800 ≤ n && n ≤ 0xDBFF

def isLowHalf (n : Nat) : Bool :=
  0xDC00 ≤ n && n ≤ 0xDFFF

/-- The character that an escape of one letter stands for. -/
def escaped? : Char → Option Char
  | '"' => some '"'
  | '\\' => some '\\'
  | '/' => some '/'
  | 'b' => some '\x08'
  | 'f' => some '\x0c'
  | 'n' => some '\n'
  | 'r' => some '\r'
  | 't' => some '\t'
  | _ => none

/-- Reads a text after its opening quote. `done` holds its characters so far, in reverse. -/
def textAfter (m : Mark) (done : List Char) : List Char → Except Fault (List Char × Cursor)
  | [] => .error ⟨.endInString, m⟩
  | '"' :: rest => .ok (done.reverse, ⟨rest, m.plus 1⟩)
  | '\\' :: [] => .error ⟨.endInString, m.plus 1⟩
  | '\\' :: 'u' :: a :: b :: c :: d :: '\\' :: 'u' :: e :: f :: g :: h :: rest =>
    match hexOf? a b c d, hexOf? e f g h with
    | some n, some k =>
      if isHighHalf n then
        if isLowHalf k then
          textAfter (m.plus 12) (Char.ofNat ((n - 0xD800) * 1024 + (k - 0xDC00) + 65536) :: done)
            rest
        else .error ⟨.loneSurrogate, m.plus 12⟩
      else if isLowHalf n then .error ⟨.loneSurrogate, m.plus 6⟩
      else textAfter (m.plus 6) (Char.ofNat n :: done) ('\\' :: 'u' :: e :: f :: g :: h :: rest)
    | some n, none =>
      if isHighHalf n then
        .error (pairFault (m.plus 6) ('\\' :: 'u' :: e :: f :: g :: h :: rest))
      else if isLowHalf n then .error ⟨.loneSurrogate, m.plus 6⟩
      else textAfter (m.plus 6) (Char.ofNat n :: done) ('\\' :: 'u' :: e :: f :: g :: h :: rest)
    | none, _ => .error (hexFault (m.plus 2) (a :: b :: c :: d :: []))
  | '\\' :: 'u' :: a :: b :: c :: d :: rest =>
    match hexOf? a b c d with
    | some n =>
      if isHighHalf n then .error (pairFault (m.plus 6) rest)
      else if isLowHalf n then .error ⟨.loneSurrogate, m.plus 6⟩
      else textAfter (m.plus 6) (Char.ofNat n :: done) rest
    | none => .error (hexFault (m.plus 2) (a :: b :: c :: d :: rest))
  | '\\' :: 'u' :: rest => .error (hexFault (m.plus 2) rest)
  | '\\' :: c :: rest =>
    match escaped? c with
    | some x => textAfter (m.plus 2) (x :: done) rest
    | none => .error ⟨.invalidEscape, (m.plus 1).into c⟩
  | c :: rest =>
    if c.toNat < 32 then .error ⟨.controlCharacter, m.next c⟩
    else textAfter (m.next c) (c :: done) rest
termination_by cs => cs.length

def readText : Read String := do
  bump
  let c ← get
  let (chars, cursor) ← (textAfter c.mark [] c.rest : Except Fault _)
  set cursor
  return String.ofList chars

/-- Passes a text after its opening quote. Only the form of its escapes counts. -/
def skipTextAfter (m : Mark) : List Char → Except Fault Cursor
  | [] => .error ⟨.endInString, m⟩
  | '"' :: rest => .ok ⟨rest, m.plus 1⟩
  | '\\' :: [] => .error ⟨.endInString, m.plus 1⟩
  | '\\' :: 'u' :: a :: b :: c :: d :: rest =>
    if (hexOf? a b c d).isSome then skipTextAfter (m.plus 6) rest
    else .error (hexFault (m.plus 2) (a :: b :: c :: d :: rest))
  | '\\' :: 'u' :: rest => .error (hexFault (m.plus 2) rest)
  | '\\' :: c :: rest =>
    if (escaped? c).isSome then skipTextAfter (m.plus 2) rest
    else .error ⟨.invalidEscape, (m.plus 1).into c⟩
  | c :: rest =>
    if c.toNat < 32 then .error ⟨.controlCharacter, m⟩ else skipTextAfter (m.next c) rest

def skipText : Read Unit := do
  bump
  let c ← get
  set (← (skipTextAfter c.mark c.rest : Except Fault _))

/-! ### Numbers -/

def isDigit (c : Char) : Bool :=
  '0' ≤ c && c ≤ '9'

def takeDigits : Read (List Char) := do
  let c ← get
  let digits := c.rest.takeWhile isDigit
  set ({ rest := c.rest.drop digits.length, mark := c.mark.plus digits.length } : Cursor)
  return digits

/-- Passes the exponent of a number from its letter on. -/
def skipExponent : Read Unit := do
  bump
  if (← next?).any fun c => c == '+' || c == '-' then bump
  match ← next? with
  | none => refuse .invalidNumber
  | some c =>
    if isDigit c then
      let _ ← takeDigits
    else refuseNext .invalidNumber

def skipNumber : Read Unit := do
  match ← next? with
  | none => refuse .invalidNumber
  | some c =>
    if c == '0' then
      bump
      if (← next?).any isDigit then refuseNext .invalidNumber
    else if isDigit c then
      let _ ← takeDigits
    else refuseNext .invalidNumber
  if (← next?) == some '.' then
    bump
    if (← takeDigits).isEmpty then refuseNext .invalidNumber
  if (← next?).any fun c => c == 'e' || c == 'E' then skipExponent

inductive Number where
  | natural (n : Nat)
  | negative (n : Nat)
  | float (x : Float)

/-- Numbers are whole up to this one. -/
def wholeLimit : Nat := 18446744073709551615

/-- The digits that fit into a whole number, from the left, and how many are left. -/
def significand (n : Nat) : List Char → Nat × Nat
  | [] => (n, 0)
  | c :: cs =>
    let more := n * 10 + (c.toNat - 48)
    if wholeLimit < more then (n, (c :: cs).length) else significand more cs

/-- The exponents of the powers of ten that a number is multiplied with or divided by at once. -/
def powerLimit : Nat := 308

/-- A whole number times a power of ten, in steps that each round. -/
def scaled (x : Float) : Nat → Int → Option Float
  | 0, _ => some x
  | fuel + 1, e =>
    if e.natAbs ≤ powerLimit then
      let power := Float.ofScientific 1 false e.natAbs
      if 0 ≤ e then
        let y := x * power
        if y.isInf then none else some y
      else some (x / power)
    else if x == 0.0 then some x
    else if 0 ≤ e then none
    else scaled (x / Float.ofScientific 1 false powerLimit) fuel (e + powerLimit)

/-- Floats have a sign of their own, also at zero. -/
def signed (positive : Bool) (x : Float) : Number :=
  .float (if positive then x else -x)

def finish (positive : Bool) (digits : Nat) (e : Int) : Read Number := do
  match scaled digits.toUInt64.toFloat (e.natAbs / powerLimit + 2) e with
  | some x => return signed positive x
  | none => refuse .numberOutOfRange

/-- The largest exponent that is read. -/
def exponentLimit : Nat := 2147483647

/-- The value of digits up to the limit, and how many digits are left after the first one that goes
beyond it. -/
def exponentOf (n : Nat) : List Char → Option Nat × Nat
  | [] => (some n, 0)
  | c :: cs =>
    let more := n * 10 + (c.toNat - 48)
    if exponentLimit < more then (none, cs.length) else exponentOf more cs

/-- Reads the exponent of a number from its letter on. -/
def readExponent (positive : Bool) (digits : Nat) (e : Int) : Read Number := do
  bump
  let negative := (← next?) == some '-'
  if (← next?).any fun c => c == '+' || c == '-' then bump
  match ← next? with
  | none => refuse .endInValue
  | some c =>
    if !isDigit c then refuseNext .invalidNumber
    let exponent ← takeDigits
    match exponentOf 0 exponent with
    | (some n, _) =>
      let limit : Int := exponentLimit
      let total := if negative then max (-limit - 1) (e - n) else min limit (e + n)
      finish positive digits total
    | (none, left) =>
      if digits != 0 && !negative then
        let c ← get
        throw ⟨.numberOutOfRange, ⟨c.mark.line, c.mark.column - left⟩⟩
      else return signed positive 0.0

/-- Reads the fraction of a number from its point on. -/
def readFraction (positive : Bool) (digits : Nat) (e : Int) : Read Number := do
  bump
  let fraction ← takeDigits
  if fraction.isEmpty then
    match ← next? with
    | some _ => refuseNext .invalidNumber
    | none => refuseNext .endInValue
  let (digits, left) := significand digits fraction
  let e := e - (fraction.length - left : Nat)
  if (← next?).any fun c => c == 'e' || c == 'E' then readExponent positive digits e
  else finish positive digits e

def readNumber (positive : Bool) : Read Number := do
  let digits ← (do
    match ← next? with
    | none => refuse .endInValue
    | some c =>
      if c == '0' then
        bump
        if (← next?).any isDigit then refuseNext .invalidNumber
        return ['0']
      else if isDigit c then takeDigits
      else refuseNext .invalidNumber : Read (List Char))
  let (n, left) := significand 0 digits
  match ← next? with
  | some '.' => readFraction positive n left
  | some 'e' | some 'E' => readExponent positive n left
  | _ =>
    if 0 < left then finish positive n left
    else if positive then return .natural n
    else if n == 0 || 9223372036854775808 < n then return signed false n.toUInt64.toFloat
    else return .negative n

end LayerLint.Json
