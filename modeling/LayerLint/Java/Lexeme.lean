import LayerLint.Syntax.Form
import LayerLint.Text.WordChar
import LayerLint.Text.Blank

/-! The tokens of Java: identifiers, numbers, the pieces of string literals, and comments. -/

namespace LayerLint.Java

open Syntax Text

def isNameStart (c : Char) : Bool :=
  c == '_' || c == '$' || isIdentifierStart c

def isNamePart (c : Char) : Bool :=
  c == '$' || c.toNat == 0xA2 || isIdentifierPart c

/-- An identifier that is none of the words `except`. -/
def scanName (except : List String) : Scanner :=
  fun src i =>
    match src.at? i with
    | some c =>
      if isNameStart c then
        let stop := src.spanOf isNamePart (i + 1)
        if except.contains (src.slice i stop) then none else some stop
      else none
    | none => none

/-! ### Numbers -/

def isDigitOf (base : Nat) (c : Char) : Bool :=
  let value :=
    if '0' ≤ c && c ≤ '9' then c.toNat - 48
    else if 'a' ≤ c && c ≤ 'f' then c.toNat - 87
    else if 'A' ≤ c && c ≤ 'F' then c.toNat - 55
    else 99
  value < base

/-- Groups of digits with one underscore between each two; `none` if there is no digit. -/
def scanGroups (base : Nat) : Scanner :=
  let rec go (src : Source) : Nat → Nat → Nat
    | 0, i => i
    | fuel + 1, i =>
      let stop := src.spanOf (isDigitOf base) i
      match src.at? stop, src.at? (stop + 1) with
      | some '_', some c => if isDigitOf base c then go src fuel (stop + 1) else stop
      | _, _ => stop
  fun src i =>
    match src.at? i with
    | some c => if isDigitOf base c then some (go src (src.size - i) i) else none
    | none => none

/-- A zero, or digits that do not begin with one; underscores may stand between them. -/
def scanCount : Scanner :=
  fun src i =>
    match src.at? i with
    | some '0' => some (i + 1)
    | some c =>
      if isDigitOf 10 c then
        let digitAt := fun j => (src.at? j).any (isDigitOf 10)
        let rec go : Nat → Nat → Nat
          | 0, j => j
          | fuel + 1, j =>
            let stop := src.spanOf (isDigitOf 10) j
            let next := src.spanOf (· == '_') stop
            if stop < next && digitAt next then go fuel next else stop
        let first := if src.at? (i + 1) == some '_' then i + 2 else i + 1
        if digitAt first then some (go (src.size - i) first) else some (i + 1)
      else none
    | none => none

/-- One of the characters `cs`, if it stands there. -/
def skipOne (cs : List Char) (src : Source) (i : Nat) : Nat :=
  if (src.at? i).any cs.contains then i + 1 else i

/-- A number prefix such as `0x`, in either case of its letter. -/
def scanRadix (letters : List Char) : Scanner :=
  fun src i =>
    if src.at? i == some '0' && (src.at? (i + 1)).any letters.contains then some (i + 2) else none

/-- An exponent, if one stands there. -/
def skipExponent (marks : List Char) (digits : Scanner) (src : Source) (i : Nat) : Nat :=
  if (src.at? i).any marks.contains then
    (digits src (skipOne ['+', '-'] src (i + 1))).getD i
  else i

def longSuffix : List Char := ['l', 'L']

def floatSuffix : List Char := ['f', 'F', 'd', 'D']

def scanDecimalInteger : Scanner :=
  fun src i => (scanCount src i).map (skipOne longSuffix src)

def scanHexInteger : Scanner :=
  fun src i => (scanRadix ['x', 'X'] src i).bind (scanGroups 16 src) |>.map (skipOne longSuffix src)

def scanOctalInteger : Scanner :=
  fun src i =>
    let start := (scanRadix ['o', 'O'] src i).or
      (if src.at? i == some '0' then some (i + 1) else none)
    start.bind (scanGroups 8 src) |>.map (skipOne longSuffix src)

def scanBinaryInteger : Scanner :=
  fun src i => (scanRadix ['b', 'B'] src i).bind (scanGroups 2 src) |>.map (skipOne longSuffix src)

def longest (ends : List (Option Nat)) : Option Nat :=
  ends.foldl (fun best e => match best, e with
    | some a, some b => some (max a b)
    | none, b => b
    | a, none => a) none

def scanDecimalFloat : Scanner :=
  fun src i =>
    let digits := scanGroups 10
    let exponent := skipExponent ['e', 'E'] digits src
    let withPoint := do
      let a ← digits src i
      if src.at? a == some '.' then
        let b := (digits src (a + 1)).getD (a + 1)
        pure (skipOne floatSuffix src (exponent b))
      else none
    let pointFirst := do
      if src.at? i == some '.' then
        let b ← digits src (i + 1)
        pure (skipOne floatSuffix src (exponent b))
      else none
    let withoutPoint := do
      let a ← scanCount src i
      let b := exponent a
      let c := skipOne floatSuffix src b
      if a < b || b < c then pure c else none
    longest [withPoint, pointFirst, withoutPoint]

def scanHexFloat : Scanner :=
  fun src i => do
    let a ← scanRadix ['x', 'X'] src i
    let plain := (scanGroups 16 src a).map fun b =>
      if src.at? b == some '.' then b + 1 else b
    let pointed := do
      let b := (scanGroups 16 src a).getD a
      if src.at? b == some '.' then scanGroups 16 src (b + 1) else none
    let b ← longest [plain, pointed]
    let c := skipExponent ['p', 'P'] (scanGroups 10) src b
    pure (if b < c then skipOne floatSuffix src c else c)

def numberScanners : List (Kind × Scanner) :=
  [(.decimalInteger, scanDecimalInteger), (.hexInteger, scanHexInteger),
   (.octalInteger, scanOctalInteger), (.binaryInteger, scanBinaryInteger),
   (.decimalFloat, scanDecimalFloat), (.hexFloat, scanHexFloat)]

/-- A number of one kind, where no other kind of number reaches further. -/
def scanNumber (scan : Scanner) : Scanner :=
  fun src i => do
    let stop ← scan src i
    let furthest ← longest (numberScanners.map fun (_, s) => s src i)
    if stop < furthest then none else pure stop

/-! ### Characters and strings -/

/-- A character literal: one or more characters or escapes between apostrophes. -/
def scanCharacter : Scanner :=
  let rec go (src : Source) : Nat → Nat → Option Nat
    | 0, _ => none
    | fuel + 1, i =>
      match src.at? i with
      | some '\\' => if i + 1 < src.size then go src fuel (i + 2) else none
      | some '\n' => none
      | some c => if c.toNat == 39 then some (i + 1) else go src fuel (i + 1)
      | none => none
  fun src i =>
    if (src.at? i).any (·.toNat == 39) && !(src.at? (i + 1)).any (·.toNat == 39) then
      go src (src.size - i) (i + 1)
    else none

def isPlainText (c : Char) : Bool :=
  c != '"' && c != '\\'

/-- A piece of a string: no quote and no backslash. -/
def scanTextPart : Scanner :=
  fun src i =>
    let stop := src.spanOf isPlainText i
    if i < stop then some stop else none

/-- A piece of a text block that begins with a quote; escaped quotes belong to it. -/
def scanQuotedPart : Scanner :=
  let rec go (src : Source) : Nat → Nat → Nat
    | 0, i => i
    | fuel + 1, i =>
      let stop := src.spanOf isPlainText i
      if src.at? stop == some '\\' && src.at? (stop + 1) == some '"' then go src fuel (stop + 2)
      else stop
  fun src i => if src.at? i == some '"' then some (go src (src.size - i) (i + 1)) else none

/-- `n` hexadecimal digits. -/
def scanHexDigits (n : Nat) : Scanner :=
  fun src i =>
    if (List.range n).all fun k => (src.at? (i + k)).any (isDigitOf 16) then some (i + n) else none

def scanEscape : Scanner :=
  fun src i =>
    if src.at? i == some '\\' then
      match src.at? (i + 1) with
      | some 'x' => scanHexDigits 2 src (i + 2)
      | some 'u' =>
        if src.at? (i + 2) == some '\x7b' then
          let stop := src.spanOf (isDigitOf 16) (i + 3)
          if i + 3 < stop && src.at? stop == some '\x7d' then some (stop + 1) else none
        else scanHexDigits 4 src (src.spanOf (· == 'u') (i + 1))
      | some c =>
        if isDigitOf 8 c then
          some (min (src.spanOf (isDigitOf 8) (i + 1)) (i + 4))
        else some (i + 2)
      | none => none
    else none

/-- A backslash before a character that is no escape of its own: it leaves no piece in a text
block. -/
def scanSilentEscape : Scanner :=
  fun src i =>
    if src.at? i == some '\\' then
      match src.at? (i + 1) with
      | some c =>
        if ['b', 'f', 'n', 'r', 't', 's', '"', '\\', '\x7b'].contains c || c.toNat == 39 then none
        else if (scanEscape src i).any (i + 2 < ·) then none
        else some (i + 2)
      | none => none
    else none

/-- A string from quote to quote, or its quote alone if it is never closed. -/
def scanStringToken : Scanner :=
  let rec go (src : Source) (quotes : List Char) : Nat → Nat → Option Nat
    | 0, _ => none
    | fuel + 1, i =>
      if src.hasChars i quotes then some (i + quotes.length)
      else if i < src.size then
        go src quotes fuel (if src.at? i == some '\\' then i + 2 else i + 1)
      else none
  fun src i =>
    if src.at? i == some '"' then
      let quotes := if src.hasChars i ['"', '"', '"'] then ['"', '"', '"'] else ['"']
      some ((go src quotes (src.size + 1 - i) (i + quotes.length)).getD (i + quotes.length))
    else none

/-! ### Comments -/

/-- The offset just after the next `*/`, if there is one. -/
def commentEnd (src : Source) : Nat → Nat → Option Nat
  | 0, _ => none
  | fuel + 1, i =>
    if src.hasChars i ['*', '/'] then some (i + 2)
    else if i < src.size then commentEnd src fuel (i + 1) else none

def scanComment (src : Source) (i : Nat) : Option (Bool × Nat) :=
  if src.hasChars i ['/', '/'] then some (true, src.spanOf (· != '\n') i)
  else if src.hasChars i ['/', '*'] then
    (commentEnd src (src.size + 1 - i) (i + 2)).map fun stop => (false, stop)
  else none

def extra (src : Source) (pos : Position) : Option Tree :=
  (scanComment src pos.offset).map fun (isLine, stop) =>
    Tree.leaf (if isLine then .lineComment else .blockComment) ⟨pos, src.advance pos stop⟩

end LayerLint.Java
