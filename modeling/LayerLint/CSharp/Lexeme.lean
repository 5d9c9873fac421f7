import LayerLint.Syntax.Form
import LayerLint.Text.WordChar
import LayerLint.Text.Blank

/-! The tokens of C#: identifiers, numbers, the pieces of string literals, comments and the
directives that may stand between any two tokens. -/

namespace LayerLint.CSharp

open Syntax Text

def isNameStart (c : Char) : Bool :=
  c == '_' || isIdentifierStart c

def isNamePart (c : Char) : Bool :=
  isIdentifierPart c

def isSpace (c : Char) : Bool :=
  isBlank c || c.toNat == 0xFEFF

/-- An identifier that is none of the words `except`. An `@` in front belongs to it and makes it
differ from every word. -/
def scanName (except : List String) : Scanner :=
  fun src i =>
    let start := if src.at? i == some '@' then i + 1 else i
    match src.at? start with
    | some c =>
      if isNameStart c then
        let stop := src.spanOf isNamePart (start + 1)
        if except.contains (src.slice i stop) then none else some stop
      else none
    | none => none

/-! ### Numbers -/

def isHexDigit (c : Char) : Bool :=
  isAsciiDigit c || ('a' ≤ c && c ≤ 'f') || ('A' ≤ c && c ≤ 'F')

/-- Digits of a class with underscores among them, but not at the end. -/
def scanDigits (isDigit : Char → Bool) : Scanner :=
  let rec go (src : Source) : Nat → Nat → Nat
    | 0, i => i
    | fuel + 1, i =>
      let stop := src.spanOf isDigit i
      let next := src.spanOf (· == '_') stop
      if stop < next && (src.at? next).any isDigit then go src fuel next else stop
  fun src i => if (src.at? i).any isDigit then some (go src (src.size - i) i) else none

/-- One of the characters `cs`, if it stands there. -/
def skipOne (cs : List Char) (src : Source) (i : Nat) : Nat :=
  if (src.at? i).any cs.contains then i + 1 else i

/-- The suffix that makes an integer unsigned or long. -/
def skipIntegerSuffix (src : Source) (i : Nat) : Nat :=
  if (src.at? i).any (['u', 'U'].contains ·) then skipOne ['l', 'L'] src (i + 1)
  else if (src.at? i).any (['l', 'L'].contains ·) then skipOne ['u', 'U'] src (i + 1)
  else i

/-- Digits after a radix mark, which underscores may follow at once. -/
def scanRadixDigits (letters : List Char) (isDigit : Char → Bool) : Scanner :=
  fun src i =>
    if src.at? i == some '0' && (src.at? (i + 1)).any letters.contains then
      scanDigits isDigit src (src.spanOf (· == '_') (i + 2))
    else none

def scanPlainInteger : Scanner :=
  fun src i =>
    ((scanRadixDigits ['x', 'X'] isHexDigit src i).or
      ((scanRadixDigits ['b', 'B'] (fun c => c == '0' || c == '1') src i).or
        (scanDigits isAsciiDigit src i))).map (skipIntegerSuffix src)

/-- A real number has a point with digits after it, an exponent or a suffix. -/
def scanReal : Scanner :=
  fun src i =>
    let digits := scanDigits isAsciiDigit
    let whole := (digits src i).getD i
    let fraction :=
      if src.at? whole == some '.' then (digits src (whole + 1)).getD whole else whole
    let exponent :=
      if i < fraction && (src.at? fraction).any (['e', 'E'].contains ·) then
        (digits src (skipOne ['+', '-'] src (fraction + 1))).getD fraction
      else fraction
    let stop :=
      if i < exponent then skipOne ['f', 'F', 'd', 'D', 'm', 'M'] src exponent else exponent
    if i < stop && whole < stop then some stop else none

/-- An integer that is not the beginning of a real number. -/
def scanInteger : Scanner :=
  fun src i =>
    match scanPlainInteger src i, scanReal src i with
    | some a, some b => if a < b then none else some a
    | a, _ => a

/-- A real number that an integer does not reach as far as. -/
def scanProperReal : Scanner :=
  fun src i =>
    match scanReal src i, scanPlainInteger src i with
    | some a, some b => if b < a then some a else none
    | a, _ => a

/-! ### Characters and strings -/

/-- `n` hexadecimal digits. -/
def hexDigitsAt (src : Source) (i n : Nat) : Bool :=
  (List.range n).all fun k => (src.at? (i + k)).any isHexDigit

def scanEscape : Scanner :=
  fun src i =>
    if src.at? i == some '\\' then
      match src.at? (i + 1) with
      | some 'x' =>
        let stop := min (src.spanOf isHexDigit (i + 2)) (i + 6)
        if i + 2 < stop then some stop else none
      | some 'u' => if hexDigitsAt src (i + 2) 4 then some (i + 6) else none
      | some 'U' => if hexDigitsAt src (i + 2) 8 then some (i + 10) else none
      | some c =>
        if ['a', 'b', 'e', 'f', 'n', 'r', 't', 'v', '"', '\\', '?', '0'].contains c ||
            c.toNat == 39 then some (i + 2)
        else none
      | none => none
    else none

/-- A backslash before a character that makes no escape is plain text. -/
def scanLooseEscape : Scanner :=
  fun src i =>
    if src.at? i == some '\\' && (scanEscape src i).isNone && i + 1 < src.size then some (i + 2)
    else none

def scanCharacter : Scanner :=
  fun src i =>
    let isQuote := fun j => (src.at? j).any (·.toNat == 39)
    if isQuote i && !isQuote (i + 1) then
      let stop := (scanEscape src (i + 1)).or
        (if (src.at? (i + 1)).any (fun c => c != '\\' && c != '\n') then some (i + 2) else none)
      stop.bind fun j => if isQuote j then some (j + 1) else none
    else none

/-- A piece of a string: no quote, no backslash and no line end. -/
def scanTextPart : Scanner :=
  fun src i =>
    let stop := src.spanOf (fun c => c != '"' && c != '\\' && c != '\n') i
    if i < stop then some stop else none

/-- The mark of a UTF-8 string after its closing quote. -/
def scanEncoding : Scanner :=
  scanFirst [scanText "u8", scanText "U8"]

/-- A string that begins with `@`: a quote inside is written twice. -/
def scanVerbatim : Scanner :=
  let rec go (src : Source) : Nat → Nat → Option Nat
    | 0, _ => none
    | fuel + 1, i =>
      let stop := src.spanOf (· != '"') i
      if src.at? stop == some '"' then
        if src.at? (stop + 1) == some '"' then go src fuel (stop + 2) else some (stop + 1)
      else none
  fun src i =>
    if src.hasChars i ['@', '"'] then
      (go src (src.size - i) (i + 2)).map fun stop => (scanEncoding src stop).getD stop
    else none

/-- The number of times that a character stands at an offset in a row. -/
def runLength (c : Char) (src : Source) (i : Nat) : Nat :=
  src.spanOf (· == c) i - i

/-- Exactly `n` quotes. -/
def scanQuotes (n : Nat) : Scanner :=
  fun src i => if runLength '"' src i == n then some (i + n) else none

/-- At least `n` quotes, of which `n` are taken. -/
def scanClosingQuotes (n : Nat) : Scanner :=
  fun src i => if n ≤ runLength '"' src i then some (i + n) else none

/-- Text up to the next `n` quotes. -/
def scanRawPart (n : Nat) : Scanner :=
  let rec go (src : Source) : Nat → Nat → Option Nat
    | 0, _ => none
    | fuel + 1, i =>
      let stop := src.spanOf (· != '"') i
      let run := runLength '"' src stop
      if run == 0 then none
      else if n ≤ run then some stop
      else go src fuel (stop + run)
  fun src i => (go src (src.size + 1 - i) i).bind fun stop => if i < stop then some stop else none

/-! ### Interpolated strings -/

/-- The ways of writing an interpolated string. -/
inductive Style where
  | regular
  | verbatim
  | raw (quotes dollars : Nat)

def Style.braces : Style → Nat
  | .raw _ dollars => dollars
  | _ => 1

def opening : Char := '\x7b'

/-- A piece of an interpolated string: it ends before an interpolation, the closing quote or, in a
regular string, an escape. -/
def scanInterpolatedPart (style : Style) : Scanner :=
  let rec go (src : Source) : Nat → Nat → Nat
    | 0, i => i
    | fuel + 1, i =>
      match src.at? i with
      | none => i
      | some c =>
        if c == opening then
          let run := runLength opening src i
          match style with
          | .raw _ dollars => if dollars ≤ run then i + (run - dollars) else go src fuel (i + run)
          | _ => if run == 1 then i else go src fuel (i + 2)
        else
          match style with
          | .regular => if c == '"' || c == '\\' || c == '\n' then i else go src fuel (i + 1)
          | .verbatim =>
            if c == '"' then
              if src.at? (i + 1) == some '"' then go src fuel (i + 2) else i
            else go src fuel (i + 1)
          | .raw quotes _ =>
            if c == '"' then
              let run := runLength '"' src i
              if quotes ≤ run then i else go src fuel (i + run)
            else go src fuel (i + 1)
  fun src i =>
    let stop := go src (src.size + 1 - i) i
    if i < stop then some stop else none

def scanBraces (brace : Char) (n : Nat) : Scanner :=
  fun src i => if src.hasChars i (List.replicate n brace) then some (i + n) else none

/-- The format of an interpolation, up to its closing brace. -/
def scanFormat : Scanner :=
  fun src i =>
    let stop := src.spanOf (fun c => c != '\x7d' && c != '"') i
    if i < stop then some stop else none

/-- A string from quote to quote, or its quote alone if it is never closed. -/
def scanStringToken : Scanner :=
  let rec go (src : Source) : Nat → Nat → Option Nat
    | 0, _ => none
    | fuel + 1, i =>
      match src.at? i with
      | some '"' => some (i + 1)
      | some '\\' => go src fuel (i + 2)
      | some '\n' => none
      | some _ => go src fuel (i + 1)
      | none => none
  fun src i =>
    (scanVerbatim src i).or
      (if src.at? i == some '"' then some ((go src (src.size + 1 - i) (i + 1)).getD (i + 1))
      else none)

/-! ### Comments and directives -/

/-- The offset just after the next `*/`, if there is one. -/
def commentEnd (src : Source) : Nat → Nat → Option Nat
  | 0, _ => none
  | fuel + 1, i =>
    if src.hasChars i ['*', '/'] then some (i + 2)
    else if i < src.size then commentEnd src fuel (i + 1) else none

def scanComment : Scanner :=
  fun src i =>
    if src.hasChars i ['/', '/'] then some (src.spanOf (fun c => c != '\n' && c != '\r') i)
    else if src.hasChars i ['/', '*'] then commentEnd src (src.size + 1 - i) (i + 2)
    else none

/-- The sign `#`, blanks and a word. -/
def scanDirective (word : String) : Scanner :=
  fun src i =>
    if src.at? i == some '#' then
      scanWord isNamePart word src (src.spanOf (fun c => c == ' ' || c == '\t') (i + 1))
    else none

/-- The directives that may stand anywhere and take the rest of their line. -/
def looseDirectives : List String :=
  ["region", "endregion", "line", "pragma", "nullable", "error", "warning", "define", "undef"]

def extra (src : Source) (pos : Position) : Option Tree :=
  match scanComment src pos.offset with
  | some stop => some (Tree.leaf .comment ⟨pos, src.advance pos stop⟩)
  | none =>
    (scanFirst (looseDirectives.map scanDirective) src pos.offset).map fun stop =>
      let lineEnd := src.spanOf (· != '\n') stop
      let sign := Tree.leaf (.token "#") ⟨pos, src.advance pos stop⟩
      let argument := Tree.leaf .directiveArgument
        ⟨src.advance pos stop, src.advance pos lineEnd⟩
      Tree.covering .directive pos [sign, argument]

end LayerLint.CSharp
