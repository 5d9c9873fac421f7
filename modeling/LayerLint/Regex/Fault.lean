import LayerLint.Text.Wildcard

/-! What is wrong with a pattern, and the message that shows where. -/

namespace LayerLint.Regex

/-- A stretch of a pattern, by numbers of characters. -/
structure Span where
  start : Nat
  stop : Nat
  deriving DecidableEq, Repr

inductive FaultKind where
  | classEscape
  | classRange
  | classRangeLiteral
  | classUnclosed
  | decimalInvalid
  | hexEmpty
  | hexInvalid
  | hexDigit
  | escapeIncomplete
  | escapeUnknown
  | flagDangling
  | flagDuplicate
  | flagNegationTwice
  | flagIncomplete
  | flagUnknown
  | nameDuplicate
  | nameEmpty
  | nameInvalid
  | nameIncomplete
  | groupUnclosed
  | groupUnopened
  | countRange
  | countEmpty
  | countUnclosed
  | repetitionMissing
  | boundaryUnclosed
  | boundaryUnknown
  | boundaryIncomplete
  | propertyInvalid
  | backreference
  | lookAround
  | unicodeNotAllowed
  | invalidBytes
  | propertyNotFound
  | propertyValueNotFound
  | nestLimitExceeded
  deriving DecidableEq, Repr

/-- How deep the parts of a pattern may be nested. -/
def nestLimit : Nat := 250

def FaultKind.message : FaultKind → String
  | .classEscape => "invalid escape sequence found in character class"
  | .classRange => "invalid character class range, the start must be <= the end"
  | .classRangeLiteral => "invalid range boundary, must be a literal"
  | .classUnclosed => "unclosed character class"
  | .decimalInvalid => "decimal literal invalid"
  | .hexEmpty => "hexadecimal literal empty"
  | .hexInvalid => "hexadecimal literal is not a Unicode scalar value"
  | .hexDigit => "invalid hexadecimal digit"
  | .escapeIncomplete => "incomplete escape sequence, reached end of pattern prematurely"
  | .escapeUnknown => "unrecognized escape sequence"
  | .flagDangling => "dangling flag negation operator"
  | .flagDuplicate => "duplicate flag"
  | .flagNegationTwice => "flag negation operator repeated"
  | .flagIncomplete => "expected flag but got end of regex"
  | .flagUnknown => "unrecognized flag"
  | .nameDuplicate => "duplicate capture group name"
  | .nameEmpty => "empty capture group name"
  | .nameInvalid => "invalid capture group character"
  | .nameIncomplete => "unclosed capture group name"
  | .groupUnclosed => "unclosed group"
  | .groupUnopened => "unopened group"
  | .countRange => "invalid repetition count range, the start must be <= the end"
  | .countEmpty => "repetition quantifier expects a valid decimal"
  | .countUnclosed => "unclosed counted repetition"
  | .repetitionMissing => "repetition operator missing expression"
  | .boundaryUnclosed =>
    "special word boundary assertion is either unclosed or contains an invalid character"
  | .boundaryUnknown =>
    "unrecognized special word boundary assertion, valid choices are: start, end, start-half " ++
      "or end-half"
  | .boundaryIncomplete =>
    "found either the beginning of a special word boundary or a bounded repetition on a \\b " ++
      "with an opening brace, but no closing brace"
  | .propertyInvalid => "invalid Unicode character class"
  | .backreference => "backreferences are not supported"
  | .lookAround => "look-around, including look-ahead and look-behind, is not supported"
  | .unicodeNotAllowed => "Unicode not allowed here"
  | .invalidBytes => "pattern can match invalid UTF-8"
  | .propertyNotFound => "Unicode property not found"
  | .propertyValueNotFound => "Unicode property value not found"
  | .nestLimitExceeded =>
    s!"exceed the maximum number of nested parentheses/brackets ({nestLimit})"

/-- A fault at a stretch of the pattern, with another stretch that bears on it. -/
structure Fault where
  kind : FaultKind
  span : Span
  other : Option Span := none
  deriving DecidableEq, Repr

/-- Why a pattern is refused: it has a fault, or it is too large. -/
inductive Refusal where
  | fault (f : Fault)
  | tooLarge
  deriving DecidableEq, Repr

/-- A place by its line and column, both counted from 1. -/
structure Place where
  line : Nat
  column : Nat

def placeAt (pattern : List Char) (offset : Nat) : Place :=
  (pattern.take offset).foldl
    (fun p c => if c == '\n' then ⟨p.line + 1, 1⟩ else ⟨p.line, p.column + 1⟩) ⟨1, 1⟩

/-- The lines of a pattern; a line end at its end begins no further line. -/
def patternLines (pattern : List Char) : List (List Char) :=
  let parts := Text.pieces '\n' pattern
  let parts := if parts.getLast? == some [] then parts.dropLast else parts
  parts.map fun line => if line.getLast? == some '\r' then line.dropLast else line

/-- The carets under the stretches of one line, each by its first column and the column after it. -/
def carets (pos : Nat) : List (Nat × Nat) → String
  | [] => ""
  | (start, stop) :: rest =>
    let blanks := start - 1 - pos
    let marks := max 1 (stop - start)
    String.ofList (List.replicate blanks ' ' ++ List.replicate marks '^') ++
      carets (pos + blanks + marks) rest

/-- The pattern with the stretches of a fault marked. A pattern of several lines has its lines
numbered, and stretches over several lines are told in words. -/
def Fault.marked (pattern : String) (f : Fault) : String :=
  let cs := pattern.toList
  let lines := patternLines cs
  let count := lines.length + (if cs.getLast? == some '\n' then 1 else 0)
  let width := if count ≤ 1 then 0 else (toString count).length
  let spans := (f.span :: f.other.toList).map fun s => (placeAt cs s.start, placeAt cs s.stop)
  let onLine := fun n => ((spans.filter fun (a, b) => a.line == n && b.line == n).map
    fun (a, b) => (a.column, b.column)).mergeSort fun a b => a.1 < b.1 || (a.1 == b.1 && a.2 ≤ b.2)
  let margin := fun n =>
    if width == 0 then "    "
    else String.ofList (List.replicate (width - (toString n).length) ' ') ++ toString n ++ ": "
  let indent := String.ofList (List.replicate (if width == 0 then 4 else width + 2) ' ')
  let shown := lines.zipIdx.map fun (line, i) =>
    let marks := onLine (i + 1)
    margin (i + 1) ++ String.ofList line ++ "\n" ++
      (if marks.isEmpty then "" else indent ++ carets 0 marks ++ "\n")
  let long := (spans.filter fun (a, b) => a.line != b.line).map fun (a, b) =>
    let last := b.column - 1
    s!"on line {a.line} (column {a.column}) through line {b.line} (column {last})"
  let body := String.join shown
  if cs.contains '\n' then
    let divider := String.ofList (List.replicate 79 '~') ++ "\n"
    let notes := if long.isEmpty then "" else "\n".intercalate long ++ "\n"
    divider ++ body ++ divider ++ notes
  else body

/-- The number of bytes that an expression may take. -/
def sizeLimit : Nat := 10485760

def Refusal.message (pattern : String) : Refusal → String
  | .fault f =>
    let body := f.marked pattern
    let what := f.kind.message
    s!"regex parse error:\n{body}error: {what}"
  | .tooLarge => s!"Compiled regex exceeds size limit of {sizeLimit} bytes."

end LayerLint.Regex
