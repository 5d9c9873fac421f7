import LayerLint.Text.Quoted

/-! What is wrong with a document that is read. -/

namespace LayerLint.Json

/-- What was found where something else was expected. -/
inductive Found where
  | null
  | bool (b : Bool)
  | natural (n : Nat)
  | negative (n : Nat)
  | float (text : String)
  | string (s : String)
  | sequence
  | map
  deriving DecidableEq, Repr

def Found.message : Found → String
  | .null => "null"
  | .bool b => s!"boolean `{b}`"
  | .natural n => s!"integer `{n}`"
  | .negative n => s!"integer `-{n}`"
  | .float text => s!"floating point `{text}`"
  | .string s => "string " ++ Text.inQuotes s
  | .sequence => "sequence"
  | .map => "map"

inductive FaultKind where
  | endInValue
  | endInObject
  | endInList
  | endInString
  | expectedValue
  | expectedIdent
  | expectedColon
  | expectedObjectEnd
  | expectedListEnd
  | keyNotString
  | trailingComma
  | trailingCharacters
  | invalidNumber
  | numberOutOfRange
  | invalidEscape
  | endOfHexEscape
  | loneSurrogate
  | controlCharacter
  | duplicateField (name : String)
  | invalidType (found : Found) (expected : String)
  | invalidValue (found : Found) (expected : String)
  | refused (message : String)
  deriving DecidableEq, Repr

def FaultKind.message : FaultKind → String
  | .endInValue => "EOF while parsing a value"
  | .endInObject => "EOF while parsing an object"
  | .endInList => "EOF while parsing a list"
  | .endInString => "EOF while parsing a string"
  | .expectedValue => "expected value"
  | .expectedIdent => "expected ident"
  | .expectedColon => "expected `:`"
  | .expectedObjectEnd => "expected `,` or `\x7d`"
  | .expectedListEnd => "expected `,` or `]`"
  | .keyNotString => "key must be a string"
  | .trailingComma => "trailing comma"
  | .trailingCharacters => "trailing characters"
  | .invalidNumber => "invalid number"
  | .numberOutOfRange => "number out of range"
  | .invalidEscape => "invalid escape"
  | .endOfHexEscape => "unexpected end of hex escape"
  | .loneSurrogate => "lone leading surrogate in hex escape"
  | .controlCharacter => "control character (\\u0000-\\u001F) found while parsing a string"
  | .duplicateField name => s!"duplicate field `{name}`"
  | .invalidType found expected => "invalid type: " ++ found.message ++ ", expected " ++ expected
  | .invalidValue found expected => "invalid value: " ++ found.message ++ ", expected " ++ expected
  | .refused message => message

/-- A place in a text: its line, counted from 1, and the bytes before it on that line. -/
structure Mark where
  line : Nat := 1
  column : Nat := 0
  deriving DecidableEq, Repr

/-- The place after a character. -/
def Mark.next (m : Mark) (c : Char) : Mark :=
  if c == '\n' then ⟨m.line + 1, 0⟩ else ⟨m.line, m.column + c.utf8Size⟩

/-- The place after the first byte of a character. -/
def Mark.into (m : Mark) (c : Char) : Mark :=
  if c == '\n' then ⟨m.line + 1, 0⟩ else ⟨m.line, m.column + 1⟩

structure Fault where
  kind : FaultKind
  mark : Mark
  deriving DecidableEq, Repr

def Fault.message (f : Fault) : String :=
  let what := f.kind.message
  s!"{what} at line {f.mark.line} column {f.mark.column}"

end LayerLint.Json
