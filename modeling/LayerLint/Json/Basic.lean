/-! Documents of names, numbers and texts, and how they are written. -/

namespace LayerLint.Json

/-- A document of the kinds that are written here: every number is natural. -/
inductive Value where
  | number (n : Nat)
  | string (s : String)
  | array (items : List Value)
  | object (members : List (String × Value))

def Value.strings (items : List String) : Value :=
  .array (items.map .string)

def hexDigit (n : Nat) : Char :=
  Char.ofNat (if n < 10 then 48 + n else 87 + n)

/-- How one character of a text is written: quotes, backslashes and control characters are
escaped, all others stand for themselves. -/
def escape (c : Char) : List Char :=
  match c with
  | '"' => ['\\', '"']
  | '\\' => ['\\', '\\']
  | '\n' => ['\\', 'n']
  | '\t' => ['\\', 't']
  | '\r' => ['\\', 'r']
  | '\x08' => ['\\', 'b']
  | '\x0c' => ['\\', 'f']
  | c =>
    if c.toNat < 32 then ['\\', 'u', '0', '0', hexDigit (c.toNat / 16), hexDigit (c.toNat % 16)]
    else [c]

def quoted (s : String) : List Char :=
  '"' :: (s.toList.flatMap escape ++ ['"'])

/-- A line end and the blanks that a line begins with. -/
def newLine (depth : Nat) : List Char :=
  '\n' :: List.replicate (2 * depth) ' '

mutual

/-- A document with one item on a line, indented by two blanks a level. -/
def write (depth : Nat) : Value → List Char
  | .number n => (toString n).toList
  | .string s => quoted s
  | .array [] => ['[', ']']
  | .array (v :: vs) =>
    '[' :: (newLine (depth + 1) ++ write (depth + 1) v ++ writeItems (depth + 1) vs ++
      newLine depth ++ [']'])
  | .object [] => ['\x7b', '\x7d']
  | .object ((k, v) :: ms) =>
    '\x7b' :: (newLine (depth + 1) ++ writeMember (depth + 1) k v ++
      writeMembers (depth + 1) ms ++ newLine depth ++ ['\x7d'])

def writeItems (depth : Nat) : List Value → List Char
  | [] => []
  | v :: vs => ',' :: (newLine depth ++ write depth v ++ writeItems depth vs)

def writeMember (depth : Nat) (key : String) (v : Value) : List Char :=
  quoted key ++ ':' :: ' ' :: write depth v

def writeMembers (depth : Nat) : List (String × Value) → List Char
  | [] => []
  | (k, v) :: ms => ',' :: (newLine depth ++ writeMember depth k v ++ writeMembers depth ms)

end

def Value.text (v : Value) : String :=
  String.ofList (write 0 v)

end LayerLint.Json
