/-! What a run tells about itself while it works. -/

namespace LayerLint

/-- How much a message matters, the gravest first. -/
inductive Level where
  | error
  | warn
  | info
  | debug
  | trace
  deriving DecidableEq, Repr

namespace Level

def name : Level → String
  | .error => "ERROR"
  | .warn => "WARN"
  | .info => "INFO"
  | .debug => "DEBUG"
  | .trace => "TRACE"

/-- Levels with a smaller number are graver. -/
def rank : Level → Nat
  | .error => 1
  | .warn => 2
  | .info => 3
  | .debug => 4
  | .trace => 5

end Level

/-- A message from a part of the program, with named values. -/
structure Event where
  level : Level
  target : String
  message : String
  fields : List (String × String) := []
  deriving DecidableEq, Repr

def Event.line (e : Event) : String :=
  e.level.name ++ " " ++ e.target ++ ": " ++ e.message ++
    String.join (e.fields.map fun (name, value) => " " ++ name ++ "=" ++ value)

end LayerLint
