import LayerLint.Text.Blank
import LayerLint.Text.LetterCase

/-! The rules by their ids, and how grave their violations are. -/

namespace LayerLint

inductive Severity where
  | error
  | warning
  | info
  deriving DecidableEq, Repr

namespace Severity

def name : Severity → String
  | .error => "error"
  | .warning => "warning"
  | .info => "info"

/-- What one violation takes off the compliance score. -/
def penalty : Severity → UInt32
  | .error => 10
  | .warning => 5
  | .info => 1

end Severity

/-- The rules, declared in the order of their ids. -/
inductive RuleId where
  | adaptationInDefinition
  | assertionInPom
  | businessLogicInPom
  | forbiddenImport
  | hardcodedTestData
  | longTestFunction
  | missingLayerStructure
  | parseError
  | poorTestNaming
  deriving DecidableEq, Repr

namespace RuleId

/-- All rules, in the order of their ids. -/
def all : List RuleId :=
  [.adaptationInDefinition, .assertionInPom, .businessLogicInPom, .forbiddenImport,
    .hardcodedTestData, .longTestFunction, .missingLayerStructure, .parseError, .poorTestNaming]

def id : RuleId → String
  | .adaptationInDefinition => "ADAPTATION_IN_DEFINITION"
  | .assertionInPom => "ASSERTION_IN_POM"
  | .businessLogicInPom => "BUSINESS_LOGIC_IN_POM"
  | .forbiddenImport => "FORBIDDEN_IMPORT"
  | .hardcodedTestData => "HARDCODED_TEST_DATA"
  | .longTestFunction => "LONG_TEST_FUNCTION"
  | .missingLayerStructure => "MISSING_LAYER_STRUCTURE"
  | .parseError => "PARSE_ERROR"
  | .poorTestNaming => "POOR_TEST_NAMING"

def severity : RuleId → Severity
  | .forbiddenImport | .assertionInPom | .missingLayerStructure | .parseError => .error
  | .adaptationInDefinition | .businessLogicInPom | .hardcodedTestData | .longTestFunction =>
    .warning
  | .poorTestNaming => .info

/-- The rules that run unless settings say otherwise. -/
def catalog : List RuleId :=
  [.forbiddenImport, .assertionInPom, .adaptationInDefinition, .hardcodedTestData,
    .poorTestNaming, .longTestFunction]

/-- The rules that run only when they are asked for. -/
def optIn : List RuleId :=
  [.businessLogicInPom, .missingLayerStructure]

/-- The rules that can be chosen, in the order in which they run. -/
def selectable : List RuleId :=
  catalog ++ optIn

/-- The rule of a text such as `FORBIDDEN_IMPORT` or ` forbidden-import `. -/
def ofString? (text : String) : Option RuleId :=
  let id := (Text.upperAscii (Text.trimmed text)).map fun c => if c == '-' then '_' else c
  (selectable ++ [RuleId.parseError]).find? (·.id == id)

/-- What is said of a text that is no rule's. -/
def unknownMessage (text : String) : String :=
  let ids := ", ".intercalate (selectable.map id)
  s!"unknown rule id '{text}' (expected one of: {ids})"

end RuleId

end LayerLint
