import LayerLint.Rule.Id

/-! The layers of test automation code. -/

namespace LayerLint

/-- The layer of a class: page objects know how to drive the application, test definitions say what
is verified. -/
inductive Layer where
  | pageObject
  | testDefinition
  | unclassified
  deriving DecidableEq, Repr

def Layer.name : Layer → String
  | .pageObject => "page-object"
  | .testDefinition => "test-definition"
  | .unclassified => "unclassified"

/-- What decided on a class's layer. -/
inductive Reason where
  | pagesDirectory
  | testsDirectoryAnnotated
  | annotated
  | noSignal
  deriving DecidableEq, Repr

def Reason.name : Reason → String
  | .pagesDirectory => "PagesDirectory"
  | .testsDirectoryAnnotated => "TestsDirectoryAnnotated"
  | .annotated => "Annotated"
  | .noSignal => "NoSignal"

/-- The layer whose classes a rule looks at. The rules on whole files and projects have none. -/
def RuleId.layer? : RuleId → Option Layer
  | .forbiddenImport | .assertionInPom | .businessLogicInPom => some .pageObject
  | .adaptationInDefinition | .hardcodedTestData | .poorTestNaming | .longTestFunction =>
    some .testDefinition
  | .missingLayerStructure | .parseError => none

end LayerLint
