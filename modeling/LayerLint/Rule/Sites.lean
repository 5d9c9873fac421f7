import LayerLint.Policy
import LayerLint.Text.Words

/-! The places in a class where a rule is broken. -/

namespace LayerLint

/-- A line and what to say about it. -/
structure Site where
  line : Nat
  message : String
  deriving DecidableEq, Repr

namespace Policy

/-- Whether a call is an assertion: one with a receiver by its receiver, any other by its callee. -/
def isAssertion (p : Policy) (c : Call) : Bool :=
  if c.receiver.isEmpty then p.assertionCallees.any (·.matchesName c.callee)
  else p.assertionReceivers.any (·.matchesCall c.receiver c.callee)

/-- Whether a call drives the application directly. -/
def drivesDirectly (p : Policy) (c : Call) : Bool :=
  p.driverReceivers.any (·.matchesCall c.receiver c.callee) &&
    !p.exemptReceivers.any (·.matchesCall c.receiver c.callee)

def inTestFramework (p : Policy) (name : String) : Bool :=
  p.testFrameworkImports.any (liesInNamespace name)

/-- Shorter texts are not looked at. -/
def minLiteralLength : Nat := 5

/-- Whether a literal looks like data that should not stand in a test. -/
def isSensitive (p : Policy) (l : Literal) : Bool :=
  l.kind == .string && minLiteralLength ≤ l.value.length && p.sensitiveData.any (·.fits l.value)

/-- Whether a test's name says too little. -/
def isPoorName (p : Policy) (name : String) : Bool :=
  p.genericTestNames.any (·.fits name) || Text.descriptiveWords name < p.namingMinWords

end Policy

namespace RuleId

def callName (c : Call) : String :=
  if c.receiver.isEmpty then c.callee else c.receiver ++ "." ++ c.callee

/-- The sites at which a class breaks a rule, in the order of the class. -/
def sites (p : Policy) (c : ClassModel) : RuleId → List Site
  | .forbiddenImport =>
    (c.imports.filter fun i => p.inTestFramework i.name).map fun i =>
      ⟨i.line, s!"Page Object imports test framework '{i.name}'; test frameworks belong in " ++
        "the test definition layer"⟩
  | .assertionInPom =>
    c.methods.flatMap fun m => (m.calls.filter p.isAssertion).map fun call =>
      let target := callName call
      ⟨call.line, s!"Page Object method '{m.name}' calls assertion '{target}'; return the value " ++
        "and let the test verify it"⟩
  | .businessLogicInPom =>
    c.methods.flatMap fun m => m.branches.map fun b =>
      ⟨b.line, s!"Page Object method '{m.name}' contains {b.construct}; move the logic to a " ++
        "separate service layer"⟩
  | .adaptationInDefinition =>
    (c.methods.filter p.isTest).flatMap fun m => (m.calls.filter p.drivesDirectly).map fun call =>
      ⟨call.line, s!"Test method '{m.name}' calls '{call.receiver}.{call.callee}' directly; " ++
        "drive the application through a Page Object"⟩
  | .hardcodedTestData =>
    (c.methods.filter p.isTest).flatMap fun m => (m.literals.filter p.isSensitive).map fun l =>
      ⟨l.line, s!"Hardcoded test data '{l.value}' passed to '{l.callee}'; move test data out of " ++
        "the test definition"⟩
  | .poorTestNaming =>
    (c.methods.filter fun m => p.isTest m && p.isPoorName m.name).map fun m =>
      ⟨m.firstLine, s!"Test name '{m.name}' is not descriptive; name the behavior being verified"⟩
  | .longTestFunction =>
    (c.methods.filter fun m => p.isTest m && p.maxMethodLines < m.bodyLines).map fun m =>
      ⟨m.firstLine, s!"Test method '{m.name}' has {m.bodyLines} lines (limit: " ++
        s!"{p.maxMethodLines}); long tests are hard to read and maintain"⟩
  | .missingLayerStructure | .parseError => []

end RuleId

def firstOnEachLine : List Site → List Site
  | [] => []
  | s :: ss => s :: (firstOnEachLine ss).filter (·.line != s.line)

end LayerLint
