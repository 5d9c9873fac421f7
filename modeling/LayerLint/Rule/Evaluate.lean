import LayerLint.Path
import LayerLint.Rule.Sites
import LayerLint.Violation

/-! Layers of classes and the violations of the rules on classes. -/

namespace LayerLint

namespace Policy

/-- Whether a directory on the way to a file has one of the names, case aside. -/
def liesUnder (path : String) (names : List String) : Bool :=
  (Path.directories path).any fun dir => names.contains (Text.lower dir)

/-- The layer of a class of a file, and why. The path is the one from the root of the scan. -/
def classify (p : Policy) (path : String) (c : ClassModel) : Layer × Reason :=
  if liesUnder path p.pageDirs then (.pageObject, .pagesDirectory)
  else if c.methods.any p.isTest then
    if liesUnder path p.testDirs then (.testDefinition, .testsDirectoryAnnotated)
    else (.testDefinition, .annotated)
  else (.unclassified, .noSignal)

def layerOf (p : Policy) (path : String) (c : ClassModel) : Layer :=
  (p.classify path c).1

end Policy

/-- The violations of a rule in a class of a file: none if the class is not in the rule's layer, and
at most one on a line. -/
def RuleId.evaluate (p : Policy) (file : String) (layer : Layer) (c : ClassModel) (rule : RuleId) :
    List Violation :=
  if rule.layer? = some layer then
    (firstOnEachLine (rule.sites p c)).map fun s => ⟨file, s.line, rule, s.message⟩
  else []

/-- What an evaluation contributes: nothing if it has broken down, so that the others still
count. -/
def isolated (evaluation : Option (List Violation)) : List Violation :=
  evaluation.getD []

/-- The violations of all rules on classes in a class, each rule evaluated on its own. -/
def Policy.violationsOf (p : Policy) (path : String) (c : ClassModel) : List Violation :=
  p.classRules.flatMap fun rule => isolated (some (rule.evaluate p path (p.layerOf path c) c))

end LayerLint
