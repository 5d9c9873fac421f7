import LayerLint.Rule.Id

/-! Violations: which rule is broken, where, and what to say about it. -/

namespace LayerLint

structure Violation where
  file : String
  line : Nat
  rule : RuleId
  message : String
  deriving DecidableEq, Repr

namespace Violation

def severity (v : Violation) : Severity :=
  v.rule.severity

/-- Violations are in order by file, then line, then rule as declared. -/
def le (v w : Violation) : Bool :=
  v.file < w.file ||
    (v.file == w.file &&
      (v.line < w.line || (v.line == w.line && v.rule.ctorIdx ≤ w.rule.ctorIdx)))

/-- Whether two violations report the same rule at the same place. -/
def samePlace (v w : Violation) : Bool :=
  v.file == w.file && v.line == w.line && v.rule == w.rule

end Violation

end LayerLint
