import LayerLint.Violation

/-! The report of a scan: all violations in order, each place once, and what they add up to. -/

namespace LayerLint

/-- The overall judgement of a scan. -/
inductive Status where
  | clean
  | findings
  | failing
  deriving DecidableEq, Repr

structure Report where
  violations : List Violation
  filesScanned : Nat
  deriving DecidableEq, Repr

/-- Of violations in order, the first at each place. -/
def firstAtEachPlace : List Violation → List Violation
  | [] => []
  | [v] => [v]
  | v :: w :: vs =>
    if v.samePlace w then firstAtEachPlace (v :: vs) else v :: firstAtEachPlace (w :: vs)
termination_by vs => vs.length

/-- The number of runs of violations in one file, after one of a file that is counted already. -/
def countFileRuns : Option String → List Violation → Nat
  | _, [] => 0
  | last, v :: vs => (if last == some v.file then 0 else 1) + countFileRuns (some v.file) vs

/-- Violations as a report shows them: in order, and of those at one place the first. -/
def canonical (vs : List Violation) : List Violation :=
  firstAtEachPlace (vs.mergeSort Violation.le)

/-- Counts with one more for a rule. The rules stand in the order in which they are declared. -/
def countOneMore (rule : RuleId) : List (RuleId × Nat) → List (RuleId × Nat)
  | [] => [(rule, 1)]
  | (next, n) :: rest =>
    if rule = next then (next, n + 1) :: rest
    else if rule.ctorIdx < next.ctorIdx then (rule, 1) :: (next, n) :: rest
    else (next, n) :: countOneMore rule rest

namespace Report

/-- The report on the violations found file by file. -/
def ofResults (results : List (String × List Violation)) (filesScanned : Nat) : Report :=
  { violations := canonical (results.flatMap (·.2))
    filesScanned }

def isEmpty (r : Report) : Bool :=
  r.violations.isEmpty

def countOfRule (r : Report) (rule : RuleId) : Nat :=
  r.violations.countP (·.rule == rule)

def countOfSeverity (r : Report) (severity : Severity) : Nat :=
  r.violations.countP (·.severity == severity)

/-- The rules that are broken and how often, counted up violation by violation. -/
def summary (r : Report) : List (RuleId × Nat) :=
  r.violations.foldl (fun counts v => countOneMore v.rule counts) []

def filesWithViolations (r : Report) : Nat :=
  countFileRuns none r.violations

/-- What the violations take off the score, in 32 bits. -/
def penalty (r : Report) : UInt32 :=
  r.violations.foldr (fun v total => v.severity.penalty + total) 0

/-- The compliance score, from 0 to 100. -/
def score (r : Report) : Nat :=
  100 - r.penalty.toNat

def status (r : Report) : Status :=
  if 0 < r.countOfSeverity .error then .failing
  else if r.violations.isEmpty then .clean
  else .findings

end Report

end LayerLint
