import LayerLint.Json.Basic
import LayerLint.Report

/-! The two forms in which a report is shown: lines of text, and a JSON document. -/

namespace LayerLint

/-- How a piece of text is shown on a terminal. -/
inductive Style where
  | red
  | green
  | yellow
  | cyan
  | boldRed
  | boldYellow
  | boldCyan
  deriving DecidableEq, Repr

namespace Style

def code : Style → String
  | .red => "31"
  | .green => "32"
  | .yellow => "33"
  | .cyan => "36"
  | .boldRed => "1;31"
  | .boldYellow => "1;33"
  | .boldCyan => "1;36"

/-- A text in a style, or plain where colors are off. -/
def paint (style : Style) (color : Bool) (text : String) : String :=
  if color then "\x1b[" ++ style.code ++ "m" ++ text ++ "\x1b[0m" else text

end Style

def counted (n : Nat) (word : String) : String :=
  if n == 1 then s!"{n} {word}" else s!"{n} {word}s"

def successMark : String := "✓"

def failureMark : String := "✘"

def successLine (color : Bool) (message : String) : String :=
  Style.green.paint color successMark ++ " " ++ Style.green.paint color message ++ "\n"

def Severity.style : Severity → Style
  | .error => .boldRed
  | .warning => .boldYellow
  | .info => .boldCyan

def Violation.textLine (color : Bool) (v : Violation) : String :=
  let tag := v.severity.style.paint color v.severity.name
  let rule := v.rule.id
  s!"{v.file}:{v.line}: [{tag}] {rule} — {v.message}\n"

/-- A text filled up with blanks to a width. -/
def padded (width : Nat) (text : String) : String :=
  text ++ String.ofList (List.replicate (width - text.length) ' ')

namespace Report

/-- What follows the violations: totals, the broken rules and the score. -/
def summaryText (color : Bool) (r : Report) : String :=
  let mark := Style.red.paint color failureMark
  let all := counted r.violations.length "violation"
  let files := counted r.filesWithViolations "file"
  let errors := Style.red.paint color (counted (r.countOfSeverity .error) "error")
  let warnings := Style.yellow.paint color (counted (r.countOfSeverity .warning) "warning")
  let infoCount := r.countOfSeverity .info
  let infos := Style.cyan.paint color s!"{infoCount} info"
  let width := ((r.summary.map (·.1.id.length)).max?).getD 0
  let rules := r.summary.map fun (rule, n) =>
    let name := padded width rule.id
    s!"  {name}  {n}\n"
  let score := r.score
  let scanned := counted r.filesScanned "file"
  s!"\n{mark} {all} in {files} ({errors}, {warnings}, {infos})\n" ++ String.join rules ++
    s!"Compliance score: {score}/100 ({scanned} scanned)\n"

/-- The report as text: a line for each violation, a blank line and the summary. -/
def text (color : Bool) (r : Report) : String :=
  if r.isEmpty then
    successLine color s!"Scanned {r.filesScanned} file(s) - no violations found"
  else String.join (r.violations.map (·.textLine color)) ++ summaryText color r

def violationValue (v : Violation) : Json.Value :=
  .object [("file", .string v.file), ("line", .number v.line), ("ruleId", .string v.rule.id),
    ("severity", .string v.severity.name), ("message", .string v.message)]

def value (r : Report) : Json.Value :=
  .object [
    ("violations", .array (r.violations.map violationValue)),
    ("summary", .object (r.summary.map fun (rule, n) => (rule.id, .number n)))]

/-- The report as a document, with a line end after it. -/
def json (r : Report) : String :=
  r.value.text ++ "\n"

end Report

end LayerLint
