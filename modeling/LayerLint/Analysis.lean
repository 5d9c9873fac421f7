import LayerLint.Discovery
import LayerLint.Extract
import LayerLint.Rule.Evaluate
import LayerLint.Text.Quoted
import LayerLint.Text.Utf8

/-! The analysis of one file. What cannot be read or parsed is a violation of its own; only a string
literal whose content cannot be cut out breaks the analysis off. -/

namespace LayerLint

/-- What looking at one file gave. -/
inductive Analysis where
  | oversized (bytes : Nat)
  | failed (failure : ParseFailure)
  | models (classes : List ClassModel)
  | aborted
  deriving DecidableEq, Repr

/-- What one file contributes to a report. -/
inductive Outcome where
  | analyzed (violations : List Violation)
  | skipped
  | aborted
  deriving DecidableEq, Repr

/-- The violation of a file that has no models. -/
def ParseFailure.violation (path : String) (f : ParseFailure) : Violation :=
  let reason := f.message
  ⟨path, f.line, .parseError, s!"could not analyze file: {reason}"⟩

namespace Policy

/-- The limits for one file. A time limit never expires here. -/
def budget (p : Policy) : Budget :=
  { maxNesting := p.maxNesting }

def analyzeText [Engine] (p : Policy) (dialect : Dialect) (text : String) : Analysis :=
  match extract dialect p.budget text with
  | .models classes => .models classes
  | .failed failure => .failed failure
  | .aborted => .aborted

def analyzeContent [Engine] (p : Policy) (dialect : Dialect) (content : ByteArray) : Analysis :=
  if p.maxFileBytes < content.size then .oversized content.size
  else p.analyzeText dialect (Text.textOfBytes content)

def analyze [Engine] (p : Policy) (f : SourceFile) : Analysis :=
  p.analyzeContent f.dialect f.content

end Policy

namespace Analysis

def outcome (p : Policy) (path : String) : Analysis → Outcome
  | .oversized _ => .skipped
  | .failed f => .analyzed [f.violation path]
  | .models classes => .analyzed (classes.flatMap (p.violationsOf path))
  | .aborted => .aborted

/-- What is told about the file at a path. -/
def events (p : Policy) (path : String) : Analysis → List Event
  | .oversized bytes =>
    [⟨.warn, "gtaa::core::analyzer", "skipping oversized file",
      [("file", path), ("bytes", toString bytes), ("limit", toString p.maxFileBytes)]⟩]
  | .failed f =>
    match f with
    | .unreadable _ => []
    | f => [⟨.debug, "gtaa::core::analyzer", "parse failure",
        [("file", path), ("failure", f.message)]⟩]
  | .models classes => classes.map fun c =>
    let (layer, reason) := p.classify path c
    ⟨.debug, "gtaa::core::classify", "classified",
      [("file", Text.inQuotes path), ("class", c.name), ("layer", layer.name),
        ("reason", reason.name)]⟩
  | .aborted => []

end Analysis

def FileTree.analyze [Engine] (t : FileTree) (p : Policy) (path : String) (dialect : Dialect) :
    Analysis :=
  match t.read path with
  | .ok content => p.analyzeContent dialect content
  | .error e => .failed (.unreadable e.message)

end LayerLint
