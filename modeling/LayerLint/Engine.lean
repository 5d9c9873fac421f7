import LayerLint.CSharp.Grammar
import LayerLint.Dialect
import LayerLint.Glob
import LayerLint.Java.Grammar
import LayerLint.Regex.Compile
import LayerLint.Syntax.Repair

/-! What a scan takes as given: the parsers of the languages and the readers of globs and regular
expressions. The rest of the linter knows nothing else of them, so that what is said of scans holds
for any other parser and matcher too. -/

namespace LayerLint

open Syntax

/-- A pattern that has been read. -/
structure Matcher where
  pattern : String
  fits : String → Bool

/-- A parser, and for globs and regular expressions what is wrong with a pattern or which texts it
fits. -/
class Engine where
  parse : Dialect → Source → Tree
  glob : String → Except Glob.Fault (String → Bool)
  regex : String → Except Regex.Refusal (String → Bool)

def Dialect.parse : Dialect → Source → Tree
  | .java => Syntax.parse Java.grammar
  | .csharp => Syntax.parse CSharp.grammar

/-- The engine of the program. -/
instance : Engine where
  parse := Dialect.parse
  glob pattern := (Glob.ofPattern pattern).map Glob.matchesPath
  regex pattern := (Regex.ofPattern pattern).map Regex.isMatch

end LayerLint
