import LayerLint.Log
import LayerLint.Text.Blank
import LayerLint.Text.Letter
import LayerLint.Text.LetterCase
import LayerLint.Text.Wildcard
import LayerLint.Text.WordChar

/-! Filters on events: which levels are told of which parts of the program. -/

namespace LayerLint

/-- What a filter says of the targets that start with a text: events up to a rank are told. -/
structure Directive where
  target : String
  rank : Nat
  deriving DecidableEq, Repr

abbrev Filter := List Directive

namespace Directive

/-- The rank of a level by its name or number. No text at all stands for errors. -/
def rankOf? (text : String) : Option Nat :=
  match Text.lowerAscii text with
  | "off" | "0" => some 0
  | "" | "error" | "1" => some 1
  | "warn" | "2" => some 2
  | "info" | "3" => some 3
  | "debug" | "4" => some 4
  | "trace" | "5" => some 5
  | _ => none

def startsTarget (c : Char) : Bool :=
  c == '-' || c == ':' || c == '_' || Text.isAlphabetic c || Text.isDecimalDigit c

/-- The directive of a text: a level, a target, or both with `=` between them. -/
def ofText? (text : String) : Option Directive :=
  let cs := text.toList
  if !cs.head?.any startsTarget then none
  else
    match cs.dropWhile (· != '=') with
    | _ :: level =>
      (rankOf? (String.ofList level)).map (⟨String.ofList (cs.takeWhile (· != '=')), ·⟩)
    | [] =>
      match rankOf? text with
      | some rank => some ⟨"", rank⟩
      | none => some ⟨text, Level.trace.rank⟩

end Directive

namespace Filter

def errors : Filter := [⟨"", Level.error.rank⟩]

/-- The filter of directives with commas between them; none if one of them is not well formed. -/
def ofText? (text : String) : Option Filter :=
  let parts := ((Text.pieces ',' text.toList).map String.ofList).filter (· != "")
  (parts.mapM fun part => Directive.ofText? (Text.trimmed part)).map fun directives =>
    if directives.isEmpty then errors else directives

/-- The directive that holds for a target: of those whose target it starts with, one of the longest,
and of these the last. -/
def holding? (f : Filter) (target : String) : Option Directive :=
  (f.filter fun d => d.target.isPrefixOf target).foldl (fun best d =>
    match best with
    | some b => if b.target.utf8ByteSize ≤ d.target.utf8ByteSize then some d else some b
    | none => some d) none

def allows (f : Filter) (e : Event) : Bool :=
  match f.holding? e.target with
  | some d => e.level.rank ≤ d.rank
  | none => false

end Filter

end LayerLint
