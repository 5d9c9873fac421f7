import LayerLint.Text.BinaryProperty
import LayerLint.Text.Blank
import LayerLint.Text.CaseVariant
import LayerLint.Text.Category
import LayerLint.Text.Letter
import LayerLint.Text.Script
import LayerLint.Text.WordChar

/-! Regular expressions as terms: sets of characters, conditions on places, and what is built of
them. -/

namespace LayerLint.Regex

/-- A property of characters that a pattern can name. -/
inductive Property where
  | any
  | ascii
  | alphabetic
  | lowercase
  | uppercase
  | cased
  | caseIgnorable
  | blank
  | wordChar
  | identifierStart
  | identifierPart
  | category (k : Text.Category)
  /-- A script, or a property that is a table of its own. -/
  | named (k : Text.NamedClass)

def Property.holds : Property → Char → Bool
  | .any, _ => true
  | .ascii, c => c.toNat < 128
  | .alphabetic, c => Text.isAlphabetic c
  | .lowercase, c => Text.isLowercase c
  | .uppercase, c => Text.isUppercase c
  | .cased, c => Text.isCased c
  | .caseIgnorable, c => Text.isCaseIgnorable c
  | .blank, c => Text.isBlank c
  | .wordChar, c => Text.isWordChar c
  | .identifierStart, c => Text.isIdentifierStart c
  | .identifierPart, c => Text.isIdentifierPart c
  | .category k, c => k.contains c
  | .named k, c => k.chars.contains c

inductive CharSet where
  | empty
  | range (first last : Char)
  | property (p : Property)
  | union (s t : CharSet)
  | inter (s t : CharSet)
  | diff (s t : CharSet)
  | complement (s : CharSet)
  /-- The characters equal up to case to one of the set. -/
  | folded (s : CharSet)

namespace CharSet

def contains : CharSet → Char → Bool
  | .empty, _ => false
  | .range first last, c => first ≤ c && c ≤ last
  | .property p, c => p.holds c
  | .union s t, c => s.contains c || t.contains c
  | .inter s t, c => s.contains c && t.contains c
  | .diff s t, c => s.contains c && !t.contains c
  | .complement s, c => !s.contains c
  | .folded s, c => (Text.caseVariants c).any s.contains

def single (c : Char) : CharSet :=
  .range c c

def ofRanges (ranges : List (Char × Char)) : CharSet :=
  ranges.foldr (fun r s => .union (.range r.1 r.2) s) .empty

/-- The characters in exactly one of two sets. -/
def symmetricDiff (s t : CharSet) : CharSet :=
  .union (.diff s t) (.diff t s)

end CharSet

/-- A condition on a place in a text. -/
inductive Look where
  | textStart
  | textEnd
  | lineStart
  | lineEnd
  /-- The line conditions where carriage returns end lines too. -/
  | crlfStart
  | crlfEnd
  | wordBoundary
  | notWordBoundary
  | wordStart
  | wordEnd
  | wordStartHalf
  | wordEndHalf
  deriving DecidableEq, Repr

/-- Whether a condition holds between two characters; `isWord` tells the characters of words. -/
def Look.holds (isWord : Char → Bool) (before after : Option Char) : Look → Bool
  | .textStart => before.isNone
  | .textEnd => after.isNone
  | .lineStart => before.isNone || before == some '\n'
  | .lineEnd => after.isNone || after == some '\n'
  | .crlfStart =>
    before.isNone || before == some '\n' || (before == some '\r' && after != some '\n')
  | .crlfEnd => after.isNone || after == some '\r' || (after == some '\n' && before != some '\r')
  | .wordBoundary => before.any isWord != after.any isWord
  | .notWordBoundary => before.any isWord == after.any isWord
  | .wordStart => !before.any isWord && after.any isWord
  | .wordEnd => before.any isWord && !after.any isWord
  | .wordStartHalf => !before.any isWord
  | .wordEndHalf => !after.any isWord

/-- A regular expression. A repetition without an upper bound goes on as long as it can. -/
inductive Node where
  | empty
  | one (set : CharSet)
  | look (unicode : Bool) (l : Look)
  | seq (nodes : List Node)
  | choice (nodes : List Node)
  | repeated (node : Node) (least : Nat) (most : Option Nat)

end LayerLint.Regex
