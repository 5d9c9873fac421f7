import LayerLint.Text.Letter
import LayerLint.Text.LetterCase

/-! The words of an identifier. -/

namespace LayerLint.Text

/-- Whether a word ends between two letters: before a capital after a small letter, and before the
last capital of several when a small letter follows, as in `HTTPRequest`. -/
def breaksBetween (left right : Char) (next : Option Char) : Bool :=
  (isLowercase left && isUppercase right) ||
    (isUppercase left && isUppercase right && next.any isLowercase)

/-- The words of a text after the letters of a word that has begun, held in reverse. -/
def wordsAfter : List Char → List Char → List (List Char)
  | [], [] => []
  | w :: ws, [] => [(w :: ws).reverse]
  | [], c :: cs => if isAlphabetic c then wordsAfter [c] cs else wordsAfter [] cs
  | w :: ws, c :: cs =>
    if !isAlphabetic c then (w :: ws).reverse :: wordsAfter [] cs
    else if breaksBetween w c cs.head? then (w :: ws).reverse :: wordsAfter [c] cs
    else wordsAfter (c :: w :: ws) cs

/-- The words of an identifier: the runs of letters, divided further by their case. -/
def words (name : String) : List String :=
  (wordsAfter [] name.toList).map String.ofList

/-- A name without a leading `test`, in any case, that is a word of its own. -/
def withoutTestWord (name : String) : String :=
  let cs := name.toList
  if lowerAscii (String.ofList (cs.take 4)) == "test" then
    match cs.drop 4 with
    | [] => ""
    | c :: rest => if isLowercase c then name else String.ofList ((c :: rest).dropWhile (· == '_'))
  else name

/-- The number of words in a test's name besides a leading `test`. -/
def descriptiveWords (name : String) : Nat :=
  (words (withoutTestWord name)).length

end LayerLint.Text
