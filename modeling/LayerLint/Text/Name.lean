import LayerLint.Text.Blank

/-! Names and literals as they are written in sources. -/

namespace LayerLint.Text

/-- The part of a list after the last element that satisfies `p`, or the whole list. -/
def afterLast (p : Char → Bool) (cs : List Char) : List Char :=
  (cs.reverse.takeWhile (!p ·)).reverse

/-- The last segment of a qualified name, without type arguments: `java.util.List<String>` gives
`List`. -/
def simpleName (name : String) : String :=
  let base := trimmed (String.ofList (name.toList.takeWhile (· != '<')))
  trimmed (String.ofList (afterLast (· == '.') base.toList))

/-- The list without as many leading characters as make up `n` bytes of UTF-8; `none` if the cut
falls inside a character. -/
def dropBytes : Nat → List Char → Option (List Char)
  | 0, cs => some cs
  | _ + 1, [] => none
  | n + 1, c :: cs => if c.utf8Size ≤ n + 1 then dropBytes (n + 1 - c.utf8Size) cs else none

def byteLength (cs : List Char) : Nat :=
  cs.foldr (fun c total => c.utf8Size + total) 0

/-- The content of a string literal: the marks `@` and `$` in front are dropped, and as many bytes
at both ends as there are opening quotes. `none` if the cut at the end falls inside a character. -/
def unquote (text : String) : Option String :=
  let body := text.toList.dropWhile fun c => c == '@' || c == '$'
  let quotes := (body.takeWhile (· == '"')).length
  if quotes == 2 || byteLength body < quotes * 2 then some ""
  else (dropBytes quotes (body.drop quotes).reverse).map fun rest => String.ofList rest.reverse

end LayerLint.Text
