import LayerLint.Text.Name

/-! Patterns in which a star stands for any text, and texts made of pieces between separators.
Places in a text are offsets in bytes. -/

namespace LayerLint.Text

/-- The pieces of a text between the separators: there is one more piece than there are
separators. -/
def pieces (sep : Char) : List Char → List (List Char)
  | [] => [[]]
  | c :: cs =>
    if c == sep then [] :: pieces sep cs
    else
      match pieces sep cs with
      | [] => [[c]]
      | p :: ps => (c :: p) :: ps

/-- The stretch of a text between two offsets; `none` if they are out of order or out of range, or
if one of them falls inside a character. -/
def stretch? (text : List Char) (start stop : Nat) : Option (List Char) :=
  if start ≤ stop && stop ≤ byteLength text then do
    let rest ← dropBytes start text
    let back ← dropBytes (byteLength text - stop) rest.reverse
    pure back.reverse
  else none

/-- The number of bytes before the first occurrence of a piece. -/
def bytesBefore? (piece : List Char) : List Char → Option Nat
  | [] => if piece.isEmpty then some 0 else none
  | c :: cs =>
    if piece.isPrefixOf (c :: cs) then some 0
    else (bytesBefore? piece cs).map (c.utf8Size + ·)

/-- Whether pieces occur one after the other, without overlap, between two offsets of a text. Each
one is taken where it occurs first. `none` if there is no stretch to look for a piece in. -/
def occurBetween? (text : List Char) (stop : Nat) : Nat → List (List Char) → Option Bool
  | _, [] => some true
  | start, piece :: rest =>
    match stretch? text start stop with
    | none => none
    | some window =>
      match bytesBefore? piece window with
      | some before => occurBetween? text stop (start + before + byteLength piece) rest
      | none => some false

/-- Whether the text starts with the first piece, ends with the last one, and has the others in
order between them. -/
def fitsBetween? (text first : List Char) (middle : List (List Char)) (last : List Char) :
    Option Bool :=
  if !first.isPrefixOf text then some false
  else if !last.isSuffixOf text || byteLength text < byteLength first + byteLength last then
    some false
  else occurBetween? text (byteLength text - byteLength last) (byteLength first) middle

def fitsPieces? (text : List Char) : List (List Char) → Option Bool
  | [] => some text.isEmpty
  | [only] => some (only == text)
  | first :: second :: rest =>
    fitsBetween? text first (second :: rest).dropLast
      ((second :: rest).getLast (List.cons_ne_nil second rest))

/-- Whether a text fits a pattern, by the pieces between the stars. -/
def wildcardVerdict? (pattern text : String) : Option Bool :=
  fitsPieces? text.toList (pieces '*' pattern.toList)

/-- Whether a text arises from a pattern when each star is replaced by some text, possibly an empty
one. -/
def wildcardMatches (pattern text : String) : Bool :=
  (wildcardVerdict? pattern text).getD false

end LayerLint.Text
