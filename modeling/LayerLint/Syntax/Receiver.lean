import LayerLint.Syntax.Tree
import LayerLint.Text.Name

/-! The root name of a receiver chain: `driver` for `this.driver.findElement(..).click()`. -/

namespace LayerLint.Syntax

open Text

/-- One step along a receiver chain. -/
inductive Link where
  | found (name : String)
  | follow (next : Tree)
  | lost

/-- A link to a node that may be absent. -/
def Link.ofTree? : Option Tree → Link
  | some t => .follow t
  | none => .lost

/-- An object that stands for the class itself. -/
def isSelf (src : Source) (t : Tree) : Bool :=
  ["this", "super", "base"].any fun word =>
    t.stop.offset - t.start.offset == word.length && t.text src == word

/-- The member of an access whose object stands for the class itself, else the object. -/
def accessLink (src : Source) (t : Tree) (owner member : Label) : Link :=
  match t.child? owner with
  | some o =>
    if isSelf src o then .found (((t.child? member).map fun m => simpleName (m.text src)).getD "")
    else .follow o
  | none => .lost

/-- What a node of a receiver chain leads to. -/
def link (src : Source) (t : Tree) : Link :=
  match t.kind with
  | .identifier => .found (t.text src)
  | .genericName | .typeIdentifier => .found (simpleName (t.text src))
  | .fieldAccess => accessLink src t .object .field
  | .memberAccess => accessLink src t .expression .name
  | .methodInvocation =>
    match (t.child? .object).filter (!isSelf src ·) with
    | some o => .follow o
    | none => .found (((t.child? .name).map (·.text src)).getD "")
  | .invocation => .ofTree? (t.child? .function)
  | .arrayAccess => .ofTree? (t.child? .array)
  | .elementAccess => .ofTree? (t.child? .expression)
  | .conditionalAccess => .ofTree? ((t.child? .condition).or t.namedChildren.head?)
  | .parenthesizedExpression | .castExpression => .ofTree? t.namedChildren.getLast?
  | _ => .lost

/-- Follows at most `n` nodes of a chain. -/
def hintWithin (src : Source) : Nat → Tree → String
  | 0, _ => ""
  | n + 1, t =>
    match link src t with
    | .found name => name
    | .follow next => hintWithin src n next
    | .lost => ""

/-- The nodes looked at in one receiver chain. -/
def chainLimit : Nat := 64

/-- The root name of a receiver, empty when there is none. -/
def receiverHint (src : Source) (t : Tree) : String :=
  hintWithin src chainLimit t

end LayerLint.Syntax
