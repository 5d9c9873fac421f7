import LayerLint.Syntax.Kind

/-! Source texts, places in them, and syntax trees. -/

namespace LayerLint.Syntax

/-- A source text as a sequence of characters. -/
structure Source where
  chars : Array Char

namespace Source

/-- The source with a given text; a byte order mark in front is no part of it. -/
def ofString (text : String) : Source :=
  match text.toList with
  | c :: cs => ⟨(if c.toNat == 0xFEFF then cs else c :: cs).toArray⟩
  | [] => ⟨#[]⟩

def size (src : Source) : Nat :=
  src.chars.size

def at? (src : Source) (i : Nat) : Option Char :=
  src.chars[i]?

/-- The characters from `start` up to, not including, `stop`. -/
def slice (src : Source) (start stop : Nat) : String :=
  String.ofList (src.chars.extract start stop).toList

end Source

/-- A place in a source text: the number of characters before it and the number of line ends
before it. -/
structure Position where
  offset : Nat
  row : Nat
  deriving DecidableEq, Repr, Inhabited

/-- The place reached from `pos` after the characters up to the offset `stop`. -/
def Source.advance (src : Source) (pos : Position) (stop : Nat) : Position :=
  ⟨stop, pos.row + ((src.chars.extract pos.offset stop).toList.filter (· == '\n')).length⟩

/-- A stretch of a source text. -/
structure Span where
  start : Position
  stop : Position
  deriving DecidableEq, Repr, Inhabited

/-- All that a node says about itself. `missing` marks a token that the text lacks; `flawed` says
that the node or a node below it is missing or is a fault. -/
structure Tag where
  kind : Kind
  label : Option Label
  span : Span
  missing : Bool
  flawed : Bool
  deriving DecidableEq, Repr

/-- A syntax tree. A node without children is a leaf. -/
inductive Tree where
  | node (tag : Tag) (children : List Tree)

namespace Tree

def tag : Tree → Tag
  | .node tag _ => tag

def children : Tree → List Tree
  | .node _ children => children

def kind (t : Tree) : Kind :=
  t.tag.kind

def label (t : Tree) : Option Label :=
  t.tag.label

def start (t : Tree) : Position :=
  t.tag.span.start

def stop (t : Tree) : Position :=
  t.tag.span.stop

/-- The line on which the node starts, counted from 1. -/
def line (t : Tree) : Nat :=
  t.start.row + 1

def isNamed (t : Tree) : Bool :=
  t.kind.isNamed

/-- The children that are neither punctuation nor keywords. -/
def namedChildren (t : Tree) : List Tree :=
  t.children.filter isNamed

/-- The first child that the node holds under a label. -/
def child? (t : Tree) (l : Label) : Option Tree :=
  t.children.find? (·.label == some l)

/-- The piece of the source that the node covers. -/
def text (src : Source) (t : Tree) : String :=
  src.slice t.start.offset t.stop.offset

/-- A part of the text that fits nowhere, or a token that is not there. -/
def isFlaw (t : Tree) : Bool :=
  t.kind == .fault || t.tag.missing

def leaf (kind : Kind) (span : Span) : Tree :=
  .node ⟨kind, none, span, false, kind == .fault⟩ []

/-- A token that the text lacks at a place. -/
def absent (kind : Kind) (pos : Position) : Tree :=
  .node ⟨kind, none, ⟨pos, pos⟩, true, true⟩ []

/-- A node over `children`, or an empty one at `pos` if there are none. -/
def covering (kind : Kind) (pos : Position) (children : List Tree) : Tree :=
  let first := (children.head?.map start).getD pos
  let last := (children.getLast?.map stop).getD pos
  .node ⟨kind, none, ⟨first, last⟩, false, kind == .fault || children.any (·.tag.flawed)⟩ children

def withLabel (l : Label) : Tree → Tree
  | .node tag children => .node { tag with label := some l } children

end Tree

end LayerLint.Syntax
