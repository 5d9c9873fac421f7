import LayerLint.Syntax.Tree

/-! Grammars as data. A form says which texts a phrase has and which trees it yields; the rules of
a grammar refer to each other by the names in `ρ`. -/

namespace LayerLint.Syntax

/-- How far a token reaches from an offset, if one starts there. -/
abbrev Scanner := Source → Nat → Option Nat

/-- The shape of a phrase. Alternatives are ordered: the first that fits is taken. -/
inductive Form (ρ : Type) where
  /-- One token, after whatever may stand between tokens. -/
  | leaf (kind : Kind) (scan : Scanner)
  /-- A token that follows directly; without a kind it leaves no tree. -/
  | inner (kind : Option Kind) (scan : Scanner)
  /-- The phrase of a rule. -/
  | rule (name : ρ)
  | seq (forms : List (Form ρ))
  | choice (forms : List (Form ρ))
  | optional (form : Form ρ)
  | many (form : Form ρ)
  | many1 (form : Form ρ)
  /-- The last tree of the phrase gets a label. -/
  | label (l : Label) (form : Form ρ)
  /-- The trees of the phrase become the children of one node. -/
  | node (kind : Kind) (form : Form ρ)
  /-- A phrase that grows to the right: each `step` takes over what was read before it. -/
  | grow (base step : Form ρ)
  /-- In a step of `grow`: a node whose first child is what was read before. -/
  | onto (kind : Kind) (l : Option Label) (form : Form ρ)
  /-- The phrase, if its last tree has one of the kinds. -/
  | only (kinds : List Kind) (form : Form ρ)
  /-- Nothing is read; the phrase would fit here. -/
  | ahead (form : Form ρ)
  /-- Nothing is read; the phrase would not fit here. -/
  | forbid (form : Form ρ)
  /-- The phrase depends on what stands where the next token starts. -/
  | depending (form : Source → Nat → Form ρ)

namespace Form

variable {ρ : Type}

/-- One or more phrases with a separator between each two. -/
def sepBy1 (form separator : Form ρ) : Form ρ :=
  .seq [form, .many (.seq [separator, form])]

end Form

/-- A grammar: its rules, the form of a whole text, and what may stand between tokens. -/
structure Grammar (ρ : Type) where
  root : Form ρ
  form : ρ → Form ρ
  isBlank : Char → Bool
  /-- A comment, or another extra, that starts at a place. -/
  extra : Source → Position → Option Tree
  /-- Any token, whether or not it fits. -/
  token : Scanner

/-! ### Scanners -/

namespace Source

/-- The characters `cs` stand at the offset. -/
def hasChars (src : Source) : Nat → List Char → Bool
  | _, [] => true
  | i, c :: cs => src.at? i == some c && hasChars src (i + 1) cs

/-- The first offset from `i` on, within `fuel` characters, whose character is not in a class. -/
def skipWhile (src : Source) (p : Char → Bool) : Nat → Nat → Nat
  | 0, i => i
  | fuel + 1, i =>
    match src.at? i with
    | some c => if p c then skipWhile src p fuel (i + 1) else i
    | none => i

/-- The end of the longest stretch of characters of a class that starts at `i`. -/
def spanOf (src : Source) (p : Char → Bool) (i : Nat) : Nat :=
  src.skipWhile p (src.size - i) i

end Source

/-- The characters of `text`, whatever follows. -/
def scanText (text : String) : Scanner :=
  let cs := text.toList
  fun src i => if src.hasChars i cs then some (i + cs.length) else none

/-- The characters of `text`, with no identifier character after them. -/
def scanWord (isPart : Char → Bool) (text : String) : Scanner :=
  let cs := text.toList
  fun src i =>
    if src.hasChars i cs then
      match src.at? (i + cs.length) with
      | some c => if isPart c then none else some (i + cs.length)
      | none => some (i + cs.length)
    else none

/-- The characters of `text`, unless one of the longer operators `others` stands there. -/
def scanOperator (others : List String) (text : String) : Scanner :=
  let cs := text.toList
  let longer := (others.map String.toList).filter fun o => cs.length < o.length && cs.isPrefixOf o
  fun src i =>
    if src.hasChars i cs && !longer.any (src.hasChars i ·) then some (i + cs.length) else none

def scanFirst (scanners : List Scanner) : Scanner :=
  fun src i => scanners.findSome? fun scan => scan src i

end LayerLint.Syntax
