import Std.Data.TreeMap
import LayerLint.Syntax.Form

/-! Reading a text by a grammar. Every form yields a list of trees; what a rule yields at a place
is remembered, so that going back costs nothing. Extras belong to the innermost node that has
tokens on both sides of them. -/

namespace LayerLint.Syntax

/-- The trees of a phrase and the place after it, if it fits. -/
abbrev Reading := Option (List Tree × Position)

/-- What is known while a text is read: the readings of the rules so far, the extras after each
place, and the furthest place where a token was looked for in vain. `back` is the end of the token
before that place, `pending` are the trees read so far for the phrases that were not complete
there, once for each token looked for, and `wanted` are the tokens that would have ended a phrase
there. -/
structure Progress (ρ : Type) where
  memo : Std.TreeMap Nat (List (ρ × Reading)) := {}
  gaps : Std.TreeMap Nat (List Tree × Position) := {}
  reach : Nat := 0
  back : Position := ⟨0, 0⟩
  pending : List (List (List Tree)) := []
  wanted : List Kind := []

/-- Where a form stands in the phrase around it: before its end, as the whole of it, or as the last
of several parts. -/
inductive Place where
  | before
  | whole
  | last
  deriving DecidableEq

/-- The place of the last part of a sequence. -/
def Place.ofLast (place : Place) (single : Bool) : Place :=
  if single then place else if place == .before then .before else .last

variable {ρ : Type} [BEq ρ]

/-- The extras from a place on and the place of the next token. -/
def gapFrom (g : Grammar ρ) (src : Source) : Nat → Position → List Tree → List Tree × Position
  | 0, pos, extras => (extras.reverse, pos)
  | fuel + 1, pos, extras =>
    let next := src.advance pos (src.spanOf g.isBlank pos.offset)
    match g.extra src next with
    | some tree =>
      if next.offset < tree.stop.offset then gapFrom g src fuel tree.stop (tree :: extras)
      else (extras.reverse, next)
    | none => (extras.reverse, next)

def Progress.gap (g : Grammar ρ) (src : Source) (pos : Position) (st : Progress ρ) :
    (List Tree × Position) × Progress ρ :=
  match st.gaps[pos.offset]? with
  | some gap => (gap, st)
  | none =>
    let gap := gapFrom g src (src.size + 1) pos []
    (gap, { st with gaps := st.gaps.insert pos.offset gap })

/-- What a rule is known to yield at a place. -/
def Progress.recall (name : ρ) (pos : Position) (st : Progress ρ) : Option Reading :=
  (st.memo.getD pos.offset []).lookup name

def Progress.remember (name : ρ) (pos : Position) (reading : Reading) (st : Progress ρ) :
    Progress ρ :=
  { st with memo := st.memo.insert pos.offset ((name, reading) :: st.memo.getD pos.offset []) }

/-- A token of a kind was looked for at an offset and is not there. -/
def Progress.lacking (kind : Kind) (place : Place) (pending : List (List Tree))
    (back : Position) (offset : Nat) (st : Progress ρ) : Progress ρ :=
  let wanted := if place == .last then [kind] else []
  if st.reach < offset then { st with reach := offset, back, pending := [pending], wanted }
  else if st.reach == offset then
    { st with
      pending := pending :: st.pending
      wanted := if st.wanted.contains kind then st.wanted else st.wanted ++ wanted }
  else st

/-- The extras in front of a phrase stay outside its node. -/
def splitExtras (isExtra : Tree → Bool) (trees : List Tree) : List Tree × List Tree :=
  (trees.takeWhile isExtra, trees.dropWhile isExtra)

def isExtra (t : Tree) : Bool :=
  match t.kind with
  | .lineComment | .blockComment | .comment | .directive => true
  | _ => false

/-- One node over the trees of a phrase. -/
def enclose (kind : Kind) (pos : Position) (trees : List Tree) : List Tree :=
  let (extras, rest) := splitExtras isExtra trees
  extras ++ [Tree.covering kind pos rest]

/-- The last tree of a phrase under a label. -/
def labelLast (l : Label) : List Tree → List Tree
  | [] => []
  | [t] => [t.withLabel l]
  | t :: ts => t :: labelLast l ts

mutual

/-- Reads a form at a place. `place` is its place in the phrase around it, `pending` holds what the
phrases around it have read so far, from the innermost, and `left` what the enclosing `grow` has.
Each step of the reader takes one unit of fuel. -/
def readForm (g : Grammar ρ) (src : Source) (fuel : Nat) (place : Place)
    (pending : List (List Tree)) (left : List Tree) (pos : Position) (form : Form ρ)
    (st : Progress ρ) : Reading × Progress ρ :=
  match fuel with
  | 0 => (none, st)
  | fuel + 1 =>
    match form with
    | .leaf kind scan =>
      let ((extras, start), st) := st.gap g src pos
      match scan src start.offset with
      | some stop =>
        let stop := src.advance start stop
        (some (extras ++ [Tree.leaf kind ⟨start, stop⟩], stop), st)
      | none => (none, st.lacking kind place pending pos start.offset)
    | .inner kind scan =>
      match scan src pos.offset with
      | some stop =>
        let stop := src.advance pos stop
        (some ((kind.map fun k => Tree.leaf k ⟨pos, stop⟩).toList, stop), st)
      | none => (none, (kind.map fun k => st.lacking k .before pending pos pos.offset).getD st)
    | .rule name =>
      match st.recall name pos with
      | some reading => (reading, st)
      | none =>
        let (reading, st) := readForm g src fuel .whole pending [] pos (g.form name) st
        (reading, st.remember name pos reading)
    | .seq forms => readSeq g src fuel (place.ofLast (forms.length ≤ 1)) pending pos [] forms st
    | .choice forms => readChoice g src fuel place pending left pos forms st
    | .optional form =>
      match readForm g src fuel place pending [] pos form st with
      | (some reading, st) => (some reading, st)
      | (none, st) => (some ([], pos), st)
    | .many form => readMany g src fuel pending pos [] form st
    | .many1 form =>
      match readForm g src fuel .whole pending [] pos form st with
      | (some (trees, next), st) => readMany g src fuel pending next trees form st
      | (none, st) => (none, st)
    | .label l form =>
      match readForm g src fuel place pending left pos form st with
      | (some (trees, stop), st) => (some (labelLast l trees, stop), st)
      | (none, st) => (none, st)
    | .node kind form =>
      match readForm g src fuel .last pending [] pos form st with
      | (some (trees, stop), st) => (some (enclose kind pos trees, stop), st)
      | (none, st) => (none, st)
    | .grow base step =>
      match readForm g src fuel place pending [] pos base st with
      | (some (trees, stop), st) => readSteps g src fuel pending trees stop step st
      | (none, st) => (none, st)
    | .onto kind l form =>
      match readForm g src fuel .last pending [] pos form st with
      | (some (trees, stop), st) =>
        let left := (l.map (labelLast · left)).getD left
        (some (enclose kind pos (left ++ trees), stop), st)
      | (none, st) => (none, st)
    | .only kinds form =>
      match readForm g src fuel place pending left pos form st with
      | (some (trees, stop), st) =>
        if trees.getLast?.any (kinds.contains ·.kind) then (some (trees, stop), st) else (none, st)
      | (none, st) => (none, st)
    | .ahead form =>
      match readForm g src fuel .before pending [] pos form st with
      | (some _, st) => (some ([], pos), st)
      | (none, st) => (none, st)
    | .forbid form =>
      match readForm g src fuel .before pending [] pos form st with
      | (some _, st) => (none, st)
      | (none, st) => (some ([], pos), st)
    | .depending form =>
      let ((_, start), st) := st.gap g src pos
      readForm g src fuel place pending left pos (form src start.offset) st

def readSeq (g : Grammar ρ) (src : Source) (fuel : Nat) (place : Place)
    (pending : List (List Tree)) (pos : Position) (trees : List Tree) (forms : List (Form ρ))
    (st : Progress ρ) : Reading × Progress ρ :=
  match fuel with
  | 0 => (none, st)
  | fuel + 1 =>
    match forms with
    | [] => (some (trees, pos), st)
    | form :: rest =>
      let here := if rest.isEmpty then place else .before
      match readForm g src fuel here (trees :: pending) [] pos form st with
      | (some (more, next), st) => readSeq g src fuel place pending next (trees ++ more) rest st
      | (none, st) => (none, st)

def readChoice (g : Grammar ρ) (src : Source) (fuel : Nat) (place : Place)
    (pending : List (List Tree)) (left : List Tree) (pos : Position) (forms : List (Form ρ))
    (st : Progress ρ) : Reading × Progress ρ :=
  match fuel with
  | 0 => (none, st)
  | fuel + 1 =>
    match forms with
    | [] => (none, st)
    | form :: rest =>
      match readForm g src fuel place pending left pos form st with
      | (some reading, st) => (some reading, st)
      | (none, st) => readChoice g src fuel place pending left pos rest st

/-- Reads a form as often as it fits and gets on. -/
def readMany (g : Grammar ρ) (src : Source) (fuel : Nat) (pending : List (List Tree))
    (pos : Position) (trees : List Tree) (form : Form ρ) (st : Progress ρ) : Reading × Progress ρ :=
  match fuel with
  | 0 => (none, st)
  | fuel + 1 =>
    match readForm g src fuel .whole (trees :: pending) [] pos form st with
    | (some (more, next), st) =>
      if pos.offset < next.offset then readMany g src fuel pending next (trees ++ more) form st
      else (some (trees, pos), st)
    | (none, st) => (some (trees, pos), st)

/-- Grows a phrase as often as a step fits and gets on. -/
def readSteps (g : Grammar ρ) (src : Source) (fuel : Nat) (pending : List (List Tree))
    (left : List Tree) (pos : Position) (step : Form ρ) (st : Progress ρ) : Reading × Progress ρ :=
  match fuel with
  | 0 => (none, st)
  | fuel + 1 =>
    match readForm g src fuel .whole (left :: pending) left pos step st with
    | (some (trees, next), st) =>
      if pos.offset < next.offset then readSteps g src fuel pending trees next step st
      else (some (left, pos), st)
    | (none, st) => (some (left, pos), st)

end

/-- Steps enough for every text of a size. -/
def fuelFor (size : Nat) : Nat :=
  1000 * (size + 10)

/-- The trees of a whole text, if it fits, and what is known of it. -/
def readAll (g : Grammar ρ) (src : Source) : Option (List Tree) × Progress ρ :=
  match readForm g src (fuelFor src.size) .whole [] [] ⟨0, 0⟩ g.root {} with
  | (some (trees, stop), st) =>
    let ((extras, next), st) := st.gap g src stop
    if src.size ≤ next.offset then (some (trees ++ extras), st)
    else if st.reach < next.offset then
      (none, { st with reach := next.offset, back := stop, pending := [[trees]], wanted := [] })
    else (none, st)
  | (none, st) => (none, st)

end LayerLint.Syntax
