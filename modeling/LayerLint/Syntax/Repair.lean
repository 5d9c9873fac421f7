import LayerLint.Syntax.Parser

/-! What is wrong with a text that a grammar does not fit. A repair inserts a token that would end a
phrase, or leaves out a stretch of text; the flaw of the text is the first change of the cheapest
repairs that make it fit. -/

namespace LayerLint.Syntax

/-! ### Costs -/

/-- What every change costs. -/
def changeCost : Nat := 500

/-- What an inserted token costs besides. -/
def insertionCost : Nat := 110

/-- What each phrase or token that is left out costs besides. -/
def phraseCost : Nat := 100

/-- What each line end that is left out costs besides; each byte costs 1. -/
def rowCost : Nat := 30

/-- A changed text: its flaws so far with their cost, and the offset that reading has to pass for
the last change to count. -/
structure Draft where
  source : Source
  cost : Nat
  flaws : List Tree
  pass : Nat

namespace Source

/-- The text with a stretch made blank; line ends stay. -/
def blankOut (src : Source) (start stop : Nat) : Source :=
  let middle := (src.chars.extract start stop).map fun c => if c == '\n' then c else ' '
  ⟨src.chars.extract 0 start ++ middle ++ src.chars.extract stop src.size⟩

def insertAt (src : Source) (offset : Nat) (cs : List Char) : Source :=
  ⟨src.chars.extract 0 offset ++ cs.toArray ++ src.chars.extract offset src.size⟩

/-- The cost of the characters of a stretch: its bytes and its line ends. -/
def stretchCost (src : Source) (start stop : Nat) : Nat :=
  (src.chars.extract start stop).toList.foldr (fun c total =>
    c.utf8Size + (if c == '\n' then rowCost else 0) + total) 0

end Source

/-- A token of a text: where it starts and the offset after it. -/
structure Lexeme where
  start : Position
  stop : Nat

variable {ρ : Type} [BEq ρ]

/-- The tokens of a text from a place on, whether or not they fit. -/
def lexemesFrom (g : Grammar ρ) (src : Source) : Nat → Position → List Lexeme
  | 0, _ => []
  | fuel + 1, pos =>
    let (_, start) := gapFrom g src (src.size + 1) pos []
    if start.offset < src.size then
      let stop := max (start.offset + 1) ((g.token src start.offset).getD 0)
      ⟨start, stop⟩ :: lexemesFrom g src fuel (src.advance start stop)
    else []

/-- Tokens looked at after a place that does not fit. -/
def lookAhead : Nat := 60

/-- The text of a token that can be inserted. -/
def insertable? : Kind → Option (List Char)
  | .token text => some text.toList
  | .identifier => some [' ', '_', ' ']
  | _ => none

/-- Where the trees of one list start, with the number of trees from there on, and besides them the
starts that are known already; the smaller number counts. -/
def addStarts (known : List (Position × Nat)) (trees : List Tree) : List (Position × Nat) :=
  let trees := trees.filter (!isExtra ·)
  (trees.zipIdx.map fun (t, i) => (t.start, trees.length - i)).foldl (fun known (start, n) =>
    if known.any fun (s, k) => s.offset == start.offset && k ≤ n then known
    else (start, n) :: known.filter (·.1.offset != start.offset)) known

/-- The places from which pending phrases can be left out, with the number of trees that go. -/
def phraseStarts (pending : List (List (List Tree))) : List (Position × Nat) :=
  pending.foldl (fun known trees => addStarts known trees.reverse.flatten) []

/-- The changes that could help where reading stopped: a token is inserted, or a stretch is left out
that begins with one of the trees read so far, or with the next token, and ends before the next
token or after a later one. -/
def changes (g : Grammar ρ) (d : Draft) (st : Progress ρ) : List Draft :=
  let src := d.source
  let insertions := st.wanted.filterMap fun kind =>
    (insertable? kind).map fun cs =>
      { source := src.insertAt st.back.offset cs
        cost := d.cost + changeCost + insertionCost
        flaws := d.flaws ++ [Tree.absent kind st.back]
        pass := if st.reach < src.size then st.reach + cs.length else 0 : Draft }
  let after := lexemesFrom g src lookAhead (src.advance st.back st.reach)
  let starts := (after.take 1).map (fun l => (l.start, 0)) ++ phraseStarts st.pending
  let ends := (st.back.offset, 0) :: (after.zipIdx 1).map fun (l, n) => (l.stop, n)
  let deletions := starts.flatMap fun (start, phrases) =>
    (ends.filter (start.offset < ·.1)).map fun (stop, tokens) =>
      { source := src.blankOut start.offset stop
        cost := d.cost + changeCost + phraseCost * (phrases + tokens) +
          src.stretchCost start.offset stop
        flaws := d.flaws ++ [Tree.leaf .fault ⟨start, src.advance start stop⟩]
        pass := 0 : Draft }
  insertions ++ deletions

/-- Looks through the drafts from the cheapest on; `fuel` bounds the texts that are read. -/
def cheapest (g : Grammar ρ) : Nat → List Draft → Option Draft
  | 0, _ => none
  | _ + 1, [] => none
  | fuel + 1, d :: rest =>
    match readAll g d.source with
    | (some _, _) => some d
    | (none, st) =>
      if st.reach ≤ d.pass then cheapest g fuel rest
      else
        let more := (changes g d st).mergeSort fun a b => a.cost ≤ b.cost
        cheapest g fuel (rest.merge more fun a b => a.cost < b.cost)

/-- Texts read in the search for a repair. -/
def repairTries : Nat := 200

/-- The first flaw of a text that does not fit. Without a repair within reach, the text as a whole
is one. -/
def flawOf (g : Grammar ρ) (src : Source) : Tree :=
  let draft := cheapest g repairTries [⟨src, 0, [], 0⟩]
  let flaws := (draft.map (·.flaws)).getD []
  match flaws.mergeSort fun a b => a.start.offset ≤ b.start.offset with
  | flaw :: _ => flaw
  | [] => Tree.leaf .fault ⟨(gapFrom g src (src.size + 1) ⟨0, 0⟩ []).2, ⟨src.size, 0⟩⟩

/-- The syntax tree of a text. One that does not fit has its first flaw as its only child. -/
def parse (g : Grammar ρ) (src : Source) : Tree :=
  match readAll g src with
  | (some trees, _) => Tree.covering .compilationUnit ⟨0, 0⟩ trees
  | (none, _) => Tree.covering .compilationUnit ⟨0, 0⟩ [flawOf g src]

end LayerLint.Syntax
