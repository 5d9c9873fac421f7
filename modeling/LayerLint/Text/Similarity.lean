/-! How alike two short texts are, for suggestions. -/

namespace LayerLint.Text

/-- The number of the first character in a numbered list that equals `c` and has a number within
bounds. -/
def partner? (c : Char) (low high : Nat) : List (Char × Nat) → Option Nat
  | [] => none
  | (d, j) :: rest => if d == c && low ≤ j && j ≤ high then some j else partner? c low high rest

/-- The characters of a numbered text that have a partner in the other one, with the numbers of
their partners. Partners are at most `range` places apart, and no two characters share one. -/
def partners (range : Nat) : List (Char × Nat) → List (Char × Nat) → List (Char × Nat)
  | [], _ => []
  | (c, i) :: rest, others =>
    match partner? c (i - range) (i + range) others with
    | some j => (c, j) :: partners range rest (others.filter (·.2 != j))
    | none => partners range rest others

/-- A fraction of whole numbers. -/
structure Likeness where
  part : Nat
  whole : Nat
  deriving DecidableEq, Repr

def Likeness.le (a b : Likeness) : Bool :=
  a.part * b.whole ≤ b.part * a.whole

/-- How alike two texts are: the mean of three shares, those of the characters of either text that
have partners and that of the partners that stand in the same order. -/
def likeness (a b : String) : Likeness :=
  let m := a.length
  let n := b.length
  let found := partners (max m n / 2 - 1) a.toList.zipIdx b.toList.zipIdx
  let k := found.length
  let chars := b.toList
  let inOrder := (found.map (·.2)).mergeSort
  let displaced := (found.zip inOrder).countP fun ((c, _), j) => chars[j]? != some c
  ⟨k * k * n + k * k * m + (k - displaced / 2) * m * n, 3 * m * n * k⟩

/-- Texts are similar if they are more alike than seven tenths. -/
def Likeness.isSimilar (l : Likeness) : Bool :=
  7 * l.whole < 10 * l.part

/-- The names that are similar to a text, the most alike last. -/
def similar (text : String) (names : List String) : List String :=
  let found := (names.map fun name => (likeness text name, name)).filter (·.1.isSimilar)
  (found.mergeSort fun a b => a.1.le b.1).map (·.2)

end LayerLint.Text
