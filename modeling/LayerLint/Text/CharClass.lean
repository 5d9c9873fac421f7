/-! Sets of characters and maps between characters, given by runs of code points. -/

namespace LayerLint.Text

/-- The code points `first`, `first + step`, and so on up to `last`. -/
structure Run where
  first : Nat
  last : Nat
  step : Nat

def Run.contains (r : Run) (n : Nat) : Bool :=
  r.first ≤ n && n ≤ r.last && (n - r.first) % r.step == 0

/-- A set of characters as a sequence of runs. -/
abbrev CharClass := Array Run

def CharClass.contains (k : CharClass) (c : Char) : Bool :=
  k.any (·.contains c.toNat)

/-- A set of characters by its names, the short one first. -/
structure NamedClass where
  names : List String
  chars : CharClass

/-- A run of code points together with the code point that `first` is sent to; the others follow
in step. -/
structure MapRun where
  run : Run
  target : Nat

/-- A map on characters; those outside every run stay as they are. -/
abbrev CharMap := Array MapRun

def CharMap.apply (m : CharMap) (c : Char) : Char :=
  match m.find? (·.run.contains c.toNat) with
  | some r => Char.ofNat (r.target + (c.toNat - r.run.first))
  | none => c

end LayerLint.Text
