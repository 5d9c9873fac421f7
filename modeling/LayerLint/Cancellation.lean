/-! Handles by which scans are cancelled. Handles that are clones of one another share one flag. -/

namespace LayerLint

/-- A step on handles: a fresh one, a clone of one, or cancelling by one. Handles are numbered from
0, and numbers wrap around. -/
inductive HandleStep where
  | new
  | clone (handle : Nat)
  | cancel (handle : Nat)
  deriving DecidableEq, Repr

/-- Handles by the numbers of their flags, and the flags that are raised or not. -/
structure Handles where
  flagOf : List Nat
  raised : List Bool
  deriving DecidableEq, Repr

namespace Handles

def fresh : Handles :=
  ⟨[0], [false]⟩

def flag (hs : Handles) (handle : Nat) : Nat :=
  hs.flagOf.getD (handle % hs.flagOf.length) 0

def step (hs : Handles) : HandleStep → Handles
  | .new => ⟨hs.flagOf ++ [hs.raised.length], hs.raised ++ [false]⟩
  | .clone i => { hs with flagOf := hs.flagOf ++ [hs.flag i] }
  | .cancel i => { hs with raised := hs.raised.set (hs.flag i) true }

def states (hs : Handles) : List Bool :=
  hs.flagOf.map fun flag => hs.raised.getD flag false

/-- The handles after each of some steps. -/
def trail (hs : Handles) : List HandleStep → List Handles
  | [] => []
  | s :: rest => hs.step s :: (hs.step s).trail rest

end Handles

end LayerLint
