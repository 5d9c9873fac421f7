import LayerLint.Regex.Basic

/-! Matching. A set of places in a text is a list of truth values, one for each place from before
the first character to after the last one; an expression sends the places where it may start to
those where it may stop. -/

namespace LayerLint.Regex

/-- The places in a text, each in the set or not. -/
abbrev Places := List Bool

namespace Places

def union : Places → Places → Places
  | p :: ps, q :: qs => (p || q) :: union ps qs
  | _, _ => []

/-- The places after a character that satisfies `p` at a place of the set. `carry` tells whether
the first place is one. -/
def after (p : Char → Bool) (carry : Bool) : List Char → Places → Places
  | c :: cs, here :: rest => carry :: after p (here && p c) cs rest
  | _, _ => [carry]

/-- The places of the set with a property of the characters around them. -/
def filter (p : Option Char → Option Char → Bool) (before : Option Char) :
    List Char → Places → Places
  | c :: cs, here :: rest => (here && p before (some c)) :: filter p (some c) cs rest
  | _, here :: _ => [here && p before none]
  | _, [] => []

end Places

/-- A step taken `n` times; it can stop early once nothing changes. -/
def stepTimes (step : Places → Places) : Nat → Places → Places
  | 0, ps => ps
  | n + 1, ps =>
    let next := step ps
    if next == ps then ps else stepTimes step n next

/-- All places that at most `n` steps lead to. -/
def stepsWithin (step : Places → Places) (n : Nat) (ps : Places) : Places :=
  stepTimes (fun qs => qs.union (step qs)) n ps

mutual

/-- The places where an expression can stop that starts at one of the given places. -/
def stops (text : List Char) : Node → Places → Places
  | .empty, ps => ps
  | .one set, ps => Places.after set.contains false text ps
  | .look unicode l, ps =>
    let isWord := if unicode then Text.isWordChar
      else fun c => Text.isAsciiLetter c || Text.isAsciiDigit c || c == '_'
    Places.filter (fun before after => l.holds isWord before after) none text ps
  | .seq nodes, ps => stopsOfAll text nodes ps
  | .choice nodes, ps => stopsOfAny text nodes ps
  | .repeated node least most, ps =>
    let step := stops text node
    let start := stepTimes step least ps
    match most with
    | none => stepsWithin step (text.length + 1) start
    | some most => stepsWithin step (most - least) start

def stopsOfAll (text : List Char) : List Node → Places → Places
  | [], ps => ps
  | node :: nodes, ps => stopsOfAll text nodes (stops text node ps)

def stopsOfAny (text : List Char) : List Node → Places → Places
  | [], ps => ps.map fun _ => false
  | node :: nodes, ps => (stops text node ps).union (stopsOfAny text nodes ps)

end

/-- Whether an expression fits some part of a text. -/
def Node.isFoundIn (node : Node) (text : String) : Bool :=
  let cs := text.toList
  (stops cs node (List.replicate (cs.length + 1) true)).any id

end LayerLint.Regex
