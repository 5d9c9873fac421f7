/-! Glob patterns for paths. A star and a question mark stand for slashes too. -/

namespace LayerLint

/-- Characters between two bounds. -/
structure CharRange where
  first : Char
  last : Char
  deriving DecidableEq, Repr

namespace Glob

inductive Token where
  | char (c : Char)
  | anyChar
  | within (ranges : List CharRange)
  | except (ranges : List CharRange)
  /-- Any text; a recursive one ends after a slash or at the end of the path. -/
  | sequence (recursive : Bool)
  deriving DecidableEq, Repr

inductive FaultKind where
  | wildcards
  | recursiveWildcards
  | range
  deriving DecidableEq, Repr

/-- What is wrong with a pattern, and the number of characters before that place. -/
structure Fault where
  kind : FaultKind
  position : Nat
  deriving DecidableEq, Repr

def FaultKind.message : FaultKind → String
  | .wildcards => "wildcards are either regular `*` or recursive `**`"
  | .recursiveWildcards => "recursive wildcards must form a single path component"
  | .range => "invalid range pattern"

def Fault.message (f : Fault) : String :=
  let what := f.kind.message
  s!"Pattern syntax error near position {f.position}: {what}"

/-! ### Reading -/

/-- The ranges between two brackets: `a-z` is a range, every other character stands for itself. -/
def rangesOf : List Char → List CharRange
  | a :: '-' :: b :: rest => ⟨a, b⟩ :: rangesOf rest
  | a :: rest => ⟨a, a⟩ :: rangesOf rest
  | [] => []

/-- The characters before the first closing bracket and those after it. -/
def closing? : List Char → Option (List Char × List Char)
  | [] => none
  | c :: cs => if c == ']' then some ([], cs) else (closing? cs).map fun (a, b) => (c :: a, b)

/-- A range pattern after its opening bracket: its token, its length and what follows it. Its first
character is part of it even if it is a bracket. -/
def rangeToken? : List Char → Option (Token × Nat × List Char)
  | '!' :: c :: cs =>
    (closing? cs).map fun (inner, rest) =>
      (.except (rangesOf (c :: inner)), inner.length + 3, rest)
  | '!' :: _ => none
  | c :: cs =>
    (closing? cs).map fun (inner, rest) =>
      (.within (rangesOf (c :: inner)), inner.length + 2, rest)
  | [] => none

/-- Reads the tokens of a pattern. `position` counts the characters before the rest, `atStart` tells
whether a path component starts there, and `tokens` are those so far, in reverse. -/
def readTokens : Nat → Nat → Bool → List Token → List Char → Except Fault (List Token)
  | 0, _, _, tokens, _ => .ok tokens.reverse
  | _ + 1, _, _, tokens, [] => .ok tokens.reverse
  | fuel + 1, position, atStart, tokens, c :: cs =>
    match c with
    | '?' => readTokens fuel (position + 1) false (.anyChar :: tokens) cs
    | '*' =>
      let stars := ((c :: cs).takeWhile (· == '*')).length
      let rest := (c :: cs).drop stars
      if stars == 1 then readTokens fuel (position + 1) false (.sequence false :: tokens) rest
      else if 2 < stars then .error ⟨.wildcards, position + 2⟩
      else if !atStart then .error ⟨.recursiveWildcards, position - 1⟩
      else
        let repeats := 1 < tokens.length && tokens.head? == some (.sequence true)
        let tokens := if repeats then tokens else .sequence true :: tokens
        match rest with
        | [] => .ok tokens.reverse
        | '/' :: rest => readTokens fuel (position + 3) true tokens rest
        | _ => .error ⟨.recursiveWildcards, position + 2⟩
    | '[' =>
      match rangeToken? cs with
      | some (token, length, rest) =>
        readTokens fuel (position + length + 1) false (token :: tokens) rest
      | none => .error ⟨.range, position⟩
    | c => readTokens fuel (position + 1) (c == '/') (.char c :: tokens) cs

/-! ### Matching -/

/-- How far a pattern fits: as a whole, not from here on, or from nowhere on because the path is too
short. -/
inductive Fit where
  | fits
  | notHere
  | nowhere
  deriving DecidableEq, Repr

def inRanges (ranges : List CharRange) (c : Char) : Bool :=
  ranges.any fun r => r.first ≤ c && c ≤ r.last

def Token.standsFor (c : Char) : Token → Bool
  | .char d => c == d
  | .anyChar => true
  | .within ranges => inRanges ranges c
  | .except ranges => !inRanges ranges c
  | .sequence _ => true

/-- Tries the rest of a pattern after longer and longer pieces of the path. -/
def fitAfter (recursive : Bool) (rest : List Char → Fit) : List Char → Fit
  | [] => rest []
  | c :: cs =>
    if recursive && c != '/' then fitAfter recursive rest cs
    else
      match rest cs with
      | .notHere => fitAfter recursive rest cs
      | fit => fit

def fit : List Token → List Char → Fit
  | [], [] => .fits
  | [], _ :: _ => .notHere
  | .sequence recursive :: tokens, path =>
    match fit tokens path with
    | .notHere => fitAfter recursive (fit tokens) path
    | other => other
  | _ :: _, [] => .nowhere
  | token :: tokens, c :: cs => if token.standsFor c then fit tokens cs else .notHere

end Glob

structure Glob where
  pattern : String
  tokens : List Glob.Token
  deriving DecidableEq, Repr

namespace Glob

def ofPattern (pattern : String) : Except Fault Glob :=
  let cs := pattern.toList
  (readTokens (cs.length + 1) 0 true [] cs).map fun tokens => ⟨pattern, tokens⟩

def matchesPath (g : Glob) (path : String) : Bool :=
  fit g.tokens path.toList == .fits

end Glob

end LayerLint
