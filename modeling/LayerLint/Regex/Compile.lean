import LayerLint.Regex.Matcher
import LayerLint.Regex.Property

/-! From patterns to regular expressions. -/

namespace LayerLint.Regex

/-- The flags in force at a place of a pattern. -/
structure Flags where
  caseInsensitive : Bool := false
  multiLine : Bool := false
  dotAll : Bool := false
  unicode : Bool := true
  crlf : Bool := false

def Flags.change (fs : Flags) : FlagChanges → Flags
  | [] => fs
  | (.caseInsensitive, on) :: rest => { fs with caseInsensitive := on }.change rest
  | (.multiLine, on) :: rest => { fs with multiLine := on }.change rest
  | (.dotAll, on) :: rest => { fs with dotAll := on }.change rest
  | (.unicode, on) :: rest => { fs with unicode := on }.change rest
  | (.crlf, on) :: rest => { fs with crlf := on }.change rest
  | (.swapGreed, _) :: rest | (.verbose, _) :: rest => fs.change rest

/-- A set with the case variants of its characters, if case does not count. -/
def Flags.fold (fs : Flags) (s : CharSet) : CharSet :=
  if !fs.caseInsensitive then s
  else if fs.unicode then .folded s
  else .inter (.folded s) (.property .ascii)

/-- A set or its complement; a complement takes in what is not ASCII, which bytes alone cannot
give. -/
def Flags.negate (fs : Flags) (negated : Bool) (span : Span) (s : CharSet) :
    Except Fault CharSet :=
  if !negated then .ok s
  else if fs.unicode then .ok (.complement s)
  else .error ⟨.invalidBytes, span, none⟩

def Flags.char (fs : Flags) (c : Literal) (span : Span) : Except Fault Char :=
  if fs.unicode || !c.isByte || c.char.toNat < 128 then .ok c.char
  else .error ⟨.invalidBytes, span, none⟩

def Flags.member (fs : Flags) (c : Literal) (span : Span) : Except Fault Char := do
  let char ← fs.char c span
  if fs.unicode || char.toNat < 128 then .ok char else .error ⟨.unicodeNotAllowed, span, none⟩

def perlSet (unicode : Bool) : PerlClass → CharSet
  | .digit => if unicode then .property (.category .decimalNumber) else .range '0' '9'
  | .space =>
    if unicode then .property .blank else CharSet.ofRanges [('\t', '\r'), (' ', ' ')]
  | .word =>
    if unicode then .property .wordChar
    else CharSet.ofRanges [('0', '9'), ('A', 'Z'), ('_', '_'), ('a', 'z')]

mutual

def compileSet (fs : Flags) : SetSyntax → Except Fault CharSet
  | .empty _ => .ok .empty
  | .literal c span => return .single (← fs.member c span)
  | .range first last span => return .range (← fs.member first span) (← fs.member last span)
  | .posix ranges negated span => fs.negate negated span (fs.fold (.ofRanges ranges))
  | .perl k negated span => fs.negate negated span (perlSet fs.unicode k)
  | .property q negated span =>
    if !fs.unicode then .error ⟨.unicodeNotAllowed, span, none⟩
    else
      match q.charSet with
      | .error kind => .error ⟨kind, span, none⟩
      | .ok s => fs.negate negated span (fs.fold s)
  | .union items _ => compileItems fs items
  | .operation op s t _ => do
    let s := fs.fold (← compileSet fs s)
    let t := fs.fold (← compileSet fs t)
    match op with
    | .inter => return .inter s t
    | .diff => return .diff s t
    | .symmetricDiff => return .symmetricDiff s t
  | .bracketed negated body span => do fs.negate negated span (fs.fold (← compileSet fs body))

def compileItems (fs : Flags) : List SetSyntax → Except Fault CharSet
  | [] => .ok .empty
  | item :: items => return .union (← compileSet fs item) (← compileItems fs items)

end

def Flags.look (fs : Flags) : BoundaryKind → Node
  | .textStart => .look fs.unicode .textStart
  | .textEnd => .look fs.unicode .textEnd
  | .caret =>
    .look fs.unicode
      (if !fs.multiLine then .textStart else if fs.crlf then .crlfStart else .lineStart)
  | .dollar =>
    .look fs.unicode (if !fs.multiLine then .textEnd else if fs.crlf then .crlfEnd else .lineEnd)
  | .word l => .look fs.unicode l

def Flags.dot (fs : Flags) : CharSet :=
  if fs.dotAll then .property .any
  else if fs.crlf then .complement (.union (.single '\n') (.single '\r'))
  else .complement (.single '\n')

mutual

/-- The expression of a pattern, and the flags in force after it. -/
def compile (fs : Flags) : Pattern → Except Fault (Node × Flags)
  | .empty => .ok (.empty, fs)
  | .flags changes => .ok (.empty, fs.change changes)
  | .literal c span => do
    let char ← fs.char c span
    return (.one (fs.fold (.single char)), fs)
  | .dot span =>
    if fs.unicode then .ok (.one fs.dot, fs) else .error ⟨.invalidBytes, span, none⟩
  | .boundary k _ => .ok (fs.look k, fs)
  | .set s => return (.one (← compileSet fs s), fs)
  | .repeated p least most _ => do
    let (node, fs) ← compile fs p
    return (.repeated node least most, fs)
  | .group changes p _ => do
    let (node, _) ← compile (fs.change changes) p
    return (node, fs)
  | .seq parts _ => do
    let (nodes, fs) ← compileAll fs parts
    return (.seq nodes, fs)
  | .choice branches _ => do
    let (nodes, fs) ← compileAll fs branches
    return (.choice nodes, fs)

def compileAll (fs : Flags) : List Pattern → Except Fault (List Node × Flags)
  | [] => .ok ([], fs)
  | p :: ps => do
    let (node, fs) ← compile fs p
    let (nodes, fs) ← compileAll fs ps
    return (node :: nodes, fs)

end

/-! ### Size -/

/-- The number of states that a set takes. -/
def CharSet.states : CharSet → Nat
  | .empty => 1
  | .range _ last => last.utf8Size
  | .property (.category k) => 2 * k.chars.size + 1
  | .property .any | .property .ascii | .property .blank => 8
  | .property _ => 1400
  | .union s t | .inter s t | .diff s t => s.states + t.states
  | .complement s => s.states + 8
  | .folded s => 2 * s.states

def stateBytes : Nat := 32

mutual

/-- The number of states that an expression takes. -/
def Node.states : Node → Nat
  | .empty | .look _ _ => 1
  | .one set => set.states
  | .seq nodes | .choice nodes => statesOfAll nodes + 1
  | .repeated node least most => (max least (most.getD (least + 1))) * (node.states + 1) + 1

def statesOfAll : List Node → Nat
  | [] => 0
  | node :: nodes => node.states + statesOfAll nodes

end

def nodeOf (pattern : String) : Except Refusal Node :=
  match readPattern pattern with
  | .error f => .error (.fault f)
  | .ok p =>
    match compile {} p with
    | .error f => .error (.fault f)
    | .ok (node, _) => if node.states * stateBytes ≤ sizeLimit then .ok node else .error .tooLarge

end LayerLint.Regex

namespace LayerLint

/-- A regular expression together with the pattern that it was read from. -/
structure Regex where
  pattern : String
  node : Regex.Node

namespace Regex

def ofPattern (pattern : String) : Except Refusal Regex :=
  (nodeOf pattern).map fun node => ⟨pattern, node⟩

/-- Whether the expression fits some part of a text. -/
def isMatch (re : Regex) (text : String) : Bool :=
  re.node.isFoundIn text

end Regex

end LayerLint
