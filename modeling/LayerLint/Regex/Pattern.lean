import LayerLint.Regex.Basic
import LayerLint.Regex.Fault

/-! Patterns: the syntax of regular expressions and how it is read. A pattern is read from left to
right, and the first fault met is the one that counts. -/

namespace LayerLint.Regex

/-! ### Syntax -/

inductive Flag where
  | caseInsensitive
  | multiLine
  | dotAll
  | swapGreed
  | unicode
  | crlf
  | verbose
  deriving DecidableEq, Repr

def Flag.ofChar? : Char → Option Flag
  | 'i' => some .caseInsensitive
  | 'm' => some .multiLine
  | 's' => some .dotAll
  | 'U' => some .swapGreed
  | 'u' => some .unicode
  | 'R' => some .crlf
  | 'x' => some .verbose
  | _ => none

/-- The flags that a group or a setting turns on and off. -/
abbrev FlagChanges := List (Flag × Bool)

/-- A literal character; one that is written by two hexadecimal digits may stand for a byte. -/
structure Literal where
  char : Char
  isByte : Bool := false
  deriving DecidableEq, Repr

inductive PerlClass where
  | digit
  | space
  | word
  deriving DecidableEq, Repr

/-- What a named property asks for. -/
inductive Query where
  | name (n : String)
  | value (name value : String) (negated : Bool)
  deriving DecidableEq, Repr

inductive SetOperator where
  | inter
  | diff
  | symmetricDiff
  deriving DecidableEq, Repr

/-- A character class as it is written. -/
inductive SetSyntax where
  | empty (span : Span)
  | literal (c : Literal) (span : Span)
  | range (first last : Literal) (span : Span)
  | posix (ranges : List (Char × Char)) (negated : Bool) (span : Span)
  | perl (k : PerlClass) (negated : Bool) (span : Span)
  | property (q : Query) (negated : Bool) (span : Span)
  | union (items : List SetSyntax) (span : Span)
  | operation (op : SetOperator) (s t : SetSyntax) (span : Span)
  | bracketed (negated : Bool) (body : SetSyntax) (span : Span)

def SetSyntax.span : SetSyntax → Span
  | .empty span | .literal _ span | .range _ _ span | .posix _ _ span | .perl _ _ span
  | .property _ _ span | .union _ span | .operation _ _ _ span | .bracketed _ _ span => span

inductive BoundaryKind where
  | textStart
  | textEnd
  | caret
  | dollar
  | word (l : Look)
  deriving DecidableEq, Repr

/-- A pattern as it is written. -/
inductive Pattern where
  | empty
  | flags (changes : FlagChanges)
  | literal (c : Literal) (span : Span)
  | dot (span : Span)
  | boundary (k : BoundaryKind) (span : Span)
  | set (s : SetSyntax)
  | repeated (p : Pattern) (least : Nat) (most : Option Nat) (span : Span)
  | group (changes : FlagChanges) (p : Pattern) (span : Span)
  | seq (parts : List Pattern) (span : Span)
  | choice (branches : List Pattern) (span : Span)

/-! ### Reading -/

/-- Where a reader stands in a pattern, and what it knows: whether blanks count for nothing, and
the names of the groups so far. -/
structure Reader where
  rest : List Char
  pos : Nat := 0
  verbose : Bool := false
  names : List (String × Span) := []

abbrev Read := StateT Reader (Except Fault)

def refuse {α : Type} (kind : FaultKind) (start stop : Nat) (other : Option Span := none) :
    Read α :=
  throw ⟨kind, ⟨start, stop⟩, other⟩

def next? : Read (Option Char) :=
  return (← get).rest.head?

def atEnd : Read Bool :=
  return (← get).rest.isEmpty

def nextIs (c : Char) : Read Bool :=
  return (← get).rest.head? == some c

def position : Read Nat :=
  return (← get).pos

/-- Passes one character; whether there is another one after it. -/
def bump : Read Bool := do
  let st ← get
  match st.rest with
  | [] => return false
  | _ :: rest =>
    set { st with rest, pos := st.pos + 1 }
    return !rest.isEmpty

def bumpIf (text : String) : Read Bool := do
  let st ← get
  match text.toList.isPrefixOf? st.rest with
  | some rest =>
    set { st with rest, pos := st.pos + text.length }
    return true
  | none => return false

/-- The length of the blanks and comments at the start of a text. -/
def spaceLength (inComment : Bool) : List Char → Nat
  | [] => 0
  | c :: cs =>
    if inComment then 1 + spaceLength (c != '\n') cs
    else if Text.isBlank c then 1 + spaceLength false cs
    else if c == '#' then 1 + spaceLength true cs
    else 0

/-- Passes blanks and comments where they count for nothing. -/
def bumpSpace : Read Unit := do
  let st ← get
  if st.verbose then
    let n := spaceLength false st.rest
    set { st with rest := st.rest.drop n, pos := st.pos + n }

/-- Passes one character and the space after it; whether there is more. -/
def bumpOver : Read Bool := do
  let _ ← bump
  bumpSpace
  return !(← atEnd)

/-- The character after the next one, past space. -/
def peekOver : Read (Option Char) := do
  let st ← get
  let rest := st.rest.drop 1
  return (if st.verbose then rest.drop (spaceLength false rest) else rest).head?

/-! ### Escapes -/

def isMeta (c : Char) : Bool :=
  "\\.+*?()|[]\x7b\x7d^$#&-~".toList.contains c

/-- Characters that may be escaped although they mean nothing else. -/
def isEscapable (c : Char) : Bool :=
  c.toNat < 128 && !Text.isAsciiLetter c && !Text.isAsciiDigit c && c != '<' && c != '>'

def hexValue? (c : Char) : Option Nat :=
  if Text.isAsciiDigit c then some (c.toNat - 48)
  else if 'a' ≤ c && c ≤ 'f' then some (c.toNat - 87)
  else if 'A' ≤ c && c ≤ 'F' then some (c.toNat - 55)
  else none

def charOfHex? (digits : List Nat) : Option Char :=
  let n := digits.foldl (fun n d => 16 * n + d) 0
  if h : n.isValidChar then some (Char.ofNatAux n h) else none

def readHexDigits : Nat → List Nat → Read (List Nat)
  | 0, digits => return digits.reverse
  | n + 1, digits => do
    if !digits.isEmpty then
      unless ← bumpOver do refuse .escapeIncomplete (← position) (← position)
    match (← next?).bind hexValue? with
    | some d => readHexDigits n (d :: digits)
    | none => refuse .hexDigit (← position) ((← position) + 1)

def readHexBrace : Nat → List Nat → Read (List Nat)
  | 0, digits => return digits.reverse
  | fuel + 1, digits => do
    if (← bumpOver) && !(← nextIs '\x7d') then
      match (← next?).bind hexValue? with
      | some d => readHexBrace fuel (d :: digits)
      | none => refuse .hexDigit (← position) ((← position) + 1)
    else return digits.reverse

/-- Reads the digits of an escape such as `\x41`, from its letter on. -/
def readHex : Read Literal := do
  let letter ← next?
  unless ← bumpOver do refuse .escapeIncomplete (← position) (← position)
  let start ← position
  if ← nextIs '\x7b' then
    let digits ← readHexBrace ((← get).rest.length + 1) []
    if ← atEnd then refuse .escapeIncomplete start (← position)
    let stop ← position
    let _ ← bumpOver
    if digits.isEmpty then refuse .hexEmpty start (← position)
    match charOfHex? digits with
    | some char => return { char }
    | none => refuse .hexInvalid (start + 1) stop
  else
    let count := if letter == some 'x' then 2 else if letter == some 'u' then 4 else 8
    let digits ← readHexDigits count []
    let _ ← bumpOver
    match charOfHex? digits with
    | some char => return { char, isByte := letter == some 'x' }
    | none => refuse .hexInvalid start (← position)

/-- Reads the name of a property up to its closing brace. -/
def readBraced : Nat → List Char → Read (List Char)
  | 0, name => return name.reverse
  | fuel + 1, name => do
    if (← bumpOver) && !(← nextIs '\x7d') then
      readBraced fuel ((← next?).toList ++ name)
    else return name.reverse

/-- The two parts of a text around the first occurrence of another one. -/
def splitAround (sep : List Char) : List Char → Option (List Char × List Char)
  | [] => none
  | c :: cs =>
    match sep.isPrefixOf? (c :: cs) with
    | some rest => some ([], rest)
    | none => (splitAround sep cs).map fun (before, after) => (c :: before, after)

def queryOf (name : List Char) : Query :=
  let part := fun sep negated => (splitAround sep name).map fun (n, v) =>
    Query.value (String.ofList n) (String.ofList v) negated
  match part ['!', '='] true with
  | some q => q
  | none =>
    match part [':'] false with
    | some q => q
    | none =>
      match part ['='] false with
      | some q => q
      | none => .name (String.ofList name)

/-- Reads the property of an escape such as `\pL`, from its letter on. -/
def readProperty (start : Nat) : Read SetSyntax := do
  let negated ← nextIs 'P'
  unless ← bumpOver do refuse .escapeIncomplete (← position) (← position)
  if ← nextIs '\x7b' then
    let name ← readBraced ((← get).rest.length + 1) []
    if ← atEnd then refuse .escapeIncomplete (← position) (← position)
    let _ ← bump
    return .property (queryOf name) negated ⟨start, ← position⟩
  else
    if ← nextIs '\\' then refuse .propertyInvalid (← position) ((← position) + 1)
    let name := (← next?).toList
    let _ ← bumpOver
    return .property (.name (String.ofList name)) negated ⟨start, ← position⟩

/-- What an escape or a single character stands for. -/
inductive Primitive where
  | literal (c : Literal) (span : Span)
  | boundary (k : BoundaryKind) (span : Span)
  | set (s : SetSyntax) (span : Span)

def Primitive.span : Primitive → Span
  | .literal _ span | .boundary _ span | .set _ span => span

def isBoundaryChar (c : Char) : Bool :=
  Text.isAsciiLetter c || c == '-'

def readBoundaryName : Nat → List Char → Read (List Char)
  | 0, name => return name.reverse
  | fuel + 1, name => do
    match ← next? with
    | some c =>
      if isBoundaryChar c then
        let _ ← bumpOver
        readBoundaryName fuel (c :: name)
      else return name.reverse
    | none => return name.reverse

/-- Reads what stands in braces after `\b`, unless it is the count of a repetition. -/
def readBoundaryKind (boundary : Nat) : Read (Option Look) := do
  let st ← get
  unless ← bumpOver do refuse .boundaryIncomplete boundary (← position)
  let contents ← position
  if !(← next?).any isBoundaryChar then
    set st
    return none
  let name ← readBoundaryName (st.rest.length + 1) []
  unless ← nextIs '\x7d' do refuse .boundaryUnclosed st.pos (← position)
  let stop ← position
  let _ ← bump
  match String.ofList name with
  | "start" => return some .wordStart
  | "end" => return some .wordEnd
  | "start-half" => return some .wordStartHalf
  | "end-half" => return some .wordEndHalf
  | _ => refuse .boundaryUnknown contents stop

def specialChar? : Char → Option Char
  | 'a' => some '\x07'
  | 'f' => some '\x0c'
  | 't' => some '\t'
  | 'n' => some '\n'
  | 'r' => some '\r'
  | 'v' => some '\x0b'
  | _ => none

def boundaryOf? : Char → Option BoundaryKind
  | 'A' => some .textStart
  | 'z' => some .textEnd
  | 'b' => some (.word .wordBoundary)
  | 'B' => some (.word .notWordBoundary)
  | '<' => some (.word .wordStart)
  | '>' => some (.word .wordEnd)
  | _ => none

def perlOf? : Char → Option (PerlClass × Bool)
  | 'd' => some (.digit, false)
  | 'D' => some (.digit, true)
  | 's' => some (.space, false)
  | 'S' => some (.space, true)
  | 'w' => some (.word, false)
  | 'W' => some (.word, true)
  | _ => none

def readEscape : Read Primitive := do
  let start ← position
  unless ← bump do refuse .escapeIncomplete start (← position)
  let c := (← next?).getD ' '
  if Text.isAsciiDigit c then refuse .backreference start ((← position) + 1)
  if c == 'x' || c == 'u' || c == 'U' then
    let literal ← readHex
    return .literal literal ⟨start, ← position⟩
  if c == 'p' || c == 'P' then
    let s ← readProperty start
    return .set s ⟨start, ← position⟩
  let _ ← bump
  let span : Span := ⟨start, ← position⟩
  if let some (k, negated) := perlOf? c then return .set (.perl k negated span) span
  if isMeta c || isEscapable c then return .literal { char := c } span
  if let some special := specialChar? c then return .literal { char := special } span
  match boundaryOf? c with
  | some k =>
    if c == 'b' && (← nextIs '\x7b') then
      match ← readBoundaryKind start with
      | some l => return .boundary (.word l) ⟨start, ← position⟩
      | none => return .boundary k span
    else return .boundary k span
  | none => refuse .escapeUnknown start span.stop

/-! ### Classes -/

/-- The ranges of a class such as `[:alpha:]`. -/
def posixRanges? : String → Option (List (Char × Char))
  | "alnum" => some [('0', '9'), ('A', 'Z'), ('a', 'z')]
  | "alpha" => some [('A', 'Z'), ('a', 'z')]
  | "ascii" => some [('\x00', '\x7f')]
  | "blank" => some [('\t', '\t'), (' ', ' ')]
  | "cntrl" => some [('\x00', '\x1f'), ('\x7f', '\x7f')]
  | "digit" => some [('0', '9')]
  | "graph" => some [('!', '~')]
  | "lower" => some [('a', 'z')]
  | "print" => some [(' ', '~')]
  | "punct" => some [('!', '/'), (':', '@'), ('[', '\x60'), ('\x7b', '~')]
  | "space" => some [('\t', '\r'), (' ', ' ')]
  | "upper" => some [('A', 'Z')]
  | "word" => some [('0', '9'), ('A', 'Z'), ('_', '_'), ('a', 'z')]
  | "xdigit" => some [('0', '9'), ('A', 'F'), ('a', 'f')]
  | _ => none

/-- A class such as `[:alpha:]` at the start of a text, with its length. -/
def posixAt? (cs : List Char) : Option (List (Char × Char) × Bool × Nat) :=
  match cs with
  | '[' :: ':' :: rest =>
    let negated := rest.head? == some '^'
    let body := if negated then rest.drop 1 else rest
    let name := body.takeWhile (· != ':')
    match body.drop name.length with
    | ':' :: ']' :: _ =>
      (posixRanges? (String.ofList name)).map fun ranges =>
        (ranges, negated, name.length + (if negated then 5 else 4))
    | _ => none
  | _ => none

def readSetPrimitive : Read Primitive := do
  if ← nextIs '\\' then readEscape
  else
    let start ← position
    let c := (← next?).getD ' '
    let _ ← bump
    return .literal { char := c } ⟨start, start + 1⟩

def Primitive.asSet : Primitive → Read SetSyntax
  | .literal c span => return .literal c span
  | .set s _ => return s
  | .boundary _ span => refuse .classEscape span.start span.stop

def Primitive.asBound : Primitive → Read Literal
  | .literal c _ => return c
  | p => refuse .classRangeLiteral p.span.start p.span.stop

/-- Reads a member or a range of members. `opening` is the stretch that opens the class. -/
def readSetRange (opening : Span) : Read SetSyntax := do
  let first ← readSetPrimitive
  bumpSpace
  if ← atEnd then refuse .classUnclosed opening.start opening.stop
  let after ← peekOver
  if !(← nextIs '-') || after == some ']' || after == some '-' then first.asSet
  else
    unless ← bumpOver do refuse .classUnclosed opening.start opening.stop
    let last ← readSetPrimitive
    let span : Span := ⟨first.span.start, last.span.stop⟩
    let a ← first.asBound
    let b ← last.asBound
    if a.char ≤ b.char then return .range a b span
    else refuse .classRange span.start span.stop

/-- What has been read of a class, or of a side of an operator in it: where it starts and its
members so far. -/
structure Side where
  start : Nat
  items : List SetSyntax := []

namespace Side

def add (side : Side) (item : SetSyntax) : Side :=
  { side with items := side.items ++ [item] }

/-- The members as one class. -/
def whole (side : Side) : SetSyntax :=
  match side.items with
  | [] => .empty ⟨side.start, side.start⟩
  | [item] => item
  | item :: items =>
    .union (item :: items) ⟨item.span.start, (items.getLastD item).span.stop⟩

end Side

/-- Reads the hyphens at the start of a class. -/
def readHyphens (start : Nat) : Nat → Side → Read Side
  | 0, side => return side
  | fuel + 1, side => do
    if ← nextIs '-' then
      let here ← position
      unless ← bumpOver do refuse .classUnclosed start start
      readHyphens start fuel (side.add (.literal { char := '-' } ⟨here, here + 1⟩))
    else return side

/-- Reads the start of a class: whether it is negated, and the members that stand for themselves
only there. -/
def readSetOpening : Read (Bool × Side × Span) := do
  let start ← position
  unless ← bumpOver do refuse .classUnclosed start (← position)
  let negated ← nextIs '^'
  if negated then
    unless ← bumpOver do refuse .classUnclosed start (← position)
  let side ← readHyphens start ((← get).rest.length + 1) { start := ← position }
  if side.items.isEmpty && (← nextIs ']') then
    let here ← position
    unless ← bumpOver do refuse .classUnclosed start (← position)
    return (negated, side.add (.literal { char := ']' } ⟨here, here + 1⟩), ⟨start, ← position⟩)
  return (negated, side, ⟨start, ← position⟩)

def operatorAt? : List Char → Option SetOperator
  | '&' :: '&' :: _ => some .inter
  | '-' :: '-' :: _ => some .diff
  | '~' :: '~' :: _ => some .symmetricDiff
  | _ => none

/-- An operator with its left side, if there is one, over what follows it. -/
def closeOperand : Option (SetOperator × SetSyntax) → SetSyntax → SetSyntax
  | none, s => s
  | some (op, left), s => .operation op left s ⟨left.span.start, s.span.stop⟩

mutual

def readSet : Nat → Read SetSyntax
  | 0 => return { start := ← position : Side }.whole
  | fuel + 1 => do
    let (negated, side, opening) ← readSetOpening
    readSetRest fuel negated opening none side

/-- Reads the rest of a class: `left` is an operator that waits for its right side, `side` what has
been read since. -/
def readSetRest (fuel : Nat) (negated : Bool) (opening : Span)
    (left : Option (SetOperator × SetSyntax)) (side : Side) : Read SetSyntax := do
  match fuel with
  | 0 => return side.whole
  | fuel + 1 =>
    bumpSpace
    if ← atEnd then refuse .classUnclosed opening.start opening.stop
    let here ← position
    let rest := (← get).rest
    if ← nextIs '[' then
      match posixAt? rest with
      | some (ranges, isNegated, length) =>
        modify fun st => { st with rest := st.rest.drop length, pos := st.pos + length }
        readSetRest fuel negated opening left
          (side.add (.posix ranges isNegated ⟨here, here + length⟩))
      | none =>
        let inner ← readSet fuel
        readSetRest fuel negated opening left (side.add inner)
    else if ← nextIs ']' then
      let _ ← bump
      return .bracketed negated (closeOperand left side.whole) ⟨opening.start, ← position⟩
    else
      match operatorAt? rest with
      | some op =>
        let _ ← bump
        let _ ← bump
        readSetRest fuel negated opening (some (op, closeOperand left side.whole))
          { start := ← position }
      | none =>
        let item ← readSetRange opening
        readSetRest fuel negated opening left (side.add item)

end

/-! ### Groups and repetitions -/

/-- Reads flags up to the mark that ends them. `negation` is the place of a hyphen that waits for a
flag, `hyphen` that of the first hyphen. -/
def readFlags : Nat → Option Nat → Option Nat → List (Flag × Bool × Nat) → Read FlagChanges
  | 0, _, _, changes => return changes.map fun (f, on, _) => (f, on)
  | fuel + 1, negation, hyphen, changes => do
    let here ← position
    match ← next? with
    | none => refuse .flagIncomplete here here
    | some c =>
      if c == ':' || c == ')' then
        match negation with
        | some place => refuse .flagDangling place (place + 1)
        | none => return changes.map fun (f, on, _) => (f, on)
      else if c == '-' then
        if let some place := hyphen then
          refuse .flagNegationTwice here (here + 1) (some ⟨place, place + 1⟩)
        unless ← bump do refuse .flagIncomplete (← position) (← position)
        readFlags fuel (some here) (some here) changes
      else
        match Flag.ofChar? c with
        | none => refuse .flagUnknown here (here + 1)
        | some f =>
          if let some (_, _, place) := changes.find? (·.1 == f) then
            refuse .flagDuplicate here (here + 1) (some ⟨place, place + 1⟩)
          unless ← bump do refuse .flagIncomplete (← position) (← position)
          readFlags fuel none hyphen (changes ++ [(f, hyphen.isNone, here)])

def isNameChar (isFirst : Bool) (c : Char) : Bool :=
  c == '_' || Text.isAlphabetic c ||
    (!isFirst && (c == '.' || c == '[' || c == ']' ||
      [Text.Category.decimalNumber, .letterNumber, .otherNumber].any (·.contains c)))

def readNameChars (start : Nat) : Nat → Read Unit
  | 0 => return
  | fuel + 1 => do
    match ← next? with
    | none => return
    | some c =>
      if c == '>' then return
      let here ← position
      unless isNameChar (here == start) c do refuse .nameInvalid here (here + 1)
      let _ ← bump
      readNameChars start fuel

/-- Reads the name of a group up to its closing mark. -/
def readName : Read Unit := do
  let st ← get
  let start := st.pos
  if ← atEnd then refuse .nameIncomplete start start
  readNameChars start (st.rest.length + 1)
  let stop ← position
  if ← atEnd then refuse .nameIncomplete stop stop
  let _ ← bump
  let name := String.ofList (st.rest.take (stop - start))
  if name.isEmpty then refuse .nameEmpty start start
  if let some (_, span) := st.names.find? (·.1 == name) then
    refuse .nameDuplicate start stop (some span)
  modify fun st => { st with names := st.names ++ [(name, ⟨start, stop⟩)] }

/-- What a parenthesis opens: a setting of flags, or a group with flags of its own. -/
inductive Opening where
  | setting (changes : FlagChanges)
  | group (changes : FlagChanges)

/-- Reads the start of a group from its parenthesis on. -/
def readOpening : Read Opening := do
  let start ← position
  let _ ← bumpOver
  if (← bumpIf "?=") || (← bumpIf "?!") || (← bumpIf "?<=") || (← bumpIf "?<!") then
    refuse .lookAround start (← position)
  let inner ← position
  if (← bumpIf "?P<") || (← bumpIf "?<") then
    readName
    return .group []
  else if ← bumpIf "?" then
    if ← atEnd then refuse .groupUnclosed start (start + 1)
    let changes ← readFlags ((← get).rest.length + 1) none none []
    let isSetting ← nextIs ')'
    let _ ← bump
    if isSetting then
      if changes.isEmpty then refuse .repetitionMissing inner inner
      return .setting changes
    else return .group changes
  else return .group []

/-- The largest count that a repetition may have. -/
def countLimit : Nat := 4294967295

/-- Passes blanks, and with them what counts as space if `comments` is set. -/
def skipBlanks (comments : Bool) : Nat → Read Unit
  | 0 => return
  | fuel + 1 => do
    if (← next?).any Text.isBlank then
      if comments then let _ ← bumpOver
      else let _ ← bump
      skipBlanks comments fuel

def readDigits : Nat → List Nat → Read (List Nat)
  | 0, digits => return digits.reverse
  | fuel + 1, digits => do
    match ← next? with
    | some c =>
      if Text.isAsciiDigit c then
        let _ ← bumpOver
        readDigits fuel ((c.toNat - 48) :: digits)
      else return digits.reverse
    | none => return digits.reverse

/-- Reads a count; a missing one gives the fault with which it is refused where it is needed. -/
def readCount : Read (Except Fault Nat) := do
  let fuel := (← get).rest.length + 1
  skipBlanks false fuel
  let start ← position
  let digits ← readDigits fuel []
  let span : Span := ⟨start, ← position⟩
  skipBlanks true fuel
  if digits.isEmpty then return .error ⟨.countEmpty, span, none⟩
  let n := digits.foldl (fun n d => 10 * n + d) 0
  if n ≤ countLimit then return .ok n else return .error ⟨.decimalInvalid, span, none⟩

/-- Reads the counts of a repetition from its brace on. -/
def readCounts : Read (Nat × Option Nat) := do
  let start ← position
  unless ← bumpOver do refuse .countUnclosed start (← position)
  let first ← readCount
  if ← atEnd then refuse .countUnclosed start (← position)
  let (least, most) ← (do
    if ← nextIs ',' then
      unless ← bumpOver do refuse .countUnclosed start (← position)
      if ← nextIs '\x7d' then return (← (first : Except Fault Nat), none)
      else
        let least ← (first : Except Fault Nat)
        let most ← (← readCount : Except Fault Nat)
        return (least, some most)
    else
      let n ← (first : Except Fault Nat)
      return (n, some n) : Read (Nat × Option Nat))
  unless ← nextIs '\x7d' do refuse .countUnclosed start (← position)
  if (← bumpOver) && (← nextIs '?') then let _ ← bump
  if most.any (· < least) then refuse .countRange start (← position)
  return (least, most)

/-- The last part of a sequence, if a repetition can apply to it. -/
def repeatable? (parts : List Pattern) : Option (List Pattern × Pattern) :=
  match parts.getLast? with
  | none | some .empty | some (.flags _) => none
  | some p => some (parts.dropLast, p)

/-- Where a part of a sequence starts to which a repetition can apply. -/
def Pattern.start : Pattern → Nat
  | .empty | .flags _ => 0
  | .literal _ span | .dot span | .boundary _ span => span.start
  | .set s => s.span.start
  | .repeated _ _ _ span | .group _ _ span | .seq _ span | .choice _ span => span.start

/-- What has been read of a group: where its content starts, its branches so far, and of the
branch that is being read its start and its parts. -/
structure Draft where
  start : Nat
  branches : List Pattern := []
  branchStart : Nat := start
  parts : List Pattern := []

namespace Draft

def add (d : Draft) (part : Pattern) : Draft :=
  { d with parts := d.parts ++ [part] }

/-- The branch that is being read, if it stops here. -/
def branch (d : Draft) (stop : Nat) : Pattern :=
  match d.parts with
  | [] => .empty
  | [p] => p
  | parts => .seq parts ⟨d.branchStart, stop⟩

/-- The group goes on with a new branch. -/
def fork (d : Draft) (stop next : Nat) : Draft :=
  { d with branches := d.branches ++ [d.branch stop], branchStart := next, parts := [] }

/-- The content of the group, if it stops here. -/
def whole (d : Draft) (stop : Nat) : Pattern :=
  match d.branches with
  | [] => d.branch stop
  | branches => .choice (branches ++ [d.branch stop]) ⟨d.start, stop⟩

end Draft

def Primitive.asPattern : Primitive → Pattern
  | .literal c span => .literal c span
  | .boundary k span => .boundary k span
  | .set s _ => .set s

mutual

/-- Reads the branches of a group up to its parenthesis, or up to the end. `opening` is the place
of the parenthesis that opened the group. -/
def readBranches (fuel : Nat) (opening : Option Nat) (d : Draft) : Read Pattern := do
  match fuel with
  | 0 => return .empty
  | fuel + 1 =>
    bumpSpace
    let here ← position
    match ← next? with
    | none =>
      match opening with
      | some place => refuse .groupUnclosed place (place + 1)
      | none => return d.whole here
    | some ')' =>
      match opening with
      | some _ => return d.whole here
      | none => refuse .groupUnopened here (here + 1)
    | some '|' =>
      let _ ← bump
      readBranches fuel opening (d.fork here (← position))
    | some '(' =>
      let part ← readGroup fuel
      readBranches fuel opening (d.add part)
    | some '[' =>
      let s ← readSet ((← get).rest.length + 1)
      readBranches fuel opening (d.add (.set s))
    | some '?' => readRepetition fuel opening d 0 (some 1)
    | some '*' => readRepetition fuel opening d 0 none
    | some '+' => readRepetition fuel opening d 1 none
    | some '\x7b' =>
      match repeatable? d.parts with
      | none => refuse .repetitionMissing here here
      | some (init, last) =>
        let (least, most) ← readCounts
        let span : Span := ⟨last.start, ← position⟩
        readBranches fuel opening { d with parts := init ++ [.repeated last least most span] }
    | some '\\' =>
      let p ← readEscape
      readBranches fuel opening (d.add p.asPattern)
    | some c =>
      let _ ← bump
      let span : Span := ⟨here, here + 1⟩
      let part : Pattern := match c with
        | '.' => .dot span
        | '^' => .boundary .caret span
        | '$' => .boundary .dollar span
        | c => .literal { char := c } span
      readBranches fuel opening (d.add part)

def readRepetition (fuel : Nat) (opening : Option Nat) (d : Draft) (least : Nat)
    (most : Option Nat) : Read Pattern := do
  match fuel with
  | 0 => return .empty
  | fuel + 1 =>
    match repeatable? d.parts with
    | none => refuse .repetitionMissing (← position) (← position)
    | some (init, last) =>
      if (← bump) && (← nextIs '?') then let _ ← bump
      let span : Span := ⟨last.start, ← position⟩
      readBranches fuel opening { d with parts := init ++ [.repeated last least most span] }

/-- Reads a group, or a setting of flags, from its parenthesis on. -/
def readGroup (fuel : Nat) : Read Pattern := do
  match fuel with
  | 0 => return .empty
  | fuel + 1 =>
    let start ← position
    let old := (← get).verbose
    let verboseAfter := fun changes : FlagChanges =>
      ((changes.find? (·.1 == .verbose)).map (·.2)).getD old
    match ← readOpening with
    | .setting changes =>
      modify fun st => { st with verbose := verboseAfter changes }
      return .flags changes
    | .group changes =>
      modify fun st => { st with verbose := verboseAfter changes }
      let body ← readBranches fuel (some start) { start := ← position }
      modify fun st => { st with verbose := old }
      let _ ← bump
      return .group changes body ⟨start, ← position⟩

end

/-! ### Nesting -/

mutual

/-- The first part of a class that is nested too deep, if there is room for some more levels. -/
def SetSyntax.tooDeep? (room : Nat) : SetSyntax → Option Span
  | .union items span => if room = 0 then some span else itemsTooDeep? (room - 1) items
  | .operation _ s t span =>
    if room = 0 then some span else (s.tooDeep? (room - 1)).or (t.tooDeep? (room - 1))
  | .bracketed _ body span => if room = 0 then some span else body.tooDeep? (room - 1)
  | .empty _ | .literal _ _ | .range _ _ _ | .posix _ _ _ | .perl _ _ _ | .property _ _ _ => none

def itemsTooDeep? (room : Nat) : List SetSyntax → Option Span
  | [] => none
  | item :: items => (item.tooDeep? room).or (itemsTooDeep? room items)

end

mutual

/-- The first part of a pattern that is nested too deep, if there is room for some more levels. -/
def Pattern.tooDeep? (room : Nat) : Pattern → Option Span
  | .set s => s.tooDeep? room
  | .repeated p _ _ span | .group _ p span =>
    if room = 0 then some span else p.tooDeep? (room - 1)
  | .seq parts span | .choice parts span =>
    if room = 0 then some span else partsTooDeep? (room - 1) parts
  | .empty | .flags _ | .literal _ _ | .dot _ | .boundary _ _ => none

def partsTooDeep? (room : Nat) : List Pattern → Option Span
  | [] => none
  | part :: parts => (part.tooDeep? room).or (partsTooDeep? room parts)

end

def readPattern (pattern : String) : Except Fault Pattern := do
  let cs := pattern.toList
  let p ← (readBranches (2 * cs.length + 2) none { start := 0 }).run' { rest := cs }
  match p.tooDeep? nestLimit with
  | some span => throw ⟨.nestLimitExceeded, span, none⟩
  | none => return p

end LayerLint.Regex
