import LayerLint.Json.Cursor
import LayerLint.Settings.Basic

/-! Reading settings from a document: by their keys from an object, or in their order from a list.
Keys that are not known are passed over with their values. -/

namespace LayerLint

namespace Json

/-- The type of what comes next, for a fault; whole numbers, texts and words are read for it. -/
def found : Read Found := do
  match ← next? with
  | some 'n' =>
    bump
    readWord ['u', 'l', 'l']
    return .null
  | some 't' =>
    bump
    readWord ['r', 'u', 'e']
    return .bool true
  | some 'f' =>
    bump
    readWord ['a', 'l', 's', 'e']
    return .bool false
  | some '"' => return .string (← readText)
  | some '[' => return .sequence
  | some '\x7b' => return .map
  | some c =>
    let number ← (do
      if c == '-' then
        bump
        readNumber false
      else if isDigit c then readNumber true
      else refuseNext .expectedValue : Read Number)
    match number with
    | .natural n => return .natural n
    | .negative n => return .negative n
    | .float x => return .float (Decimal.text x)
  | none => refuseNext .expectedValue

def refuseType {α : Type} (expected : String) : Read α := do
  refuse (.invalidType (← found) expected)

def readString : Read String := do
  match ← nextPastSpace? with
  | none => refuseNext .endInValue
  | some '"' => readText
  | some _ => refuseType "a string"

def readWhole (expected : String) : Read UInt64 := do
  match ← nextPastSpace? with
  | none => refuseNext .endInValue
  | some c =>
    if c == '-' || isDigit c then
      if c == '-' then bump
      match ← readNumber (c != '-') with
      | .natural n => return n.toUInt64
      | .negative n => refuse (.invalidValue (.negative n) expected)
      | .float x => refuse (.invalidType (.float (Decimal.text x)) expected)
    else refuseType expected

/-- Whether a list has another item. `first` tells that none has been read. -/
def hasItem (first : Bool) : Read Bool := do
  match ← nextPastSpace? with
  | none => refuseNext .endInList
  | some ']' => return false
  | some c =>
    if first then return true
    else if c == ',' then
      bump
      match ← nextPastSpace? with
      | some ']' => refuseNext .trailingComma
      | some _ => return true
      | none => refuseNext .endInValue
    else refuseNext .expectedListEnd

/-- Reads the end of a list. -/
def endList : Read Unit := do
  match ← nextPastSpace? with
  | some ']' => bump
  | some ',' =>
    bump
    match ← nextPastSpace? with
    | some ']' => refuseNext .trailingComma
    | _ => refuseNext .trailingCharacters
  | some _ => refuseNext .trailingCharacters
  | none => refuseNext .endInList

def readItems {α : Type} (item : Read α) : Nat → Bool → Read (List α)
  | 0, _ => return []
  | fuel + 1, first => do
    if ← hasItem first then
      let x ← item
      return x :: (← readItems item fuel false)
    else return []

def readList {α : Type} (item : Read α) : Read (List α) := do
  match ← nextPastSpace? with
  | none => refuseNext .endInValue
  | some '[' =>
    bump
    let items ← readItems item ((← get).rest.length + 1) true
    endList
    return items
  | some _ => refuseType "a sequence"

/-- The place to which the end of a list has been looked for. -/
def afterListEnd (c : Cursor) : Mark :=
  let c := skipSpace c.mark c.rest
  match c.rest with
  | ']' :: _ => c.bump.mark
  | ',' :: _ => (skipSpace c.bump.mark c.bump.rest).mark
  | _ => c.mark

/-- The place to which the end of an object has been looked for. -/
def afterObjectEnd (c : Cursor) : Mark :=
  let c := skipSpace c.mark c.rest
  match c.rest with
  | '\x7d' :: _ => c.bump.mark
  | _ => c.mark

/-- Whether an object has another member. -/
def hasMember (first : Bool) : Read Bool := do
  match ← nextPastSpace? with
  | none => refuseNext .endInObject
  | some '\x7d' => return false
  | some c =>
    if first then
      if c == '"' then return true else refuseNext .keyNotString
    else if c == ',' then
      bump
      match ← nextPastSpace? with
      | some '"' => return true
      | some '\x7d' => refuseNext .trailingComma
      | some _ => refuseNext .keyNotString
      | none => refuseNext .endInValue
    else refuseNext .expectedObjectEnd

def readColon : Read Unit := do
  match ← nextPastSpace? with
  | some ':' => bump
  | some _ => refuseNext .expectedColon
  | none => refuseNext .endInObject

mutual

def skipValue : Nat → Read Unit
  | 0 => return
  | fuel + 1 => do
    match ← nextPastSpace? with
    | none => refuseNext .endInValue
    | some 'n' =>
      bump
      readWord ['u', 'l', 'l']
    | some 't' =>
      bump
      readWord ['r', 'u', 'e']
    | some 'f' =>
      bump
      readWord ['a', 'l', 's', 'e']
    | some '"' => skipText
    | some '[' =>
      bump
      match ← nextPastSpace? with
      | none => refuseNext .endInList
      | some ']' => bump
      | some _ => skipItems fuel
    | some '\x7b' =>
      bump
      match ← nextPastSpace? with
      | none => refuseNext .endInObject
      | some '\x7d' => bump
      | some _ => skipMembers fuel
    | some c =>
      if c == '-' then
        bump
        skipNumber
      else if isDigit c then skipNumber
      else refuseNext .expectedValue

/-- Passes the items of a list and its end; there is at least one. -/
def skipItems : Nat → Read Unit
  | 0 => return
  | fuel + 1 => do
    skipValue fuel
    match ← nextPastSpace? with
    | none => refuseNext .endInList
    | some ',' =>
      bump
      skipItems fuel
    | some ']' => bump
    | some _ => refuseNext .expectedListEnd

/-- Passes the members of an object and its end; there is at least one. -/
def skipMembers : Nat → Read Unit
  | 0 => return
  | fuel + 1 => do
    match ← nextPastSpace? with
    | some '"' => skipText
    | some _ => refuseNext .keyNotString
    | none => refuseNext .endInObject
    readColon
    skipValue fuel
    match ← nextPastSpace? with
    | none => refuseNext .endInObject
    | some ',' =>
      bump
      skipMembers fuel
    | some '\x7d' => bump
    | some _ => refuseNext .expectedObjectEnd

end

end Json

namespace Settings

open Json

/-- Reads the id of a rule in a list. -/
def readRule : Read RuleId := do
  let text ← readString
  match RuleId.ofString? text with
  | some rule => return rule
  | none => throw ⟨.refused (RuleId.unknownMessage text), afterListEnd (← get)⟩

def readValue (s : Settings) : Key → Read Settings
  | .enabledRules => return { s with enabledRules := ← readList readRule }
  | .disabledRules => return { s with disabledRules := ← readList readRule }
  | .maxMethodLines => return { s with maxMethodLines := ← readWhole "usize" }
  | .namingMinWords => return { s with namingMinWords := ← readWhole "usize" }
  | .extensions => return { s with extensions := ← readList readString }
  | .ignores => return { s with ignores := ← readList readString }
  | .excludedDirs => return { s with excludedDirs := ← readList readString }
  | .pageDirs => return { s with pageDirs := ← readList readString }
  | .testDirs => return { s with testDirs := ← readList readString }
  | .testAnnotations => return { s with testAnnotations := ← readList readString }
  | .testFrameworkImports => return { s with testFrameworkImports := ← readList readString }
  | .assertionReceivers => return { s with assertionReceivers := ← readList readString }
  | .assertionCallees => return { s with assertionCallees := ← readList readString }
  | .driverReceivers => return { s with driverReceivers := ← readList readString }
  | .exemptReceivers => return { s with exemptReceivers := ← readList readString }
  | .sensitiveDataPatterns => return { s with sensitiveDataPatterns := ← readList readString }
  | .genericTestNames => return { s with genericTestNames := ← readList readString }
  | .fileTimeoutMs => return { s with fileTimeoutMs := ← readWhole "u64" }
  | .maxFileBytes => return { s with maxFileBytes := ← readWhole "u64" }
  | .maxNesting => return { s with maxNesting := ← readWhole "usize" }

/-- Reads the members of an object; no known key may occur twice. -/
def readMembers : Nat → Bool → List Key → Settings → Read Settings
  | 0, _, _, s => return s
  | fuel + 1, first, seen, s => do
    if ← hasMember first then
      let name ← readText
      match Key.ofName? name with
      | some key =>
        if seen.contains key then
          throw ⟨.duplicateField key.name, afterObjectEnd (← get)⟩
        readColon
        let s ← readValue s key
        readMembers fuel false (key :: seen) s
      | none =>
        readColon
        skipValue (2 * (← get).rest.length + 2)
        readMembers fuel false seen s
    else return s

/-- Reads the values of settings in their order, as many as there are. -/
def readValues : Bool → List Key → Settings → Read Settings
  | _, [], s => return s
  | first, key :: keys, s => do
    if ← hasItem first then
      let s ← readValue s key
      readValues false keys s
    else return s

/-- Reads settings; those that are not mentioned keep their defaults. -/
def read : Read Settings := do
  match ← nextPastSpace? with
  | none => refuseNext .endInValue
  | some '\x7b' =>
    bump
    let s ← readMembers ((← get).rest.length + 1) true [] {}
    match ← nextPastSpace? with
    | some '\x7d' => bump
    | some ',' => refuseNext .trailingComma
    | some _ => refuseNext .trailingCharacters
    | none => refuseNext .endInObject
    return s
  | some '[' =>
    bump
    let s ← readValues true Key.all {}
    endList
    return s
  | some _ => refuseType "struct Config"

def ofText (text : String) : Except Fault Settings :=
  (do
    let s ← read
    match ← nextPastSpace? with
    | some _ => refuseNext .trailingCharacters
    | none => return s : Read Settings).run' { rest := text.toList }

end Settings

end LayerLint
