import LayerLint.Regex.Pattern

/-! The properties that patterns name. -/

namespace LayerLint.Regex

/-- A name without case, blanks, hyphens, underscores and a leading `is`. -/
def normalName (name : String) : String :=
  let cs := ((Text.lowerAscii name).toList.filter fun c =>
    c != ' ' && c != '_' && c != '-' && c.toNat < 128)
  match cs with
  | 'i' :: 's' :: rest => if rest == ['c'] then "isc" else String.ofList rest
  | _ => String.ofList cs

/-- The categories that a name stands for, one or a family of them. -/
def categories? : String → Option (List Text.Category)
  | "lu" | "uppercaseletter" => some [.uppercaseLetter]
  | "ll" | "lowercaseletter" => some [.lowercaseLetter]
  | "lt" | "titlecaseletter" => some [.titlecaseLetter]
  | "lc" | "casedletter" => some [.uppercaseLetter, .lowercaseLetter, .titlecaseLetter]
  | "lm" | "modifierletter" => some [.modifierLetter]
  | "lo" | "otherletter" => some [.otherLetter]
  | "l" | "letter" => some
    [.uppercaseLetter, .lowercaseLetter, .titlecaseLetter, .modifierLetter, .otherLetter]
  | "mn" | "nonspacingmark" => some [.nonspacingMark]
  | "mc" | "spacingmark" => some [.spacingMark]
  | "me" | "enclosingmark" => some [.enclosingMark]
  | "m" | "mark" | "combiningmark" => some [.nonspacingMark, .spacingMark, .enclosingMark]
  | "nd" | "decimalnumber" | "digit" => some [.decimalNumber]
  | "nl" | "letternumber" => some [.letterNumber]
  | "no" | "othernumber" => some [.otherNumber]
  | "n" | "number" => some [.decimalNumber, .letterNumber, .otherNumber]
  | "pc" | "connectorpunctuation" => some [.connector]
  | "pd" | "dashpunctuation" => some [.dash]
  | "ps" | "openpunctuation" => some [.opening]
  | "pe" | "closepunctuation" => some [.closing]
  | "pi" | "initialpunctuation" => some [.initialQuote]
  | "pf" | "finalpunctuation" => some [.finalQuote]
  | "po" | "otherpunctuation" => some [.otherPunctuation]
  | "p" | "punctuation" | "punct" => some
    [.connector, .dash, .opening, .closing, .initialQuote, .finalQuote, .otherPunctuation]
  | "sm" | "mathsymbol" => some [.mathSymbol]
  | "sc" | "currencysymbol" => some [.currencySymbol]
  | "sk" | "modifiersymbol" => some [.modifierSymbol]
  | "so" | "othersymbol" => some [.otherSymbol]
  | "s" | "symbol" => some [.mathSymbol, .currencySymbol, .modifierSymbol, .otherSymbol]
  | "zs" | "spaceseparator" => some [.spaceSeparator]
  | "zl" | "lineseparator" => some [.lineSeparator]
  | "zp" | "paragraphseparator" => some [.paragraphSeparator]
  | "z" | "separator" => some [.spaceSeparator, .lineSeparator, .paragraphSeparator]
  | "cc" | "control" | "cntrl" => some [.control]
  | "cf" | "format" => some [.format]
  | "co" | "privateuse" => some [.privateUse]
  | "cn" | "unassigned" => some [.unassigned]
  | "cs" | "surrogate" => some []
  | "c" | "other" => some [.control, .format, .privateUse, .unassigned]
  | _ => none

def categorySet (ks : List Text.Category) : CharSet :=
  ks.foldr (fun k s => .union (.property (.category k)) s) .empty

def categorySet? (name : String) : Option CharSet :=
  match name with
  | "any" => some (.property .any)
  | "ascii" => some (.property .ascii)
  | "assigned" => some (.complement (.property (.category .unassigned)))
  | name => (categories? name).map categorySet

/-- The characters of a property that has a table of its own. -/
def tableSet? (name : String) : Option CharSet :=
  (Text.binaryProperty? name).map fun k => .property (.named k)

/-- What an identifier may contain by the older definition, but not by the newer one. -/
def compatibilityParts : CharSet :=
  .ofRanges [('\u037A', '\u037A'), ('\u309B', '\u309C'), ('\uFC5E', '\uFC63'),
    ('\uFDFA', '\uFDFB'), ('\uFE70', '\uFE70'), ('\uFE72', '\uFE72'), ('\uFE74', '\uFE74'),
    ('\uFE76', '\uFE76'), ('\uFE78', '\uFE78'), ('\uFE7A', '\uFE7A'), ('\uFE7C', '\uFE7C'),
    ('\uFE7E', '\uFE7E')]

/-- What an identifier may begin with by the older definition, but not by the newer one. -/
def compatibilityStarts : CharSet :=
  .union compatibilityParts
    (.ofRanges [('\u0E33', '\u0E33'), ('\u0EB3', '\u0EB3'), ('\uFF9E', '\uFF9F')])

/-- The characters that may continue an identifier, with the joiners and middle dots. -/
def identifierParts : CharSet :=
  .union (.property .identifierPart)
    (.ofRanges [('\u200C', '\u200D'), ('\u30FB', '\u30FB'), ('\uFF65', '\uFF65')])

/-- The characters of a property that is a matter of yes or no. -/
def binarySet? : String → Option CharSet
  | "alphabetic" | "alpha" => some (.property .alphabetic)
  | "lowercase" | "lower" => some (.property .lowercase)
  | "uppercase" | "upper" => some (.property .uppercase)
  | "cased" => some (.property .cased)
  | "caseignorable" | "ci" => some (.property .caseIgnorable)
  | "whitespace" | "wspace" | "space" => some (.property .blank)
  | "idstart" | "ids" => some (.union (.property .identifierStart) compatibilityStarts)
  | "idcontinue" | "idc" => some (.union identifierParts compatibilityParts)
  | "xidstart" | "xids" => some (.property .identifierStart)
  | "xidcontinue" | "xidc" => some identifierParts
  | "changeswhencasemapped" | "cwcm" =>
    return .union (← tableSet? "cwl") (.union (← tableSet? "cwu") (← tableSet? "cwt"))
  | "graphemebase" | "grbase" =>
    (tableSet? "grext").map fun extenders => .complement (.union extenders (categorySet
      [.control, .format, .privateUse, .unassigned, .lineSeparator, .paragraphSeparator]))
  | name => tableSet? name

def scriptSet? (name : String) : Option CharSet :=
  (Text.script? name).map fun k => .property (.named k)

/-- The characters that a query asks for, or why there are none. -/
def Query.charSet : Query → Except FaultKind CharSet
  | .name n =>
    let name := normalName n
    match (binarySet? name).or ((categorySet? name).or (scriptSet? name)) with
    | some s => .ok s
    | none => .error .propertyNotFound
  | .value n v negated =>
    match normalName n with
    | "gc" | "generalcategory" =>
      match categorySet? (normalName v) with
      | some s => .ok (if negated then .complement s else s)
      | none => .error .propertyValueNotFound
    | "sc" | "script" =>
      match scriptSet? (normalName v) with
      | some s => .ok (if negated then .complement s else s)
      | none => .error .propertyValueNotFound
    | _ => .error .propertyNotFound

end LayerLint.Regex
