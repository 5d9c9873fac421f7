import LayerLint.Text.Category

/-! Texts in quotes, as messages show them: what cannot be seen is escaped. -/

namespace LayerLint.Text

/-- The categories of the characters that do not show as themselves. -/
def hiddenCategories : List Category :=
  [.control, .format, .privateUse, .unassigned, .spaceSeparator, .lineSeparator,
    .paragraphSeparator, .nonspacingMark, .enclosingMark]

/-- Whether a character shows as itself: it is assigned, no control or format character, no
separator other than the blank, and does not combine with the character before it. -/
def isVisible (c : Char) : Bool :=
  if c.toNat < 128 then 32 ≤ c.toNat && c.toNat < 127
  else !hiddenCategories.any (·.contains c)

/-- How a character is shown; an apostrophe is escaped only where that is asked for. -/
def visibleForm (apostrophe : Bool) (c : Char) : String :=
  match c with
  | '"' => "\\\""
  | '\\' => "\\\\"
  | '\n' => "\\n"
  | '\r' => "\\r"
  | '\t' => "\\t"
  | '\x00' => "\\0"
  | c =>
    if c.toNat == 39 then (if apostrophe then "\\" ++ String.singleton c else String.singleton c)
    else if isVisible c then String.singleton c
    else "\\u\x7b" ++ String.ofList (Nat.toDigits 16 c.toNat) ++ "\x7d"

def inQuotes (s : String) : String :=
  "\"" ++ String.join (s.toList.map (visibleForm false)) ++ "\""

def pathInQuotes (s : String) : String :=
  "\"" ++ String.join (s.toList.map (visibleForm true)) ++ "\""

end LayerLint.Text
