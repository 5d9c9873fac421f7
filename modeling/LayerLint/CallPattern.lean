import LayerLint.Text.Wildcard

/-! Patterns for calls and for namespaces. -/

namespace LayerLint

/-- A pattern for calls such as `Assert*`, `driver` or `page.*`: the segments between its dots, each
with wildcards. -/
structure CallPattern where
  segments : List String
  deriving DecidableEq, Repr

namespace CallPattern

def ofString (pattern : String) : CallPattern :=
  ⟨(Text.pieces '.' pattern.toList).map String.ofList⟩

/-- Whether the pattern speaks of a receiver and a callee. -/
def isQualified (p : CallPattern) : Bool :=
  1 < p.segments.length

/-- Whether the pattern is a single segment that fits a name. A name that is empty fits none. -/
def matchesName (p : CallPattern) (name : String) : Bool :=
  match p.segments with
  | [segment] => !name.isEmpty && Text.wildcardMatches segment name
  | _ => false

/-- Whether the pattern fits a call by its receiver: a single segment is compared with the receiver,
two segments with the receiver and the callee. A call without a receiver fits none. -/
def matchesCall (p : CallPattern) (receiver callee : String) : Bool :=
  !receiver.isEmpty &&
    match p.segments with
    | [segment] => Text.wildcardMatches segment receiver
    | [first, second] => Text.wildcardMatches first receiver && Text.wildcardMatches second callee
    | _ => false

end CallPattern

/-- A reversed text without its endings `.*`. -/
def dropWildcardEnds : List Char → List Char
  | '*' :: '.' :: cs => dropWildcardEnds cs
  | cs => cs

/-- The namespace that a pattern such as `org.junit.*` names: all endings `.*` and then all dots at
its end are left out. -/
def namespaceOf (pattern : String) : List Char :=
  ((dropWildcardEnds pattern.toList.reverse).dropWhile (· == '.')).reverse

/-- Whether a qualified name lies in the namespace that a pattern names; `org.junit` holds
`org.junit.Test` and not `org.junitx.Test`. -/
def liesInNamespace (name pattern : String) : Bool :=
  let space := namespaceOf pattern
  !space.isEmpty &&
    match space.isPrefixOf? name.toList with
    | some [] => true
    | some (c :: _) => c == '.'
    | none => false

end LayerLint
