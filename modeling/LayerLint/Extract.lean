import LayerLint.Engine
import LayerLint.Syntax.Receiver
import LayerLint.Syntax.Walk

/-! From a source text to the models of its classes. A text yields the complete models or a
failure, never a part of them. -/

namespace LayerLint

open Syntax Text

/-- Why a file has no models. -/
inductive ParseFailure where
  | malformed (line : Nat)
  | missing (token : String) (line : Nat)
  | tooDeep (limit line : Nat)
  | timedOut (milliseconds line : Nat)
  | unreadable (reason : String)
  deriving DecidableEq, Repr

namespace ParseFailure

def message : ParseFailure → String
  | .malformed line => s!"syntax error at line {line}"
  | .missing token line => s!"missing '{token}' at line {line}"
  | .tooDeep limit line => s!"nesting deeper than {limit} levels at line {line}"
  | .timedOut ms line => s!"parse timed out after {ms}ms near line {line}"
  | .unreadable reason => s!"could not read file: {reason}"

/-- The line to report; the first one when nothing better is known. -/
def line : ParseFailure → Nat
  | .malformed line | .missing _ line | .tooDeep _ line | .timedOut _ line => max line 1
  | .unreadable _ => 1

end ParseFailure

/-- The outcome for one text. `aborted` is the outcome of a string literal whose content cannot be
cut out at character borders: it ends the run as a whole. -/
inductive Extraction where
  | models (classes : List ClassModel)
  | failed (failure : ParseFailure)
  | aborted
  deriving DecidableEq, Repr

/-- The limits for one text. A deadline has either passed before the start or never passes. -/
structure Budget where
  maxNesting : Nat := 256
  /-- The time allowed in milliseconds, when it is already over. -/
  expired : Option Nat := none

/-- The nodes entered in one line of descent, whatever the nesting limit. -/
def treeLimit : Nat := 4096

/-- What one node of a method body contributes. -/
inductive Fact where
  | call (offset : Nat) (call : Call)
  | literal (offset : Nat) (literal : Literal)
  | branch (branch : Branch)

namespace Fact

def call? : Fact → Option (Nat × Call)
  | .call offset c => some (offset, c)
  | _ => none

def literal? : Fact → Option (Nat × Literal)
  | .literal offset l => some (offset, l)
  | _ => none

def branch? : Fact → Option Branch
  | .branch b => some b
  | _ => none

end Fact

/-- The literal argument that a visited node is, if it is one: its kind, its callee and its value;
the value is `none` where it cannot be cut out. -/
def literalAt? (d : Dialect) (src : Source) (v : Visit) :
    Option (LiteralKind × String × Option String) :=
  match v.mode with
  | .body (some callee) =>
    if (d.call? src v.around v.tree).isSome then none
    else (d.literalKind? v.tree.kind).map fun kind =>
      (kind, callee, match kind with
        | .string => unquote (v.tree.text src)
        | .number => some (v.tree.text src))
  | _ => none

def factsAt (d : Dialect) (src : Source) (v : Visit) : List Fact :=
  let branch := (d.construct? v.tree.kind).map fun name => Fact.branch ⟨name, v.tree.line⟩
  let call := (d.call? src v.around v.tree).map fun c =>
    Fact.call c.place.start.offset
      ⟨(c.receiver.map (receiverHint src)).getD "", c.callee, c.place.line⟩
  let literal := (literalAt? d src v).bind fun (kind, callee, value) =>
    value.map fun value => Fact.literal v.tree.start.offset ⟨kind, value, callee, v.tree.line⟩
  branch.toList ++ call.toList ++ literal.toList

/-- The rows on which code stands strictly inside the delimiters of a body. -/
def codeRows (d : Dialect) (body : Tree) : List Nat :=
  let isDelimiter := fun leaf : Tree =>
    if body.kind == .arrowClause then leaf.kind == .token "=>"
    else leaf.start.offset == body.start.offset || leaf.stop.offset == body.stop.offset
  ((leaves body).filter fun leaf => !isDelimiter leaf && !d.isComment leaf.kind).map (·.start.row)

def countDistinct (ns : List Nat) : Nat :=
  ns.eraseDups.length

/-- An item put in front of the first one that does not come before it. -/
def insertInOrder {α : Type} (item : Nat × α) : List (Nat × α) → List (Nat × α)
  | [] => [item]
  | next :: rest =>
    if item.1 ≤ next.1 then item :: next :: rest else next :: insertInOrder item rest

/-- The items in the order of their offsets; those at one offset keep their order. -/
def inOrder {α : Type} (items : List (Nat × α)) : List α :=
  (items.foldr insertInOrder []).map (·.2)

/-- The model of a method, given its body and what the nodes of the body contribute. -/
def methodOf (d : Dialect) (src : Source) (member body : Tree) (facts : List Fact) : Method :=
  let name := member.child? .name
  let last := if body.kind == .arrowClause then member else body
  { name := (name.map (·.text src)).getD ""
    firstLine := (name.getD member).line
    lastLine := last.stop.row + 1
    bodyLines := countDistinct (codeRows d body)
    annotations := d.annotations src member
    calls := inOrder (facts.filterMap Fact.call?)
    literals := inOrder (facts.filterMap Fact.literal?)
    branches := inOrder ((facts.filterMap Fact.branch?).map fun b => (b.line, b)) }

/-- The model of a method declaration with a body. -/
def methodModel (d : Dialect) (src : Source) (v : Visit) : Option Method :=
  (d.methodBody? v.tree).map fun body =>
    methodOf d src v.tree body
      ((bodyVisits d src (v.tree :: v.around) body).flatMap (factsAt d src))

def classModel (d : Dialect) (src : Source) (imports : List Import) (type : Tree) : ClassModel :=
  let name := type.child? .name
  { name := (name.map (·.text src)).getD ""
    line := (name.getD type).line
    imports
    methods := ((memberVisits d src type).filter (·.mode == .method)).filterMap
      (methodModel d src) }

/-- What stops the walk at a visited node. -/
def stopAt (d : Dialect) (src : Source) (maxNesting : Nat) (v : Visit) : Option Extraction :=
  if v.mode.enters && maxNesting < v.depth.scopes then
    some (.failed (.tooDeep maxNesting v.tree.line))
  else if v.mode.enters && treeLimit < v.depth.nodes then
    some (.failed (.tooDeep treeLimit v.tree.line))
  else
    match literalAt? d src v with
    | some (_, _, none) => some .aborted
    | _ => none

/-- The models of the types declared in a tree, in the order of the walk. -/
def classesOf (d : Dialect) (src : Source) (maxNesting : Nat) (root : Tree) : Extraction :=
  let met := visitsOfFile d src root
  match met.findSome? (stopAt d src maxNesting) with
  | some stopped => stopped
  | none =>
    let imports := (met.filter (·.mode == .importing)).filterMap fun v =>
      (d.importName? src v.tree).map fun name => Import.mk name v.tree.line
    .models ((met.filter (·.mode == .type)).map fun v => classModel d src imports v.tree)

def tokenName : Kind → String
  | .token text => text
  | .typeIdentifier => "type_identifier"
  | _ => "identifier"

/-- The models of the types that a text declares. -/
def extract [Engine] (d : Dialect) (budget : Budget) (text : String) : Extraction :=
  match budget.expired with
  | some ms => .failed (.timedOut ms 1)
  | none =>
    let src := Source.ofString text
    let root := Engine.parse d src
    match firstFlaw root with
    | some flaw =>
      if flaw.tag.missing then .failed (.missing (tokenName flaw.kind) flaw.line)
      else .failed (.malformed flaw.line)
    | none => classesOf d src budget.maxNesting root

end LayerLint
