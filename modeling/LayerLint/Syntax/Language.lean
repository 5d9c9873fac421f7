import LayerLint.Syntax.Tree
import LayerLint.Dialect
import LayerLint.Model
import LayerLint.Text.Name

/-! What the nodes of a syntax tree mean in each language: which of them declare types and methods,
and which are calls, literals, branches and imports. -/

namespace LayerLint.Dialect

open Syntax Text

/-- Declarations that become classes of their own. -/
def declaresType : Dialect → Kind → Bool
  | .java, .classDeclaration | .java, .interfaceDeclaration | .java, .enumDeclaration
  | .java, .recordDeclaration | .java, .annotationTypeDeclaration => true
  | .csharp, .classDeclaration | .csharp, .structDeclaration | .csharp, .interfaceDeclaration
  | .csharp, .recordDeclaration | .csharp, .recordStructDeclaration | .csharp, .enumDeclaration =>
    true
  | _, _ => false

def declaresMethod : Dialect → Kind → Bool
  | _, .methodDeclaration | _, .constructorDeclaration => true
  | .java, .compactConstructorDeclaration => true
  | _, _ => false

/-- Nodes inside a type body that hold further members. -/
def groupsMembers : Dialect → Kind → Bool
  | .java, .enumBodyDeclarations => true
  | _, _ => false

def isComment : Dialect → Kind → Bool
  | .java, .lineComment | .java, .blockComment => true
  | .csharp, .comment => true
  | _, _ => false

def literalKind? : Dialect → Kind → Option LiteralKind
  | _, .text => some .string
  | .csharp, .verbatimText | .csharp, .rawText => some .string
  | .java, .decimalInteger | .java, .hexInteger | .java, .octalInteger | .java, .binaryInteger
  | .java, .decimalFloat | .java, .hexFloat => some .number
  | .csharp, .integer | .csharp, .real => some .number
  | _, _ => none

/-- How a branching or looping statement is named. -/
def construct? : Dialect → Kind → Option String
  | _, .ifStatement => some "if/else"
  | _, .forStatement | .java, .enhancedForStatement | .csharp, .foreachStatement => some "for loop"
  | _, .whileStatement | _, .doStatement => some "while loop"
  | _, _ => none

/-- The name that an import directive brings in. A C# directive with an alias names the alias
first, so that its target comes last. -/
def importName? (d : Dialect) (src : Source) (t : Tree) : Option String :=
  match d with
  | .java =>
    if t.kind == .importDeclaration then
      (t.namedChildren.find? fun c => c.kind == .scopedIdentifier || c.kind == .identifier).map
        fun name => name.text src ++ if t.namedChildren.any (·.kind == .asterisk) then ".*" else ""
    else none
  | .csharp =>
    if t.kind == .usingDirective then
      (t.namedChildren.reverse.find? fun c =>
        c.kind == .qualifiedName || c.kind == .identifier || c.kind == .genericName ||
          c.kind == .aliasQualifiedName).map (·.text src)
    else none

/-- The name of a C# attribute: the ending `Attribute` may be left out, unless nothing else is
left. -/
def attributeName (name : String) : String :=
  let ending := "Attribute".toList
  let cs := name.toList
  if ending.isSuffixOf cs && ending.length < cs.length then
    String.ofList (cs.take (cs.length - ending.length))
  else name

/-- The annotations or attributes of a member. -/
def annotations (d : Dialect) (src : Source) (member : Tree) : List AnnotationUse :=
  match d with
  | .java =>
    match member.namedChildren.find? (·.kind == .modifiers) with
    | some modifiers =>
      (modifiers.namedChildren.filter fun c =>
        c.kind == .annotationMark || c.kind == .annotationCall).filterMap fun a =>
          (a.child? .name).map fun name => ⟨simpleName (name.text src), a.line⟩
    | none => []
  | .csharp =>
    ((member.namedChildren.filter (·.kind == .attributeList)).flatMap
      (·.namedChildren.filter (·.kind == .attributeUse))).filterMap fun a =>
        (a.child? .name).map fun name => ⟨attributeName (simpleName (name.text src)), a.line⟩

/-- A call as it stands in a tree: the node whose place counts as its own, and the expression that
the method is called on. -/
structure CallShape where
  callee : String
  place : Tree
  receiver : Option Tree
  /-- The arguments stand under the label for arguments. -/
  hasArguments : Bool

/-- The number of the child that holds the arguments of a call, given the node that is the call. -/
def CallShape.argumentsIndex? (call : CallShape) (t : Tree) : Option Nat :=
  if call.hasArguments then t.children.findIdx? (·.label == some .arguments) else none

/-- What a conditional access is made on. -/
def accessTarget (access : Tree) : Option Tree :=
  (access.child? .condition).or access.namedChildren.head?

/-- The name node and the receiver of an invoked C# expression. `around` holds the nodes around the
expression, from the nearest. -/
def invokedMember (around : List Tree) (function : Tree) : Option (Tree × Option Tree) :=
  match function.kind with
  | .memberAccess => (function.child? .name).map fun name => (name, function.child? .expression)
  | .identifier | .genericName => some (function, none)
  | .conditionalAccess => do
    let binding ← function.namedChildren.find? (·.kind == .memberBinding)
    let name ← binding.child? .name
    pure (name, accessTarget function)
  | .memberBinding =>
    let receiver := ((around.take 4).find? (·.kind == .conditionalAccess)).bind accessTarget
    (function.child? .name).map fun name => (name, receiver)
  | _ => none

/-- The call that a node is, if it is one. `around` holds the nodes around it. -/
def call? (d : Dialect) (src : Source) (around : List Tree) (t : Tree) : Option CallShape :=
  match d, t.kind with
  | .java, .methodInvocation =>
    (t.child? .name).map fun name => ⟨name.text src, name, t.child? .object, true⟩
  | .java, .assertStatement => some ⟨"assert", t, none, false⟩
  | _, .objectCreation =>
    (t.child? .type).map fun type => ⟨simpleName (type.text src), type, none, true⟩
  | .csharp, .invocation => do
    let function ← t.child? .function
    let (name, receiver) ← invokedMember (t :: around) function
    pure ⟨simpleName (name.text src), name, receiver, true⟩
  | _, _ => none

/-- Whether a child is the body of its method, given the method. -/
def isMethodBody (d : Dialect) (member child : Tree) : Bool :=
  child.label == some .body ||
    (d == .csharp && (member.child? .body).isNone &&
      (child.kind == .block || child.kind == .arrowClause))

/-- The body of a method; `none` for a declaration without one. -/
def methodBody? (d : Dialect) (member : Tree) : Option Tree :=
  member.children.find? (d.isMethodBody member)

end LayerLint.Dialect
