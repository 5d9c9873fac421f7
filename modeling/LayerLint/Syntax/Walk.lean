import LayerLint.Syntax.Language

/-! The walk through a syntax tree. It goes through files and namespaces to types, from types to
their members, and from methods through their bodies; each node is met in one of these modes. -/

namespace LayerLint.Syntax

/-- How a node is met on the walk. In a body, `callee` is the innermost call in whose argument list
the node stands. -/
inductive Mode where
  | scope
  | importing
  | type
  | members
  | method
  | body (callee : Option String)
  deriving DecidableEq, Repr

/-- Imports and method declarations are met, but not entered: they do not count for the depth. -/
def Mode.enters : Mode → Bool
  | .importing | .method => false
  | _ => true

/-- The modes in which the members of a type are met. -/
def Mode.ofMember : Mode → Bool
  | .members | .method => true
  | _ => false

/-- The modes in which the nodes of a method body are met. -/
def Mode.inBody : Mode → Bool
  | .body _ => true
  | _ => false

/-- How deep a node lies: the nesting levels opened so far and the nodes entered so far. -/
structure Depth where
  scopes : Nat
  nodes : Nat
  deriving DecidableEq, Repr

def Depth.descend (depth : Depth) (mode : Mode) (kind : Kind) : Depth :=
  if mode.enters then ⟨depth.scopes + kind.opensScope.toNat, depth.nodes + 1⟩ else depth

/-- A node met on the walk, with the nodes around it from the nearest. -/
structure Visit where
  tree : Tree
  around : List Tree
  mode : Mode
  depth : Depth

/-- A type declaration in a body is met as a type. -/
def bodyMode (d : Dialect) (callee : Option String) (t : Tree) : Mode :=
  if d.declaresType t.kind then .type else .body callee

/-- The elements of a list, the first one that satisfies `p` as `some`, all others as `none`. -/
def markFirst (p : Tree → Bool) (mode : Tree → Mode) : List Tree → List (Option Mode)
  | [] => []
  | t :: ts => if p t then some (mode t) :: ts.map (fun _ => none) else none :: markFirst p mode ts

/-- How a node in a file or a namespace is met, if it is. -/
def scopeMode (d : Dialect) (src : Source) (c : Tree) : Option Mode :=
  if !c.isNamed then none
  else if (d.importName? src c).isSome then some .importing
  else if d.declaresType c.kind then some .type
  else if d.isComment c.kind then none
  else some .scope

/-- How a node in the body of a type is met, if it is. -/
def memberMode (d : Dialect) (c : Tree) : Option Mode :=
  if !c.isNamed then none
  else if d.declaresType c.kind then some .type
  else if d.groupsMembers c.kind then some .members
  else if d.declaresMethod c.kind && (d.methodBody? c).isSome then some .method
  else none

/-- How a node in a method body is met, if it is. -/
def innerMode (d : Dialect) (callee : Option String) (c : Tree) : Option Mode :=
  if !c.isNamed then none else some (bodyMode d callee c)

/-- How the walk goes on below a node: for each child the mode in which it is met, if it is. -/
def childModes (d : Dialect) (src : Source) (around : List Tree) (t : Tree) :
    Mode → List (Option Mode)
  | .scope => t.children.map (scopeMode d src)
  | .importing => []
  | .type => markFirst (·.label == some .body) (fun _ => .members) t.children
  | .members => t.children.map (memberMode d)
  | .method => markFirst (d.isMethodBody t) (bodyMode d none) t.children
  | .body callee =>
    match d.call? src around t with
    | some call =>
      let arguments := call.argumentsIndex? t
      t.children.mapIdx fun i =>
        innerMode d (if arguments == some i then some call.callee else callee)
    | none =>
      if (d.literalKind? t.kind).isSome then []
      else t.children.map (innerMode d callee)

mutual

/-- The nodes met from a node on, in the order of the walk; only modes in `keep` are followed. -/
def visits (d : Dialect) (src : Source) (keep : Mode → Bool) (around : List Tree) (mode : Mode)
    (depth : Depth) : Tree → List Visit
  | .node tag children =>
    let t := Tree.node tag children
    let depth := depth.descend mode tag.kind
    ⟨t, around, mode, depth⟩ ::
      visitsBelow d src keep (t :: around) (childModes d src around t mode) depth children

def visitsBelow (d : Dialect) (src : Source) (keep : Mode → Bool) (around : List Tree)
    (modes : List (Option Mode)) (depth : Depth) : List Tree → List Visit
  | [] => []
  | t :: ts =>
    let here :=
      match modes.head? with
      | some (some mode) => if keep mode then visits d src keep around mode depth t else []
      | _ => []
    here ++ visitsBelow d src keep around modes.tail depth ts

end

/-- All nodes met in a file. -/
def visitsOfFile (d : Dialect) (src : Source) (root : Tree) : List Visit :=
  visits d src (fun _ => true) [] .scope ⟨0, 0⟩ root

/-- The members of a type, without what stands below them. -/
def memberVisits (d : Dialect) (src : Source) (type : Tree) : List Visit :=
  visits d src Mode.ofMember [] .type ⟨0, 0⟩ type

/-- The nodes of a method body, without those of types declared in it. -/
def bodyVisits (d : Dialect) (src : Source) (around : List Tree) (body : Tree) : List Visit :=
  visits d src Mode.inBody around (bodyMode d none body) ⟨0, 0⟩ body

mutual

/-- The tokens of a tree, from left to right. -/
def leaves : Tree → List Tree
  | .node tag [] => [.node tag []]
  | .node _ (t :: ts) => leaves t ++ leavesOfAll ts

def leavesOfAll : List Tree → List Tree
  | [] => []
  | t :: ts => leaves t ++ leavesOfAll ts

end

mutual

/-- The first fault or missing token, parents before children. Nodes that are not flawed are
passed over. -/
def firstFlaw : Tree → Option Tree
  | .node tag children =>
    if (Tree.node tag children).isFlaw then some (.node tag children)
    else if tag.flawed then firstFlawOf children
    else none

def firstFlawOf : List Tree → Option Tree
  | [] => none
  | t :: ts => (firstFlaw t).or (firstFlawOf ts)

end

end LayerLint.Syntax
