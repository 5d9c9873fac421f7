/-! What a source file says about its classes: imports, methods, and in each method the calls,
literal arguments and branches. All lines are counted from 1. -/

namespace LayerLint

/-- A name that a file imports. -/
structure Import where
  name : String
  line : Nat
  deriving DecidableEq, Repr

/-- An annotation on a method, by its simple name. -/
structure AnnotationUse where
  name : String
  line : Nat
  deriving DecidableEq, Repr

/-- A call. The receiver is the root name of the expression that the method is called on, or empty
if there is none. -/
structure Call where
  receiver : String
  callee : String
  line : Nat
  deriving DecidableEq, Repr

inductive LiteralKind where
  | string
  | number
  deriving DecidableEq, Repr

/-- A literal among the arguments of a call. -/
structure Literal where
  kind : LiteralKind
  value : String
  callee : String
  line : Nat
  deriving DecidableEq, Repr

/-- A branching or looping statement, by the name of its construct. -/
structure Branch where
  construct : String
  line : Nat
  deriving DecidableEq, Repr

/-- A method with a body: its first and last line and the number of lines that hold code. -/
structure Method where
  name : String
  firstLine : Nat
  lastLine : Nat
  bodyLines : Nat
  annotations : List AnnotationUse
  calls : List Call
  literals : List Literal
  branches : List Branch
  deriving DecidableEq, Repr

/-- A type declaration with the imports of its file. -/
structure ClassModel where
  name : String
  line : Nat
  imports : List Import
  methods : List Method
  deriving DecidableEq, Repr

end LayerLint
