import LayerLint.Dialect
import LayerLint.Text.Wildcard

/-! Paths as texts with `/` between their components. -/

namespace LayerLint

namespace Path

/-- A component of a path. Empty components and `.` after the start do not count. -/
inductive Component where
  | root
  | current
  | parent
  | normal (name : String)
  deriving DecidableEq, Repr

def Component.normal? : Component → Option String
  | .normal name => some name
  | _ => none

/-- The component that a piece between two slashes is, where it is one. -/
def component? : String → Option Component
  | "" => none
  | "." => none
  | ".." => some .parent
  | name => some (.normal name)

def isAbsolute (path : String) : Bool :=
  path.toList.head? == some '/'

def components (path : String) : List Component :=
  let parts := (Text.pieces '/' path.toList).map String.ofList
  let start :=
    if isAbsolute path then [Component.root]
    else if parts.head? == some "." then [Component.current]
    else []
  start ++ parts.filterMap component?

/-- The last component, if it is a name. -/
def fileName? (path : String) : Option String :=
  (components path).getLast?.bind Component.normal?

/-- The names of the directories on the way to the file. -/
def directories (path : String) : List String :=
  (components path).dropLast.filterMap Component.normal?

/-- What stands in a name after its last dot; a name whose only dot stands first has nothing
there. -/
def afterLastDot? {α : Type} [BEq α] (dot : α) (name : List α) : Option (List α) :=
  let backwards := name.reverse
  match backwards.dropWhile (· != dot) with
  | _ :: _ :: _ => some (backwards.takeWhile (· != dot)).reverse
  | _ => none

def extensionOf? (name : String) : Option String :=
  (afterLastDot? '.' name.toList).map String.ofList

def extension? (path : String) : Option String :=
  (fileName? path).bind extensionOf?

/-- Whether a piece between two slashes counts, given whether it is the first one of a relative
path. -/
def isComponent (isFirst : Bool) (part : String) : Bool :=
  part != "" && (part != "." || isFirst)

/-- The pieces of a path, from the last one on, without those at the end that do not count. -/
def dropEmptyEnd : List String → List String
  | [] => []
  | part :: rest => if isComponent rest.isEmpty part then part :: rest else dropEmptyEnd rest

/-- The path without its last component; a path without components, and the root, have none. -/
def parent? (path : String) : Option String :=
  let parts := (Text.pieces '/' path.toList).map String.ofList
  match dropEmptyEnd parts.reverse with
  | [] => none
  | _ :: rest =>
    match dropEmptyEnd rest with
    | [] => some (if isAbsolute path then "/" else "")
    | rest => some ("/".intercalate rest.reverse)

def join (base entry : String) : String :=
  if isAbsolute entry then entry
  else if base.isEmpty || base.toList.getLast? == some '/' then base ++ entry
  else base ++ "/" ++ entry

end Path

def Dialect.ofPath? (path : String) : Option Dialect :=
  (Path.extension? path).bind Dialect.ofExtension?

end LayerLint
