import LayerLint.FileTree.Name

/-! File trees: files, directories and symbolic links below one root directory. -/

namespace LayerLint

/-- An entry of a directory. Names are texts unless said otherwise. -/
inductive Entry (ν : Type := String) where
  | file (content : ByteArray)
  | link (target : String)
  | directory (entries : List (ν × Entry ν))

/-- A place in a tree, by the names of the directories that lead to it and its own. -/
abbrev Location (ν : Type := String) := List ν

namespace Entry

section

variable {ν : Type}

def isDirectory : Entry ν → Bool
  | .directory _ => true
  | _ => false

variable [BEq ν]

def child? (e : Entry ν) (name : ν) : Option (Entry ν) :=
  match e with
  | .directory entries => entries.lookup name
  | _ => none

/-- The entry at a location, links not followed. -/
def at? : Entry ν → Location ν → Option (Entry ν)
  | e, [] => some e
  | e, name :: rest => (e.child? name).bind (·.at? rest)

end

/-- The entries of a directory with one of them set. -/
def setIn (name : String) (e : Entry) : List (String × Entry) → List (String × Entry)
  | [] => [(name, e)]
  | (n, old) :: rest => if n == name then (n, e) :: rest else (n, old) :: setIn name e rest

/-- The tree with an entry at a location. Directories on the way are made as needed; where the way
leads through a file, nothing changes. -/
def put : Entry → Location → Entry → Entry
  | _, [], new => new
  | .directory entries, name :: rest, new =>
    let old := (entries.lookup name).getD (.directory [])
    .directory (setIn name (old.put rest new) entries)
  | e, _ :: _, _ => e

def remove : Entry → Location → Entry
  | .directory entries, [name] => .directory (entries.filter (·.1 != name))
  | .directory entries, name :: rest =>
    match entries.lookup name with
    | some e => .directory (setIn name (e.remove rest) entries)
    | none => .directory entries
  | e, _ => e

end Entry

/-- Why a path does not lead to what is asked for. -/
inductive PathFault where
  | notFound
  | notDirectory
  | isDirectory
  | tooManyLinks
  | notText
  deriving DecidableEq, Repr

def PathFault.message : PathFault → String
  | .notFound => "No such file or directory (os error 2)"
  | .notDirectory => "Not a directory (os error 20)"
  | .isDirectory => "Is a directory (os error 21)"
  | .tooManyLinks => "Too many levels of symbolic links (os error 40)"
  | .notText => "stream did not contain valid UTF-8"

/-- A file tree and the directory that relative paths start from. -/
structure FileTree where
  root : Entry
  current : String := "/"

def Path.parts (path : String) : List String :=
  (Text.pieces '/' path.toList).map String.ofList

namespace FileTree

/-- The links that one path may lead through. -/
def linkLimit : Nat := 40

/-- Follows the pieces of a path from a location; `links` bounds the links on the way. If `create`
is set, the last piece need not exist. -/
def follow (root : Entry) (create : Bool) (links : Nat) (loc : Location) (parts : List String) :
    Except PathFault Location :=
  match parts with
  | [] => .ok loc
  | part :: rest =>
    match root.at? loc with
    | some (.directory entries) =>
      if part == "" || part == "." then follow root create links loc rest
      else if part == ".." then follow root create links loc.dropLast rest
      else
        match entries.lookup part with
        | none => if create && rest.isEmpty then .ok (loc ++ [part]) else .error .notFound
        | some (.link target) =>
          match links with
          | 0 => .error .tooManyLinks
          | links + 1 =>
            follow root create links (if Path.isAbsolute target then [] else loc)
              (Path.parts target ++ rest)
        | some _ => follow root create links (loc ++ [part]) rest
    | _ => .error .notDirectory
termination_by (links, parts.length)

/-- The location that a path leads to. -/
def locate (t : FileTree) (path : String) : Except PathFault Location :=
  if path.isEmpty then .error .notFound
  else follow t.root false linkLimit [] (Path.parts (Path.join t.current path))

def entry? (t : FileTree) (path : String) : Option Entry :=
  match t.locate path with
  | .ok loc => t.root.at? loc
  | .error _ => none

def exists? (t : FileTree) (path : String) : Bool :=
  (t.entry? path).isSome

def pathOf (loc : Location) : String :=
  "/" ++ "/".intercalate loc

/-- The path without links and detours to what a path leads to. -/
def canonical (t : FileTree) (path : String) : Except PathFault String :=
  (t.locate path).map pathOf

def read (t : FileTree) (path : String) : Except PathFault ByteArray := do
  let loc ← t.locate path
  match t.root.at? loc with
  | some (.file content) => return content
  | some (.directory _) => throw .isDirectory
  | _ => throw .notFound

def readText (t : FileTree) (path : String) : Except PathFault String := do
  match String.fromUTF8? (← t.read path) with
  | some text => return text
  | none => throw .notText

/-- The tree with a file written into an existing directory. -/
def write (t : FileTree) (path : String) (content : ByteArray) : Except PathFault FileTree := do
  let loc ← follow t.root true linkLimit [] (Path.parts (Path.join t.current path))
  match t.root.at? loc with
  | some (.directory _) => throw .isDirectory
  | _ => return { t with root := t.root.put loc (.file content) }

/-- The tree with the directories on the way to the pieces of a path. -/
def makeDirectories (t : FileTree) (done : String) : List String → FileTree
  | [] => t
  | part :: rest =>
    let path := Path.join done part
    let t :=
      if t.exists? path then t
      else
        match follow t.root true linkLimit [] (Path.parts (Path.join t.current path)) with
        | .ok loc => { t with root := t.root.put loc (.directory []) }
        | .error _ => t
    t.makeDirectories path rest

/-- The tree with an entry at a path; directories on the way are made as needed. -/
def create (t : FileTree) (path : String) (e : Entry) : FileTree :=
  let parts := Path.parts (Path.join t.current path)
  let t := t.makeDirectories "/" (parts.filter (· != "")).dropLast
  match follow t.root true linkLimit [] parts with
  | .ok loc => { t with root := t.root.put loc e }
  | .error _ => t

/-- The tree without the entry at a path, if there is one. Of a link, the link itself is removed. -/
def delete (t : FileTree) (path : String) : Option FileTree :=
  let parts := (Path.parts (Path.join t.current path)).filter (· != "")
  match follow t.root false linkLimit [] parts.dropLast with
  | .ok dir =>
    let loc := dir ++ [parts.getLastD ""]
    (t.root.at? loc).map fun _ => { t with root := t.root.remove loc }
  | .error _ => none

end FileTree

end LayerLint
