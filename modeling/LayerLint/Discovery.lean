import LayerLint.FileTree.Basic
import LayerLint.Log
import LayerLint.Policy

/-! The source files below the root of a scan. -/

namespace LayerLint

/-- A source file by its path from the root of the scan. -/
structure SourceFile where
  path : String
  dialect : Dialect
  content : ByteArray

/-- The files found, in the order of their paths, and the number of places that could not be
looked at. -/
structure Discovery where
  files : List SourceFile
  skipped : Nat
  events : List Event

/-- A source file by its location below the root of the scan. -/
structure FoundFile (ν : Type := String) where
  location : Location ν
  dialect : Dialect
  content : ByteArray

namespace Policy

/-- The language of files with an extension, if they are to be scanned. -/
def dialectFor? (p : Policy) (extension : String) : Option Dialect :=
  if p.extensions.contains (Text.lowerAscii extension) then
    Dialect.ofExtension? (Text.lowerAscii extension)
  else none

/-- The language of a file that is to be scanned, by its path. -/
def dialectOf? (p : Policy) (path : String) : Option Dialect :=
  (Path.extension? path).bind p.dialectFor?

/-- Whether a file is left out by its path. -/
def ignored (p : Policy) (path : String) : Bool :=
  p.ignores.any (·.fits path)

section

variable {ν : Type} [Naming ν]

mutual

/-- The regular files of a directory and below, each with its location from the root of the scan.
Directories that are excluded by name are not entered, and links are not followed. -/
def filesIn (p : Policy) (loc : Location ν) :
    List (ν × Entry ν) → List (Location ν × ByteArray)
  | [] => []
  | (name, e) :: rest => filesAt p loc name e ++ filesIn p loc rest

/-- The regular files at an entry and below. -/
def filesAt (p : Policy) (loc : Location ν) (name : ν) :
    Entry ν → List (Location ν × ByteArray)
  | .file content => [(loc ++ [name], content)]
  | .link _ => []
  | .directory entries =>
    if p.excludedDirs.contains (Naming.shown name) then [] else filesIn p (loc ++ [name]) entries

end

/-- The path that is shown for a location from the root of the scan. -/
def displayPath (loc : Location ν) : String :=
  "/".intercalate (loc.map Naming.shown)

end

end Policy

namespace FoundFile

variable {ν : Type} [Naming ν]

def path (f : FoundFile ν) : String :=
  Policy.displayPath f.location

def source (f : FoundFile ν) : SourceFile :=
  ⟨f.path, f.dialect, f.content⟩

end FoundFile

namespace Policy

variable {ν : Type} [Naming ν]

/-- The source files among regular files, ignored ones included. -/
def candidates (p : Policy) (files : List (Location ν × ByteArray)) : List (FoundFile ν) :=
  files.filterMap fun (loc, content) =>
    ((loc.getLast?.bind Naming.extension?).bind p.dialectFor?).map fun dialect =>
      ⟨loc, dialect, content⟩

/-- The candidates that are not ignored, in the order of their paths. -/
def chosen (p : Policy) (candidates : List (FoundFile ν)) : List (FoundFile ν) :=
  (candidates.filter fun f => !p.ignored f.path).mergeSort fun f g => f.path ≤ g.path

def discoveryOf (p : Policy) (candidates : List (FoundFile ν)) : Discovery :=
  { files := (p.chosen candidates).map FoundFile.source
    skipped := 0
    events := (candidates.filter fun f => p.ignored f.path).map fun f =>
      ⟨.debug, "gtaa::core::file_scanner", "ignored by pattern", [("file", f.path)]⟩ }

def discoverIn (p : Policy) (entries : List (ν × Entry ν)) : Discovery :=
  p.discoveryOf (p.candidates (p.filesIn [] entries))

end Policy

/-- Whether the last piece of a path is a link. -/
def FileTree.isLink (t : FileTree) (path : String) : Bool :=
  let parts := Path.parts (Path.join t.current path)
  match FileTree.follow t.root false FileTree.linkLimit [] parts.dropLast with
  | .ok loc =>
    match t.root.at? (loc ++ [parts.getLastD ""]) with
    | some (.link _) => true
    | _ => false
  | .error _ => false

/-- The source files below a path. A path to a file is that file alone, with an empty path from the
root; a path that leads nowhere is one place that could not be looked at. -/
def FileTree.discover (t : FileTree) (p : Policy) (path : String) : Discovery :=
  match t.locate path with
  | .error e =>
    let reason := e.message
    { files := [], skipped := 1
      events := [⟨.warn, "gtaa::core::file_scanner",
        s!"cannot access path: IO error for operation on {path}: {reason}", []⟩] }
  | .ok loc =>
    match t.root.at? loc with
    | some (.directory entries) => p.discoverIn entries
    | some (.file content) =>
      if t.isLink path then p.discoveryOf ([] : List FoundFile)
      else p.discoveryOf ((p.dialectOf? path).map fun d => (⟨[], d, content⟩ : FoundFile)).toList
    | _ => p.discoveryOf ([] : List FoundFile)

end LayerLint
