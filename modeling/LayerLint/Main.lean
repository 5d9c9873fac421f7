import LayerLint.CommandLine.Run

/-! The program: takes in the part of the file system that a call looks at, runs, and writes what
comes of it. -/

namespace LayerLint.CommandLine

/-- Whether the content of a file matters to a scan. -/
def isRead (name : String) : Bool :=
  name == settingsFileName ||
    (((Path.extensionOf? name).map Text.lowerAscii).bind Dialect.ofExtension?).isSome

/-- The entry at a path of the file system; none if it cannot be looked at. Links are taken in as
links to what they lead to. -/
partial def takeIn (path : String) (readAlways : Bool) : IO (Option Entry) := do
  try
    let real ← IO.FS.realPath path
    let name := (Path.fileName? path).getD ""
    if ← real.isDir then
      let mut entries : List (String × Entry) := []
      for e in ← real.readDir do
        let kind := (← e.path.symlinkMetadata).type
        let inner ← match kind with
          | .symlink => do
            try pure (some (Entry.link (← IO.FS.realPath e.path).toString))
            catch _ => pure (some (Entry.link e.fileName))
          | .dir | .file => takeIn e.path.toString false
          | .other => pure none
        if let some inner := inner then
          entries := (e.fileName, inner) :: entries
      return some (.directory entries.reverse)
    else if readAlways || isRead name then
      return some (.file (← IO.FS.readBinFile real))
    else return some (.file ByteArray.empty)
  catch _ => return none

/-- The tree with the entry of a real path, which a given path leads to as well. The current
directory stays part of the tree. -/
def withEntryAt (t : FileTree) (path real : String) (entry : Entry) : FileTree :=
  let t := t.create real entry
  let t := if t.exists? t.current then t else t.create t.current (.directory [])
  if t.exists? path then t else t.create path (.link real)

/-- The tree with the entry at a path of the file system. -/
def withEntry (t : FileTree) (path : String) : IO FileTree := do
  match ← takeIn path true with
  | none => return t
  | some entry => return withEntryAt t path (← IO.FS.realPath path).toString entry

/-- Whether a path of the file system leads to something. -/
def isThere (path : String) : IO Bool := do
  try
    let _ ← IO.FS.realPath path
    return true
  catch _ => return false

/-- The tree with what the search for settings looks at, in a directory and above it. -/
def withSettingsAbove (t : FileTree) : Nat → String → IO FileTree
  | 0, _ => return t
  | steps + 1, dir => do
    let settings := Path.join dir settingsFileName
    let mark := Path.join dir repositoryMark
    let t ← if t.exists? settings then pure t else withEntry t settings
    let t := if ← isThere mark then t.create mark (.directory []) else t
    match Path.parent? dir with
    | some parent => withSettingsAbove t steps parent
    | none => return t

/-- The tree with a directory, of whose entries only the settings file is taken in. -/
def withDirectory (t : FileTree) (dir : String) : IO FileTree := do
  let settings ← isThere (FileTree.settingsPath dir)
  let entries := if settings then [(settingsFileName, Entry.file ByteArray.empty)] else []
  return withEntryAt t dir (← IO.FS.realPath dir).toString (.directory entries)

/-- The part of the file system that a request looks at. -/
def surroundingTree (current : String) (request : Request) : IO FileTree := do
  let t : FileTree := { root := .directory [], current }
  let t := t.create current (.directory [])
  match request with
  | .scan r =>
    let t ← withEntry t r.root
    let t ← match r.config with
      | some path => withEntry t path
      | none => pure t
    match t.canonical r.root with
    | .ok dir => withSettingsAbove t (dir.length + 1) dir
    | .error _ => return t
  | .init dir =>
    if ← isThere (Path.join dir ".") then withDirectory t dir else withEntry t dir
  | .help _ | .version => return t

/-- Writes the settings file that a run has added to its tree. -/
def writeSettings (reply : Reply) : Request → IO Unit
  | .init dir => do
    let path := FileTree.settingsPath dir
    if reply.exit == .success then
      if let .ok content := reply.tree.read path then
        IO.FS.writeBinFile path content
  | _ => return ()

end LayerLint.CommandLine

open LayerLint CommandLine in
def main (args : List String) : IO UInt32 := do
  let request := (Request.ofArguments args).toOption.getD .version
  let current := (← IO.currentDir).toString
  let t ← surroundingTree current request
  let color := (← IO.getEnv "CLICOLOR_FORCE").any (· != "0")
  let reply := CommandLine.run t { color, filter := ← IO.getEnv "GTAA_LOG" } args
  writeSettings reply request
  for e in reply.events do
    IO.eprintln e.line
  IO.print reply.stdout
  IO.eprint reply.stderr
  return reply.exit.code.toUInt32
