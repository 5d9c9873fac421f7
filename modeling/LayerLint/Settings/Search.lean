import LayerLint.FileTree.Basic
import LayerLint.Policy
import LayerLint.Settings.Reader
import LayerLint.Text.Quoted

/-! Where settings come from: a file that is named, or the nearest settings file above a
directory. -/

namespace LayerLint

def settingsFileName : String := ".gtaarc.json"

/-- The entry that marks the root of a repository; no search goes beyond it. -/
def repositoryMark : String := ".git"

/-- Why there are no settings. -/
inductive LoadFault where
  | unreadable (path : String) (fault : PathFault)
  | malformed (path : String) (fault : Json.Fault)
  | invalid (fault : SettingsFault)
  deriving DecidableEq, Repr

def LoadFault.message : LoadFault → String
  | .unreadable path fault =>
    "Failed to read config file: " ++ Text.pathInQuotes path ++ ": " ++ fault.message
  | .malformed path fault =>
    "Failed to parse config file: " ++ Text.pathInQuotes path ++ ": " ++ fault.message
  | .invalid fault => fault.fullMessage

/-- Settings and the file they come from; without a file they are the defaults. -/
structure LoadedSettings where
  settings : Settings
  source : Option String

namespace FileTree

/-- The settings file in a directory or in the nearest one above it. The search ends at a directory
with the mark of a repository; `steps` bounds the directories looked at. -/
def searchSettings (t : FileTree) : Nat → String → Option String
  | 0, _ => none
  | steps + 1, dir =>
    let file := Path.join dir settingsFileName
    if t.exists? file then some file
    else if t.exists? (Path.join dir repositoryMark) then none
    else
      match Path.parent? dir with
      | some parent => t.searchSettings steps parent
      | none => none

/-- The settings file that holds for a directory. -/
def findSettings (t : FileTree) (dir : String) : Option String :=
  t.searchSettings (dir.length + 1) dir

def loadSettingsFile [Engine] (t : FileTree) (path : String) : Except LoadFault LoadedSettings := do
  let text ← (t.readText path).mapError (.unreadable path)
  let settings ← (Settings.ofText text).mapError (.malformed path)
  settings.check.mapError .invalid
  return ⟨settings, some path⟩

/-- The settings that hold for a directory. -/
def loadSettings [Engine] (t : FileTree) (dir : String) : Except LoadFault LoadedSettings :=
  let start := match t.canonical dir with
    | .ok path => path
    | .error _ => dir
  match t.findSettings start with
  | some path => t.loadSettingsFile path
  | none => .ok ⟨{}, none⟩

end FileTree

end LayerLint
