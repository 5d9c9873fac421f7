import LayerLint.CommandLine.Request
import LayerLint.Scan.Basic
import LayerLint.Settings.Search

/-! What the two commands do: a scan with its settings, and a new settings file. -/

namespace LayerLint

/-- Why a command fails. -/
inductive CommandFault where
  | load (fault : LoadFault)
  | settings (fault : SettingsFault)
  | scan (fault : ScanFault)
  | alreadyExists (path : String)
  | unwritable (path : String) (fault : PathFault)
  deriving DecidableEq, Repr

def CommandFault.message : CommandFault → String
  | .load fault => fault.message
  | .settings fault => fault.fullMessage
  | .scan fault => fault.message
  | .alreadyExists path => s!"{path} already exists"
  | .unwritable path fault => s!"Failed to write {path}: " ++ fault.message

/-- The result of a command and what was told on the way. -/
structure CommandRun (α : Type) where
  result : Except CommandFault α
  events : List Event := []

namespace CommandLine.ScanRequest

/-- The settings with what the arguments say in place of what a file says. -/
def override (r : ScanRequest) (s : Settings) : Settings :=
  let s := if r.rules.isEmpty then s else { s with enabledRules := r.rules, disabledRules := [] }
  { s with
    maxMethodLines := r.maxMethodLines.getD s.maxMethodLines
    namingMinWords := r.namingMinWords.getD s.namingMinWords }

end CommandLine.ScanRequest

namespace FileTree

open CommandLine (ScanRequest)

/-- The settings for a scan: those of the file that is named, or those that hold for the root. -/
def settingsFor [Engine] (t : FileTree) (r : ScanRequest) : Except LoadFault LoadedSettings :=
  match r.config with
  | some path => t.loadSettingsFile path
  | none => t.loadSettings r.root

def loadedEvent (source : Option String) : Event :=
  match source with
  | some path => ⟨.debug, "gtaa::cli::commands::scan", "loaded config file", [("path", path)]⟩
  | none =>
    ⟨.debug, "gtaa::cli::commands::scan", "no config file found, using defaults", []⟩

def scanCommand [Engine] (t : FileTree) (r : ScanRequest) : CommandRun Report :=
  match t.settingsFor r with
  | .error fault => ⟨.error (.load fault), []⟩
  | .ok loaded =>
    let told := loadedEvent loaded.source
    match (r.override loaded.settings).policy with
    | .error fault => ⟨.error (.settings fault), [told]⟩
    | .ok policy =>
      let run := t.scanRun policy r.root false
      ⟨run.result.mapError .scan, told :: run.events⟩

/-- The path of the settings file in a directory. -/
def settingsPath (dir : String) : String :=
  Path.join dir settingsFileName

/-- Writes the default settings into a directory. A settings file that is there already is left as
it is. -/
def initCommand (t : FileTree) (dir : String) : CommandRun FileTree :=
  let path := settingsPath dir
  if t.exists? path then ⟨.error (.alreadyExists path), []⟩
  else
    match t.write path (({} : Settings).text ++ "\n").toUTF8 with
    | .error fault => ⟨.error (.unwritable path fault), []⟩
    | .ok written =>
      ⟨.ok written,
        [⟨.debug, "gtaa::cli::commands::init", "wrote default config", [("path", path)]⟩]⟩

end FileTree

end LayerLint
