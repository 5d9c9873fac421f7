import LayerLint.CommandLine.Command
import LayerLint.Log.Filter
import LayerLint.Report.Printer

/-! A whole run of the program: arguments and a file tree in, output and exit code out. -/

namespace LayerLint.CommandLine

inductive ExitStatus where
  | success
  | failure
  | error
  | aborted
  deriving DecidableEq, Repr

def ExitStatus.code : ExitStatus → UInt8
  | .success => 0
  | .failure => 1
  | .error => 2
  | .aborted => 101

/-- A scan fails only by violations that are errors. -/
def ExitStatus.ofReport (r : Report) : ExitStatus :=
  match r.status with
  | .clean | .findings => .success
  | .failing => .failure

/-- What a run leaves behind: its output, the events told, and the file tree. -/
structure Reply where
  exit : ExitStatus
  stdout : String := ""
  stderr : String := ""
  events : List Event := []
  tree : FileTree

/-- What a run knows besides its arguments: whether output is colored, and the filter text, if one
is set. -/
structure Surroundings where
  color : Bool := false
  filter : Option String := none

namespace Surroundings

/-- The filter that holds when none is set or the one set is not well formed. -/
def fallback (verbose : Bool) : Filter :=
  [⟨"gtaa", if verbose then Level.debug.rank else Level.warn.rank⟩]

def filterFor (s : Surroundings) (verbose : Bool) : Filter :=
  (s.filter.bind Filter.ofText?).getD (fallback verbose)

end Surroundings

def ExitStatus.ofFault : CommandFault → ExitStatus
  | .scan .aborted => .aborted
  | _ => .error

/-- The reply of a command that fails: one line that says why. -/
def failed (t : FileTree) (fault : CommandFault) (events : List Event) : Reply :=
  let exit := ExitStatus.ofFault fault
  let stderr := if exit == .aborted then "" else "Error: " ++ fault.message ++ "\n"
  { exit, stderr, events, tree := t }

def runScan [Engine] (t : FileTree) (color : Bool) (r : ScanRequest) : Reply :=
  let run := t.scanCommand r
  match run.result with
  | .error fault => failed t fault run.events
  | .ok report =>
    { exit := .ofReport report
      stdout := match r.format with
        | .text => report.text color
        | .json => report.json
      events := run.events
      tree := t }

def runInit (t : FileTree) (color : Bool) (dir : String) : Reply :=
  let run := t.initCommand dir
  match run.result with
  | .error fault => failed t fault run.events
  | .ok written =>
    let path := FileTree.settingsPath dir
    { exit := .success
      stdout := successLine color s!"Created {path}"
      events := run.events
      tree := written }

def perform [Engine] (t : FileTree) (s : Surroundings) : Request → Reply
  | .help c => { exit := .success, stdout := c.helpText, tree := t }
  | .version => { exit := .success, stdout := versionText, tree := t }
  | .scan r => runScan t s.color r
  | .init dir => runInit t s.color dir

def Request.verbose : Request → Bool
  | .scan r => r.verbose
  | _ => false

/-- A run with arguments. Of the events, those that the filter allows are left. -/
def run [Engine] (t : FileTree) (s : Surroundings) (args : List String) : Reply :=
  match Request.ofArguments args with
  | .error fault => { exit := .error, stderr := fault.message, tree := t }
  | .ok request =>
    let reply := perform t s request
    let filter := s.filterFor request.verbose
    { reply with events := reply.events.filter filter.allows }

end LayerLint.CommandLine
