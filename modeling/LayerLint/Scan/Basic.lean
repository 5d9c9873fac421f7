import LayerLint.Analysis
import LayerLint.Report

/-! Scans: every source file below a root is analyzed by a worker, and the report is made when all
workers are done. A cancelled scan has no report. -/

namespace LayerLint

/-- Why a scan has no report. -/
inductive ScanFault where
  | rootMissing (path : String)
  | rootNotDirectory (path : String)
  | noRules
  | cancelled
  | aborted
  deriving DecidableEq, Repr

def ScanFault.message : ScanFault → String
  | .rootMissing path => s!"scan root does not exist: {path}"
  | .rootNotDirectory path => s!"scan root is not a directory: {path}"
  | .noRules => "no rules enabled; check 'enabledRules'/'disabledRules' or --rules"
  | .cancelled => "scan cancelled"
  | .aborted => "scan aborted"

/-! ### Workers -/

/-- A step of a scan: a worker takes up the file with a number, the scan is cancelled, or it is
checked, after the work, whether the scan was cancelled. -/
inductive Step where
  | work (file : Nat)
  | cancel
  | check
  deriving DecidableEq, Repr

/-- How far a scan has come: whether it is cancelled, what the check has shown, and what the workers
have made of their files, the last one first; a worker that starts on a cancelled scan makes
nothing. -/
structure Progress where
  cancelled : Bool := false
  interrupted : Bool := false
  done : List (Nat × Option Analysis) := []

def Progress.step (analyze : Nat → Analysis) (st : Progress) : Step → Progress
  | .work i => { st with done := (i, if st.cancelled then none else some (analyze i)) :: st.done }
  | .cancel => { st with cancelled := true }
  | .check => { st with interrupted := st.cancelled }

def Progress.run (analyze : Nat → Analysis) (steps : List Step) : Progress :=
  steps.foldl (Progress.step analyze) {}

/-- What a worker makes of the file with a number; there is no work on other numbers. -/
def Policy.analysisAt [Engine] (p : Policy) (files : List SourceFile) (i : Nat) : Analysis :=
  match files[i]? with
  | some f => p.analyze f
  | none => .aborted

/-- What the workers have made of the files, in the order of the files. -/
def Progress.analyses (st : Progress) (files : List SourceFile) : List (SourceFile × Analysis) :=
  files.zipIdx.filterMap fun (f, i) => ((st.done.lookup i).bind id).map fun a => (f, a)

/-! ### Layers of the project -/

/-- The path that stands for the project as a whole. -/
def projectPath : String := "."

/-- What a project lacks of the directories for its layers. -/
def Policy.missingLayers (p : Policy) (entries : List (String × Entry)) : List String :=
  let dirs := (entries.filter (·.2.isDirectory)).map fun e => Text.lower e.1
  let present := fun names : List String => dirs.any names.contains
  let missing := fun (names : List String) (what : String) =>
    if present names then []
    else
      let list := ", ".intercalate names
      [s!"{what} (one of: {list})"]
  missing p.testDirs "a test directory" ++ missing p.pageDirs "a Page Object directory"

/-- The violation of a project without directories for its layers. -/
def Policy.projectViolations (p : Policy) (entries : List (String × Entry)) : List Violation :=
  let missing := p.missingLayers entries
  if missing.isEmpty then []
  else
    [⟨projectPath, 0, .missingLayerStructure,
      "Project lacks the gTAA layer structure; missing " ++ " and ".intercalate missing⟩]

/-- The violation of the project below a path; none if the path is no directory. -/
def FileTree.projectViolations (t : FileTree) (p : Policy) (path : String) : List Violation :=
  match t.entry? path with
  | some (.directory entries) => p.projectViolations entries
  | _ => []

/-! ### The report -/

/-- The violations of the files that were analyzed. -/
def resultsOf (p : Policy) (analyses : List (SourceFile × Analysis)) :
    List (String × List Violation) :=
  analyses.filterMap fun (f, a) =>
    match a.outcome p f.path with
    | .analyzed violations => some (f.path, violations)
    | .skipped | .aborted => none

def reportOf (p : Policy) (entries : List (String × Entry))
    (analyses : List (SourceFile × Analysis)) : Report :=
  let results := resultsOf p analyses
  let project :=
    if p.rules.contains .missingLayerStructure then [(projectPath, p.projectViolations entries)]
    else []
  Report.ofResults (results ++ project) results.length

/-- What comes of a scan once all workers are done and the check is made. A worker that broke down
ends the scan before the check. -/
def conclude (p : Policy) (entries : List (String × Entry)) (files : List SourceFile)
    (st : Progress) : Except ScanFault Report :=
  let analyses := st.analyses files
  if analyses.any (·.2 == .aborted) then .error .aborted
  else if st.interrupted then .error .cancelled
  else .ok (reportOf p entries analyses)

/-! ### Runs -/

/-- The directory that a scan starts from, with its path. -/
def FileTree.scanRoot (t : FileTree) (path : String) :
    Except ScanFault (String × List (String × Entry)) :=
  match t.locate path with
  | .error _ => .error (.rootMissing path)
  | .ok loc =>
    match t.root.at? loc with
    | some (.directory entries) => .ok (FileTree.pathOf loc, entries)
    | _ => .error (.rootNotDirectory path)

/-- The steps in which the files are taken up in turn, after the scan was cancelled or not. -/
def stepsInOrder (cancelled : Bool) (count : Nat) : List Step :=
  (if cancelled then [.cancel] else []) ++ (List.range count).map .work ++ [.check]

/-- The result of a scan and what was told on the way. -/
structure ScanRun where
  result : Except ScanFault Report
  events : List Event

def scanEvents (p : Policy) (root : String) (found : Discovery)
    (analyses : List (SourceFile × Analysis)) (result : Except ScanFault Report) : List Event :=
  let discovered : Event :=
    ⟨.info, "gtaa::core::driver", "discovered source files",
      [("root", root), ("files", toString found.files.length),
        ("skipped", toString found.skipped)]⟩
  let last : List Event :=
    match result with
    | .ok report =>
      [⟨.info, "gtaa::core::driver", "scan finished",
        [("violations", toString report.violations.length),
          ("files", toString report.filesScanned)]⟩]
    | .error .cancelled =>
      [⟨.warn, "gtaa::core::driver", "scan interrupted; discarding partial results", []⟩]
    | .error _ => []
  found.events ++ discovered :: analyses.flatMap (fun (f, a) => a.events p f.path) ++ last

/-- A scan of the source files below a path, in the steps that a schedule gives for their number. -/
def FileTree.scanIn [Engine] (t : FileTree) (p : Policy) (path : String)
    (schedule : Nat → List Step) : ScanRun :=
  if p.rules.isEmpty then ⟨.error .noRules, []⟩
  else
    match t.scanRoot path with
    | .error e => ⟨.error e, []⟩
    | .ok (root, entries) =>
      let found := p.discoverIn entries
      let st := Progress.run (p.analysisAt found.files) (schedule found.files.length)
      let result := conclude p entries found.files st
      ⟨result, scanEvents p root found (st.analyses found.files) result⟩

/-- A scan of the source files below a path; `cancelled` tells that it is cancelled before it
starts. -/
def FileTree.scanRun [Engine] (t : FileTree) (p : Policy) (path : String) (cancelled : Bool) :
    ScanRun :=
  t.scanIn p path (stepsInOrder cancelled)

def FileTree.scan [Engine] (t : FileTree) (p : Policy) (path : String) (cancelled : Bool) :
    Except ScanFault Report :=
  (t.scanRun p path cancelled).result

end LayerLint
