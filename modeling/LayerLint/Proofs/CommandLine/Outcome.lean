import LayerLint.CommandLine.Run
import LayerLint.Proofs.Scan.BreakOff
import LayerLint.Proofs.Scan.Layers
import LayerLint.Proofs.Settings.Search
import Mathlib.Logic.Basic

/-! How a scan asked for by arguments ends. A step before the files may fail: then one line says
why, and nothing else is written. If all of them succeed, the report on every file is written, and
the exit code tells whether it holds an error. Nothing else happens, unless the analysis breaks off
at a file. -/

namespace LayerLint.CommandLine

open Text (textOfBytes)

/-- The exit code of a report is 1 exactly if it holds a violation of a rule that is an error. -/
theorem code_ofReport (report : Report) :
    (ExitStatus.ofReport report).code =
      if ∃ v ∈ report.violations, v.rule ∈
        [.forbiddenImport, .assertionInPom, .missingLayerStructure, .parseError] then 1 else 0 := by
  have grave (rule : RuleId) : rule.severity = .error ↔
      rule ∈ [.forbiddenImport, .assertionInPom, .missingLayerStructure, .parseError] := by
    cases rule <;> decide
  have failing : 0 < report.countOfSeverity .error ↔
      ∃ v ∈ report.violations, v.rule ∈
        [.forbiddenImport, .assertionInPom, .missingLayerStructure, .parseError] := by
    simp only [Report.countOfSeverity, List.countP_pos_iff, beq_iff_eq, Violation.severity, grave]
  simp only [ExitStatus.ofReport, Report.status, ← failing]
  by_cases errors : 0 < report.countOfSeverity .error
  · rw [if_pos errors, if_pos errors]
    rfl
  · rw [if_neg errors, if_neg errors]
    cases report.violations.isEmpty <;> rfl

/-! ### The steps before the files -/

/-- The settings file of a scan: the one that is named, or the one that holds for the root. -/
def settingsFile? (t : FileTree) (r : ScanRequest) : Option String :=
  r.config.or (t.findSettings ((t.canonical r.root).toOption.getD r.root))

section

variable [Engine]

/-- Settings that a scan starts from. -/
inductive Loads (t : FileTree) (r : ScanRequest) : Settings → Prop where
  | defaults (none : settingsFile? t r = none) : Loads t r {}
  | file {path text : String} {s : Settings} (named : settingsFile? t r = some path)
      (read : t.readText path = .ok text) (parsed : Settings.ofText text = .ok s)
      (sound : s.check = .ok ()) : Loads t r s

/-- What is wrong with the settings file of a scan. -/
inductive LoadFails (t : FileTree) (r : ScanRequest) : LoadFault → Prop where
  | unreadable {path : String} {fault : PathFault} (named : settingsFile? t r = some path)
      (read : t.readText path = .error fault) : LoadFails t r (.unreadable path fault)
  | malformed {path text : String} {fault : Json.Fault} (named : settingsFile? t r = some path)
      (read : t.readText path = .ok text) (parsed : Settings.ofText text = .error fault) :
      LoadFails t r (.malformed path fault)
  | invalid {path text : String} {s : Settings} {fault : SettingsFault}
      (named : settingsFile? t r = some path) (read : t.readText path = .ok text)
      (parsed : Settings.ofText text = .ok s) (unsound : s.check = .error fault) :
      LoadFails t r (.invalid fault)

/-- The first step of a scan that fails. -/
inductive Fails (t : FileTree) (r : ScanRequest) : CommandFault → Prop where
  | load {fault : LoadFault} (fails : LoadFails t r fault) : Fails t r (.load fault)
  | settings {s : Settings} {fault : SettingsFault} (loads : Loads t r s)
      (invalid : (r.override s).policy = .error fault) : Fails t r (.settings fault)
  | noRules {s : Settings} {p : Policy} (loads : Loads t r s)
      (valid : (r.override s).policy = .ok p) (idle : p.rules = []) : Fails t r (.scan .noRules)
  | rootMissing {s : Settings} {p : Policy} {fault : PathFault} (loads : Loads t r s)
      (valid : (r.override s).policy = .ok p) (busy : p.rules ≠ [])
      (missing : t.locate r.root = .error fault) : Fails t r (.scan (.rootMissing r.root))
  | rootNotDirectory {s : Settings} {p : Policy} {loc : Location} (loads : Loads t r s)
      (valid : (r.override s).policy = .ok p) (busy : p.rules ≠ [])
      (located : t.locate r.root = .ok loc)
      (other : ∀ entries, t.root.at? loc ≠ some (.directory entries)) :
      Fails t r (.scan (.rootNotDirectory r.root))

/-- Every step before the files succeeds: the scan goes by a policy through a directory. -/
inductive Starts (t : FileTree) (r : ScanRequest) (p : Policy) (entries : List (String × Entry)) :
    Prop where
  | intro {s : Settings} {loc : Location} (loads : Loads t r s)
      (valid : (r.override s).policy = .ok p) (busy : p.rules ≠ [])
      (located : t.locate r.root = .ok loc)
      (here : t.root.at? loc = some (.directory entries)) : Starts t r p entries

variable {t : FileTree} {r : ScanRequest}

theorem settingsFor_eq (t : FileTree) (r : ScanRequest) :
    t.settingsFor r =
      match settingsFile? t r with
      | some path => t.loadSettingsFile path
      | none => .ok ⟨{}, none⟩ := by
  unfold FileTree.settingsFor settingsFile?
  cases r.config with
  | some path => rfl
  | none =>
      rw [Option.none_or]
      unfold FileTree.loadSettings
      cases t.canonical r.root with
      | ok path => rfl
      | error fault => rfl

theorem settingsFor_of_loads {s : Settings} (loads : Loads t r s) :
    ∃ loaded, t.settingsFor r = .ok loaded ∧ loaded.settings = s := by
  rw [settingsFor_eq]
  cases loads with
  | defaults none =>
      rw [none]
      exact ⟨_, rfl, rfl⟩
  | file named read parsed sound =>
      rw [named]
      simp only [FileTree.loadSettingsFile, bind, Except.bind, Except.mapError, read, parsed, sound]
      exact ⟨_, rfl, rfl⟩

theorem settingsFor_of_loadFails {fault : LoadFault} (fails : LoadFails t r fault) :
    t.settingsFor r = .error fault := by
  rw [settingsFor_eq]
  cases fails with
  | unreadable named read =>
      rw [named]
      simp only [FileTree.loadSettingsFile, bind, Except.bind, Except.mapError, read]
  | malformed named read parsed =>
      rw [named]
      simp only [FileTree.loadSettingsFile, bind, Except.bind, Except.mapError, read, parsed]
  | invalid named read parsed unsound =>
      rw [named]
      simp only [FileTree.loadSettingsFile, bind, Except.bind, Except.mapError, read, parsed,
        unsound]

theorem loads_or_fails (t : FileTree) (r : ScanRequest) :
    (∃ s, Loads t r s) ∨ ∃ fault, LoadFails t r fault := by
  cases named : settingsFile? t r with
  | none => exact .inl ⟨{}, .defaults named⟩
  | some path =>
      cases read : t.readText path with
      | error fault => exact .inr ⟨_, .unreadable named read⟩
      | ok text =>
          cases parsed : Settings.ofText text with
          | error fault => exact .inr ⟨_, .malformed named read parsed⟩
          | ok s =>
              cases sound : s.check with
              | error fault => exact .inr ⟨_, .invalid named read parsed sound⟩
              | ok _ => exact .inl ⟨s, .file named read parsed sound⟩

theorem fails_or_starts (t : FileTree) (r : ScanRequest) :
    (∃ fault, Fails t r fault) ∨ ∃ p entries, Starts t r p entries := by
  rcases loads_or_fails t r with ⟨s, loads⟩ | ⟨fault, fails⟩
  · cases valid : (r.override s).policy with
    | error fault => exact .inl ⟨_, .settings loads valid⟩
    | ok p =>
        by_cases idle : p.rules = []
        · exact .inl ⟨_, .noRules loads valid idle⟩
        · cases located : t.locate r.root with
          | error fault => exact .inl ⟨_, .rootMissing loads valid idle located⟩
          | ok loc =>
              by_cases here : ∃ entries, t.root.at? loc = some (.directory entries)
              · obtain ⟨entries, here⟩ := here
                exact .inr ⟨p, entries, .intro loads valid idle located here⟩
              · exact .inl ⟨_, .rootNotDirectory loads valid idle located (not_exists.mp here)⟩
  · exact .inl ⟨_, .load fails⟩

/-! ### The result of the command -/

/-- With settings that are loaded and valid, the command is the scan. -/
theorem result_of_valid {s : Settings} {p : Policy} (loads : Loads t r s)
    (valid : (r.override s).policy = .ok p) :
    (t.scanCommand r).result = (t.scan p r.root false).mapError .scan := by
  obtain ⟨loaded, settings, rfl⟩ := settingsFor_of_loads loads
  simp only [FileTree.scanCommand, settings, valid]
  rfl

theorem result_of_fails {fault : CommandFault} (fails : Fails t r fault) :
    (t.scanCommand r).result = .error fault := by
  cases fails with
  | load fails => simp only [FileTree.scanCommand, settingsFor_of_loadFails fails]
  | settings loads invalid =>
      obtain ⟨loaded, settings, rfl⟩ := settingsFor_of_loads loads
      simp only [FileTree.scanCommand, settings, invalid]
  | noRules loads valid idle =>
      rw [result_of_valid loads valid, FileTree.scan_eq, idle]
      rfl
  | rootMissing loads valid busy missing =>
      rw [result_of_valid loads valid, FileTree.scan_eq, List.isEmpty_eq_false_iff.mpr busy,
        FileTree.scanRoot, missing]
      rfl
  | rootNotDirectory loads valid busy located other =>
      have found : t.scanRoot r.root = .error (.rootNotDirectory r.root) := by
        rw [FileTree.scanRoot, located]
        dsimp only
        split
        · next entries here => exact absurd here (other entries)
        · rfl
      rw [result_of_valid loads valid, FileTree.scan_eq, List.isEmpty_eq_false_iff.mpr busy, found]
      rfl

theorem result_of_starts {p : Policy} {entries : List (String × Entry)}
    (starts : Starts t r p entries) :
    (t.scanCommand r).result =
      (completeScan p entries (p.discoverIn entries).files).mapError .scan := by
  obtain ⟨loads, valid, busy, located, here⟩ := starts
  have found := (t.scanRoot_eq_ok_iff r.root).mpr ⟨_, located, here, rfl⟩
  rw [result_of_valid loads valid, FileTree.scan_eq, List.isEmpty_eq_false_iff.mpr busy, found]
  rfl

/-- A fault of a step before the files ends the run as an error. -/
theorem ofFault_of_fails {fault : CommandFault} (fails : Fails t r fault) :
    ExitStatus.ofFault fault = .error := by
  cases fails <;> rfl

/-! ### The reply -/

/-- A run that ends because a step before the files fails: one line says which one. -/
def Refused (t : FileTree) (r : ScanRequest) (reply : Reply) : Prop :=
  ∃ fault, Fails t r fault ∧ reply.exit.code = 2 ∧ reply.stdout = "" ∧
    reply.stderr = "Error: " ++ fault.message ++ "\n"

/-- A run that writes the report on all files, in the format asked for. -/
def Reported (t : FileTree) (color : Bool) (r : ScanRequest) (reply : Reply) : Prop :=
  ∃ p entries, Starts t r p entries ∧
    let report := p.reportOn entries (p.discoverIn entries).files
    (reply.stdout = match r.format with
      | .text => report.text color
      | .json => report.json) ∧
    reply.stderr = "" ∧
    reply.exit.code =
      if ∃ v ∈ report.violations, v.rule ∈
        [.forbiddenImport, .assertionInPom, .missingLayerStructure, .parseError] then 1 else 0

/-- A scan that comes to a file at which the analysis breaks off. -/
def MeetsBreak (t : FileTree) (r : ScanRequest) : Prop :=
  ∃ p entries, Starts t r p entries ∧
    ∃ f ∈ (p.discoverIn entries).files, f.content.size ≤ p.maxFileBytes ∧
      BreaksOff f.dialect p.maxNesting (textOfBytes f.content)

theorem completeScan_of_break {p : Policy} {entries : List (String × Entry)}
    {files : List SourceFile} {f : SourceFile} (member : f ∈ files)
    (small : f.content.size ≤ p.maxFileBytes)
    (breaks : BreaksOff f.dialect p.maxNesting (textOfBytes f.content)) :
    completeScan p entries files = .error .aborted := by
  have aborted : p.analyze f = .aborted := (p.analyze_eq_aborted_iff f).mpr ⟨small, breaks⟩
  have any : files.any (fun f => p.analyze f == .aborted) = true :=
    List.any_eq_true.mpr ⟨f, member, beq_of_eq aborted⟩
  exact if_pos any

theorem completeScan_of_no_break {p : Policy} {entries : List (String × Entry)}
    {files : List SourceFile}
    (whole : ∀ f ∈ files, f.content.size ≤ p.maxFileBytes →
      ¬ BreaksOff f.dialect p.maxNesting (textOfBytes f.content)) :
    completeScan p entries files = .ok (p.reportOn entries files) := by
  refine if_neg fun broken => ?_
  obtain ⟨f, member, aborted⟩ := List.any_eq_true.mp broken
  obtain ⟨small, breaks⟩ := (p.analyze_eq_aborted_iff f).mp (eq_of_beq aborted)
  exact whole f member small breaks

theorem runScan_of_error {fault : CommandFault} (color : Bool)
    (result : (t.scanCommand r).result = .error fault) :
    runScan t color r = failed t fault (t.scanCommand r).events := by
  simp only [runScan, result]

theorem refused_of_fails {fault : CommandFault} (color : Bool) (fails : Fails t r fault) :
    Refused t r (runScan t color r) := by
  rw [runScan_of_error color (result_of_fails fails)]
  refine ⟨fault, fails, ?_⟩
  rw [failed, ofFault_of_fails fails]
  exact ⟨rfl, rfl, rfl⟩

theorem exit_of_break (color : Bool) (breaks : MeetsBreak t r) :
    (runScan t color r).exit = .aborted ∧ (runScan t color r).stdout = "" := by
  obtain ⟨p, entries, starts, f, member, small, broken⟩ := breaks
  have result := result_of_starts starts
  rw [completeScan_of_break member small broken] at result
  rw [runScan_of_error color result]
  exact ⟨rfl, rfl⟩

theorem reported_of_starts {p : Policy} {entries : List (String × Entry)} (color : Bool)
    (starts : Starts t r p entries) (whole : ¬ MeetsBreak t r) :
    Reported t color r (runScan t color r) := by
  have result := result_of_starts starts
  rw [completeScan_of_no_break fun f member small breaks =>
    whole ⟨p, entries, starts, f, member, small, breaks⟩] at result
  refine ⟨p, entries, starts, ?_⟩
  simp only [runScan, result]
  exact ⟨rfl, rfl, code_ofReport _⟩

theorem Refused.code {reply : Reply} (refused : Refused t r reply) : reply.exit.code = 2 := by
  obtain ⟨fault, -, code, -⟩ := refused
  exact code

theorem Reported.code {color : Bool} {reply : Reply} (reported : Reported t color r reply) :
    reply.exit.code = 1 ∨ reply.exit.code = 0 := by
  obtain ⟨p, entries, -, -, -, code⟩ := reported
  rw [code]
  split
  · exact .inl rfl
  · exact .inr rfl

theorem not_refused_and_reported {color : Bool} {reply : Reply} (refused : Refused t r reply)
    (reported : Reported t color r reply) : False := by
  have two := refused.code
  rcases reported.code with code | code <;> rw [code] at two <;> cases two

theorem xor_refused_reported_iff (t : FileTree) (color : Bool) (r : ScanRequest) :
    Xor (Refused t r (runScan t color r)) (Reported t color r (runScan t color r)) ↔
      ¬ MeetsBreak t r := by
  constructor
  · intro ends breaks
    have aborted : (runScan t color r).exit.code = 101 := by
      rw [(exit_of_break color breaks).1]
      rfl
    rcases ends with ⟨refused, -⟩ | ⟨reported, -⟩
    · rw [refused.code] at aborted
      cases aborted
    · rcases reported.code with code | code <;> rw [code] at aborted <;> cases aborted
  · intro whole
    rcases fails_or_starts t r with ⟨fault, fails⟩ | ⟨p, entries, starts⟩
    · have refused := refused_of_fails color fails
      exact .inl ⟨refused, not_refused_and_reported refused⟩
    · have reported := reported_of_starts color starts whole
      exact .inr ⟨reported, fun refused => not_refused_and_reported refused reported⟩

theorem exit_runScan (t : FileTree) (color : Bool) (r : ScanRequest) :
    (runScan t color r).exit =
      match (t.scanCommand r).result with
      | .ok report => .ofReport report
      | .error fault => .ofFault fault := by
  cases result : (t.scanCommand r).result with
  | ok report => simp only [runScan, result]
  | error fault => simp only [runScan, result, failed]

/-- The format has a part in what is written, and in nothing else. -/
theorem scanCommand_format (t : FileTree) (r : ScanRequest) (format : Format) :
    t.scanCommand { r with format } = t.scanCommand r :=
  rfl

section Run

variable {s : Surroundings} {args : List String} (parsed : Request.ofArguments args = .ok (.scan r))
include parsed

theorem xor_run_iff :
    Xor (Refused t r (run t s args)) (Reported t s.color r (run t s args)) ↔ ¬ MeetsBreak t r := by
  simp only [run, parsed]
  exact xor_refused_reported_iff t s.color r

theorem run_of_break (breaks : MeetsBreak t r) :
    (run t s args).exit.code = 101 ∧ (run t s args).stdout = "" := by
  obtain ⟨exit, stdout⟩ := exit_of_break s.color breaks
  simp only [run, parsed, perform, exit, stdout]
  exact ⟨rfl, trivial⟩

theorem run_of_fails {fault : CommandFault} (fails : Fails t r fault) :
    Refused t r (run t s args) ∧ (run t s args).stderr = "Error: " ++ fault.message ++ "\n" := by
  simp only [run, parsed]
  refine ⟨refused_of_fails s.color fails, ?_⟩
  rw [perform, runScan_of_error s.color (result_of_fails fails), failed, ofFault_of_fails fails]
  rfl

theorem run_of_scan {settings : Settings} {p : Policy} {report : Report}
    (loads : Loads t r settings) (valid : (r.override settings).policy = .ok p)
    (scanned : t.scan p r.root false = .ok report) :
    (run t s args).exit = .ofReport report ∧
      (run t s args).stdout = match r.format with
        | .text => report.text s.color
        | .json => report.json := by
  have result := result_of_valid loads valid
  rw [scanned] at result
  simp only [run, parsed, perform, runScan, result]
  exact ⟨rfl, rfl⟩

end Run

/-- How a scan asked for by arguments ends. It is either refused, since a step before the files
fails, or it writes the report on all files, exactly if the analysis breaks off at none of them;
if it does at one, the exit code is 101 and nothing is written. The format has no part in how a scan
ends. -/
theorem run_scan_outcome (t : FileTree) (s : Surroundings) (args : List String) (r : ScanRequest)
    (parsed : Request.ofArguments args = .ok (.scan r)) :
    (Xor (Refused t r (run t s args)) (Reported t s.color r (run t s args)) ↔ ¬ MeetsBreak t r) ∧
      (MeetsBreak t r → (run t s args).exit.code = 101 ∧ (run t s args).stdout = "") ∧
      ∀ (s' : Surroundings) (args' : List String) (format : Format),
        Request.ofArguments args' = .ok (.scan { r with format }) →
        (run t s' args').exit = (run t s args).exit := by
  refine ⟨xor_run_iff parsed, run_of_break parsed, fun s' args' format parsed' => ?_⟩
  simp only [run, parsed, parsed', perform, exit_runScan, scanCommand_format]

end

theorem canonical_root {t : FileTree} {entries : List (String × Entry)}
    (root : t.root = .directory entries) :
    t.canonical "/" = .ok "/" := by
  rw [FileTree.canonical, FileTree.locate_root root]
  rfl

/-- The default settings hold where the root directory has no settings file and no mark of a
repository. -/
theorem loads_defaults [Engine] {t : FileTree} {r : ScanRequest}
    {entries : List (String × Entry)} (root : t.root = .directory entries)
    (config : r.config = none) (dir : (t.canonical r.root).toOption.getD r.root = "/")
    (noFile : entries.lookup settingsFileName = none)
    (noMark : entries.lookup repositoryMark = none) : Loads t r {} := by
  refine .defaults ?_
  rw [settingsFile?, config, dir, Option.none_or, FileTree.findSettings_eq_nearestIn,
    Path.upward_of_top (by decide),
    FileTree.nearestIn_of_absent (FileTree.locate_root root) (congrArg some root) noFile noMark,
    FileTree.nearestIn]

/-- The default settings hold where the root directory has one file only, which is another one. -/
theorem loads_defaults_of_lone_file [Engine] {r : ScanRequest} {f : SourceFile}
    (noFile : f.path ≠ settingsFileName) (noMark : f.path ≠ repositoryMark)
    (config : r.config = none)
    (dir : ((FileTree.ofFiles [f]).canonical r.root).toOption.getD r.root = "/") :
    Loads (FileTree.ofFiles [f]) r {} := by
  have absent {name : String} (other : f.path ≠ name) :
      ([f].map SourceFile.entry).lookup name = none := by
    rw [List.map_singleton, List.lookup_cons, SourceFile.entry, beq_eq_false_iff_ne.mpr other.symm]
    rfl
  exact loads_defaults rfl config dir (absent noFile) (absent noMark)

def strayBrace : SourceFile :=
  ⟨"T.java", .java, "\x7d".toUTF8⟩

def strayBraceFound : Violation :=
  ⟨"T.java", 1, .parseError, "could not analyze file: syntax error at line 1"⟩

/-- A scan of a text that cannot be read as source is reported, and the report holds an error. In
the other format it ends the same. With a settings file that is not there, the scan is refused. -/
theorem run_scan_outcome_stray_brace :
    let t := FileTree.ofFiles [strayBrace]
    let r : ScanRequest := { root := "/" }
    let reply := run t {} ["scan", "/"]
    let refusal := run t {} ["scan", "/", "--config=/x"]
    Request.ofArguments ["scan", "/"] = .ok (.scan r) ∧
      Request.ofArguments ["scan", "/", "--format=json"] =
        .ok (.scan { r with format := .json }) ∧
      Reported t false r reply ∧ ¬ Refused t r reply ∧ reply.exit.code = 1 ∧
      reply.stdout = "T.java:1: [error] PARSE_ERROR — could not analyze file: syntax error at " ++
        "line 1\n\n✘ 1 violation in 1 file (1 error, 0 warnings, 0 info)\n  PARSE_ERROR  1\n" ++
        "Compliance score: 90/100 (1 file scanned)\n" ∧
      (run t {} ["scan", "/", "--format=json"]).exit = reply.exit ∧
      Refused t { r with config := some "/x" } refusal ∧ refusal.exit.code = 2 ∧
      refusal.stderr = "Error: Failed to read config file: \"/x\": " ++
        "No such file or directory (os error 2)\n" := by
  intro t r reply refusal
  have parsed : Request.ofArguments ["scan", "/"] = .ok (.scan r) := by decide +kernel
  have parsed' : Request.ofArguments ["scan", "/", "--format=json"] =
      .ok (.scan { r with format := .json }) := by decide +kernel
  have parsed'' : Request.ofArguments ["scan", "/", "--config=/x"] =
      .ok (.scan { r with config := some "/x" }) := by decide +kernel
  have computed : (({} : Settings).policy.toOption.map fun p =>
      (p.rules.isEmpty, p.rules.contains .missingLayerStructure, p.dialectOf? "T.java",
        p.ignored "T.java", (p.analyze strayBrace).outcome p "T.java")) =
      some (false, false, some .java, false, .analyzed [strayBraceFound]) := by
    decide +kernel
  obtain ⟨p, valid, facts⟩ := Settings.exists_policy_of_computed computed
  simp only [Prod.mk.injEq, List.isEmpty_eq_false_iff] at facts
  obtain ⟨busy, noProject, known, kept, outcome⟩ := facts
  have scanned : t.scan p "/" false = .ok (.ofResults [("T.java", [strayBraceFound])] 1) :=
    FileTree.scan_ofFiles [(strayBrace, [strayBraceFound])] busy noProject
      (List.forall_mem_singleton.mpr ⟨by decide, known, kept⟩) (List.pairwise_singleton _ _)
      (List.forall_mem_singleton.mpr outcome)
  have report : Report.ofResults [("T.java", [strayBraceFound])] 1 = ⟨[strayBraceFound], 1⟩ :=
    congrArg (Report.mk · 1) (canonical_singleton _)
  have loads : Loads t r {} :=
    loads_defaults_of_lone_file (by decide) (by decide) rfl (by rw [canonical_root rfl]; rfl)
  obtain ⟨exit, stdout⟩ : reply.exit = _ ∧ reply.stdout = _ :=
    run_of_scan parsed loads valid scanned
  rw [report] at exit stdout
  have code : reply.exit.code = 1 := by
    rw [exit]
    decide
  obtain ⟨ends, broken, format⟩ := run_scan_outcome t {} ["scan", "/"] r parsed
  have whole : ¬ MeetsBreak t r := by
    intro breaks
    cases code.symm.trans (broken breaks).1
  have reported : Reported t false r reply ∧ ¬ Refused t r reply := by
    rcases ends.mpr whole with ⟨refused, -⟩ | reported
    · cases code.symm.trans refused.code
    · exact reported
  have missing : t.readText (Path.join "/" "x") = .error .notFound :=
    FileTree.readText_child_of_absent (FileTree.locate_root rfl) rfl (by decide) rfl
  rw [(by decide : Path.join "/" "x" = "/x")] at missing
  have fails : Fails t { r with config := some "/x" } (.load (.unreadable "/x" .notFound)) :=
    .load (.unreadable rfl missing)
  obtain ⟨refused, stderr⟩ :
      Refused t { r with config := some "/x" } refusal ∧ refusal.stderr = _ :=
    run_of_fails parsed'' fails
  refine ⟨parsed, parsed', reported.1, reported.2, code, stdout.trans (by decide +kernel),
    format {} _ .json parsed', refused, refused.code, stderr.trans (by decide +kernel)⟩

/-! ### A run that breaks off -/

/-- A scan of a root directory that holds one file, at which the analysis breaks off. -/
theorem meetsBreak_of_lone_file [Engine] {p : Policy} {f : SourceFile}
    (noFile : f.path ≠ settingsFileName)
    (noMark : f.path ≠ repositoryMark) (valid : ({} : Settings).policy = .ok p)
    (busy : p.rules ≠ []) (takes : p.Takes f) (aborted : p.analyze f = .aborted) :
    MeetsBreak (FileTree.ofFiles [f]) { root := "/" } := by
  have found : (p.discoverIn ([f].map SourceFile.entry)).files = [f] :=
    p.discoverIn_entries (List.forall_mem_singleton.mpr takes) (List.pairwise_singleton _ f)
  refine ⟨p, _, ?_, f, found ▸ List.mem_singleton_self f, (p.analyze_eq_aborted_iff f).mp aborted⟩
  have loads : Loads (FileTree.ofFiles [f]) { root := "/" } {} :=
    loads_defaults_of_lone_file noFile noMark rfl (by rw [canonical_root rfl]; rfl)
  exact .intro loads valid busy (FileTree.locate_root rfl) rfl

def brokenText : ByteArray :=
  "class T \x7b void M() \x7b F(@\"\"\"€\"); \x7d \x7d".toUTF8

/-- A scan of one file at which the analysis breaks off is neither refused nor reported. -/
theorem run_scan_breaks_off :
    let t : FileTree := { root := .directory [("T.cs", .file brokenText)] }
    let r : ScanRequest := { root := "/" }
    let reply := run t {} ["scan", "/"]
    Request.ofArguments ["scan", "/"] = .ok (.scan r) ∧
      ¬ Xor (Refused t r reply) (Reported t false r reply) ∧ reply.exit.code = 101 := by
  have parsed : Request.ofArguments ["scan", "/"] = .ok (.scan { root := "/" }) := by
    decide +kernel
  have computed : (({} : Settings).policy.toOption.map fun p =>
      (p.rules.isEmpty, p.dialectOf? "T.cs", p.ignored "T.cs",
        p.analyze ⟨"T.cs", .csharp, brokenText⟩ == .aborted)) =
      some (false, some .csharp, false, true) := by
    decide +kernel
  have isName : Entry.IsName "T.cs" := by decide
  have noFile : "T.cs" ≠ settingsFileName := by decide
  have noMark : "T.cs" ≠ repositoryMark := by decide
  -- From here on the text has no part.
  generalize brokenText = content at computed ⊢
  intro t r reply
  obtain ⟨p, valid, facts⟩ := Settings.exists_policy_of_computed computed
  simp only [Prod.mk.injEq, List.isEmpty_eq_false_iff, beq_iff_eq] at facts
  obtain ⟨busy, known, kept, aborted⟩ := facts
  have takes : p.Takes ⟨"T.cs", .csharp, content⟩ := ⟨isName, known, kept⟩
  have breaks : MeetsBreak t r := meetsBreak_of_lone_file noFile noMark valid busy takes aborted
  exact ⟨parsed, fun ends => (xor_run_iff parsed).mp ends breaks, (run_of_break parsed breaks).1⟩

end LayerLint.CommandLine
