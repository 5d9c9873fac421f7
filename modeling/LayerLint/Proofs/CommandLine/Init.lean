import LayerLint.Proofs.CommandLine.Outcome
import LayerLint.Proofs.Settings.RoundTrip

/-! Writing the default settings. The file that is written states the settings that held without it,
and is no source file, so that no scan tells whether it is there. A settings file that exists is
never touched. -/

namespace LayerLint

/-! ### The text of the default settings -/

namespace Settings

open Json

theorem ofText_text_newline (s : Settings) : Settings.ofText (s.text ++ "\n") = .ok s := by
  obtain ⟨a, cs, b, before, spelled, after, chars⟩ := spellsDocument_text s.value
  have last : Blanks (b ++ ['\n']) := by
    intro c member
    rcases List.mem_append.mp member with inside | ending
    · exact after c inside
    · obtain rfl := List.mem_singleton.mp ending
      decide
  refine ofText_of_spellsDocument ⟨a, cs, b ++ ['\n'], before, spelled, last, ?_⟩
  have text : s.text.toList = a ++ (cs ++ b) := chars
  rw [String.toList_append, text, List.append_assoc, List.append_assoc]
  rfl

theorem check_defaults : ({} : Settings).check = .ok () := by
  have valid : ({} : Settings).policy.toOption.isSome = true := by
    decide +kernel
  cases policy : ({} : Settings).policy with
  | error fault =>
      rw [policy] at valid
      cases valid
  | ok p =>
      rw [check, policy]
      rfl

end Settings

/-! ### Scans with one more file -/

theorem Entry.setIn_of_absent {entries : List (String × Entry)} {name : String}
    (absent : entries.lookup name = none) (e : Entry) :
    setIn name e entries = entries ++ [(name, e)] := by
  induction entries with
  | nil => rfl
  | cons head rest ih =>
      obtain ⟨n, old⟩ := head
      rw [List.lookup_cons] at absent
      split at absent
      · cases absent
      · next differ =>
          have other : (n == name) = false := by
            rw [Bool.eq_false_iff]
            intro same
            rw [eq_of_beq same, beq_self_eq_true] at differ
            cases differ
          rw [setIn, other, if_neg Bool.false_ne_true, ih absent]
          rfl

namespace Policy

theorem discoverIn_concat_file (p : Policy) (entries : List (String × Entry)) {name : String}
    (unknown : p.dialectAt? [name] = none) (content : ByteArray) :
    p.discoverIn (entries ++ [(name, .file content)]) = p.discoverIn entries := by
  have files : p.filesIn [] (entries ++ [(name, .file content)]) =
      p.filesIn [] entries ++ [([name], content)] := by
    rw [filesIn_eq_flatMap, filesIn_eq_flatMap, List.flatMap_append, List.flatMap_singleton,
      filesAt]
    rfl
  have none : p.candidates [([name], content)] = [] :=
    List.filterMap_cons_none (Option.map_eq_none_iff.mpr unknown)
  have split : p.candidates (p.filesIn [] entries ++ [([name], content)]) =
      p.candidates (p.filesIn [] entries) ++ p.candidates [([name], content)] :=
    List.filterMap_append
  rw [discoverIn, discoverIn, files, split, none, List.append_nil]

theorem projectViolations_concat_file (p : Policy) (entries : List (String × Entry))
    (name : String) (content : ByteArray) :
    p.projectViolations (entries ++ [(name, .file content)]) = p.projectViolations entries := by
  have directories : (entries ++ [(name, Entry.file content)]).filter (·.2.isDirectory) =
      entries.filter (·.2.isDirectory) := by
    rw [List.filter_append]
    exact List.append_nil _
  simp only [projectViolations, missingLayers, directories]

end Policy

namespace FileTree

section

variable {t : FileTree} {path : String} {dir : Location} {entries : List (String × Entry)}
  (here : t.root.at? dir = some (.directory entries)) {name : String}
  (absent : entries.lookup name = none)

include here absent

theorem at?_withFile (content : ByteArray) :
    (t.withFile (dir ++ [name]) content).root.at? dir =
      some (.directory (entries ++ [(name, .file content)])) := by
  rw [root_withFile, Entry.at?_put here, Entry.setIn_of_absent absent]

theorem locate_withFile {path : String} {loc : Location} (located : t.locate path = .ok loc)
    (content : ByteArray) : (t.withFile (dir ++ [name]) content).locate path = .ok loc := by
  refine locate_of_keptIn (current_withFile _ _ _) (Entry.keptIn_put_file ?_ content) located
  intro e found
  rw [Entry.at?_concat here, absent] at found
  cases found

/-- A new file that is no source file does not show in a scan of its directory. -/
theorem scan_withFile [Engine] (located : t.locate path = .ok dir) (p : Policy)
    (unknown : p.dialectAt? [name] = none) (content : ByteArray) :
    (t.withFile (dir ++ [name]) content).scan p path false = t.scan p path false := by
  have found : t.scanRoot path = .ok (pathOf dir, entries) :=
    (t.scanRoot_eq_ok_iff path).mpr ⟨dir, located, here, rfl⟩
  have found' := (scanRoot_eq_ok_iff _ path).mpr
    ⟨dir, locate_withFile here absent located content, at?_withFile here absent content, rfl⟩
  rw [scan_eq, scan_eq, found, found']
  simp only [p.discoverIn_concat_file entries unknown, completeScan, Policy.reportOn, reportOf,
    Policy.projectViolations_concat_file]

end

end FileTree

/-! ### The command -/

theorem Policy.dialectAt?_settingsFileName (p : Policy) :
    p.dialectAt? [settingsFileName] = none := by
  have extension : Path.extensionOf? settingsFileName = some "json" := by
    decide
  have other : Dialect.ofExtension? (Text.lowerAscii "json") = none := by
    decide +kernel
  show (Path.extensionOf? settingsFileName).bind p.dialectFor? = none
  rw [extension, Option.bind_some, dialectFor?, other, ite_self]

namespace FileTree

theorem isName_settingsFileName : Entry.IsName settingsFileName := by
  decide

def defaultContent : ByteArray :=
  (({} : Settings).text ++ "\n").toUTF8

theorem loadSettingsFile_default {t : FileTree} {path : String} {loc : Location}
    (located : t.locate path = .ok loc) (found : t.root.at? loc = some (.file defaultContent)) :
    t.loadSettingsFile path = .ok ⟨{}, some path⟩ := by
  have valid : String.fromUTF8? defaultContent = some (({} : Settings).text ++ "\n") :=
    dif_pos (String.isValidUTF8 _)
  have read : t.readText path = .ok (({} : Settings).text ++ "\n") := by
    simp only [readText, FileTree.read, located, found, bind, Except.bind, pure, Except.pure, valid]
  simp only [loadSettingsFile, bind, Except.bind, Except.mapError, read,
    Settings.ofText_text_newline, Settings.check_defaults]
  rfl

theorem locate_pathOf_directory {t : FileTree} (wf : t.root.WellFormed) {dir : Location}
    {entries : List (String × Entry)} (here : t.root.at? dir = some (.directory entries)) :
    t.locate (pathOf dir) = .ok dir := by
  cases dir with
  | nil => exact locate_root (Option.some.inj here)
  | cons name rest =>
      exact locate_pathOf wf (List.cons_ne_nil _ _) here fun _ => nofun

theorem canonical_of_located {t : FileTree} {path : String} {dir : Location}
    (located : t.locate path = .ok dir) : t.canonical path = .ok (pathOf dir) := by
  rw [canonical, located]
  rfl

theorem loadSettings_of_found [Engine] {t : FileTree} {path file : String} {dir : Location}
    (located : t.locate path = .ok dir) (found : t.findSettings (pathOf dir) = some file) :
    t.loadSettings path = t.loadSettingsFile file := by
  unfold loadSettings
  simp only [canonical_of_located located, found]

theorem loadSettings_of_none [Engine] {t : FileTree} {path : String} {dir : Location}
    (located : t.locate path = .ok dir) (nowhere : t.findSettings (pathOf dir) = none) :
    t.loadSettings path = .ok ⟨{}, none⟩ := by
  unfold loadSettings
  simp only [canonical_of_located located, nowhere]

section

variable {t : FileTree} {path : String} {dir : Location} {entries : List (String × Entry)}
  (located : t.locate path = .ok dir) (here : t.root.at? dir = some (.directory entries))
  (absent : entries.lookup settingsFileName = none)

include located here absent

theorem initCommand_of_absent :
    (t.initCommand path).result = .ok (t.withFile (dir ++ [settingsFileName]) defaultContent) := by
  have new := exists?_child_of_absent located here isName_settingsFileName absent
  have written :=
    write_child_of_absent located here isName_settingsFileName absent defaultContent
  simp only [initCommand, settingsPath, new, Bool.false_eq_true, if_false]
  rw [← defaultContent, written]

/-- The file with the default settings is found and states them. -/
theorem loadSettings_withFile (wf : t.root.WellFormed) :
    (t.withFile (dir ++ [settingsFileName]) defaultContent).loadSettings path =
      .ok ⟨{}, some (Path.join (pathOf dir) settingsFileName)⟩ := by
  have inside := at?_withFile here absent defaultContent
  have found : (entries ++ [(settingsFileName, Entry.file defaultContent)]).lookup
      settingsFileName = some (.file defaultContent) := by
    rw [List.lookup_append, absent]
    rfl
  have file := locate_child
    (locate_withFile here absent (locate_pathOf_directory wf here) defaultContent) inside
    isName_settingsFileName found fun _ => nofun
  have there := (Entry.at?_concat inside settingsFileName).trans found
  have exists_ : (t.withFile (dir ++ [settingsFileName]) defaultContent).exists?
      (Path.join (pathOf dir) settingsFileName) = true := by
    unfold exists? entry?
    rw [file]
    exact congrArg Option.isSome there
  have nearest : (t.withFile (dir ++ [settingsFileName]) defaultContent).findSettings
      (pathOf dir) = some (Path.join (pathOf dir) settingsFileName) := by
    rw [findSettings, searchSettings]
    exact if_pos exists_
  rw [loadSettings_of_found (locate_withFile here absent located defaultContent) nearest]
  exact loadSettingsFile_default file there

end

theorem initCommand_of_exists {t : FileTree} {path : String}
    (there : t.exists? (settingsPath path) = true) :
    (t.initCommand path).result = .error (.alreadyExists (settingsPath path)) := by
  rw [initCommand, if_pos there]

/-- A settings file is written only where none was found, and then it is found. -/
theorem exists_of_initCommand {t t' : FileTree} {path : String}
    (ok : (t.initCommand path).result = .ok t') :
    t'.exists? (settingsPath path) = true ∧
      ∃ loc, t.root.at? loc = none ∧ t' = t.withFile loc defaultContent := by
  have nonempty : settingsPath path ≠ "" :=
    Path.join_ne_empty path isName_settingsFileName.ne_empty
  simp only [initCommand] at ok
  split at ok
  · cases ok
  · next new =>
      split at ok
      · cases ok
      · next tree written =>
          obtain rfl := Except.ok.inj ok
          refine ⟨?_, absent_of_write nonempty (Bool.eq_false_iff.mpr new) written⟩
          unfold exists?
          rw [entry?_of_write nonempty written]
          rfl

/-- What a scan gives depends on the settings, not on where they come from. -/
theorem scanCommand_congr [Engine] {t t' : FileTree} {r : CommandLine.ScanRequest}
    {a b : LoadedSettings}
    (before : t.settingsFor r = .ok a) (after : t'.settingsFor r = .ok b)
    (settings : b.settings = a.settings)
    (same : ∀ p : Policy, t'.scan p r.root false = t.scan p r.root false) :
    (t'.scanCommand r).result = (t.scanCommand r).result := by
  simp only [scanCommand, before, after, settings]
  cases (r.override a.settings).policy with
  | error fault => rfl
  | ok p => exact congrArg (Except.mapError CommandFault.scan) (same p)

end FileTree

theorem CommandLine.runInit_of_exists {t : FileTree} {path : String} (color : Bool)
    (there : t.exists? (FileTree.settingsPath path) = true) :
    (runInit t color path).exit.code = 2 ∧ (runInit t color path).tree = t := by
  have fails := FileTree.initCommand_of_exists there
  simp only [runInit, fails]
  exact ⟨rfl, rfl⟩

/-- Writing the default settings into a directory changes no scan and destroys nothing. If the
directory has no entry of the name of settings files, and no settings file holds for it, the file is
written; then the default settings are loaded from it, and every scan of the directory gives what it
gave before, under any policy and with any arguments that name no settings file. Where the file
exists, the command fails and the tree is left as it is. So it is after every success of the
command, which besides leaves all files and links as they were. -/
theorem FileTree.init_transparent :
    (∀ (t : FileTree) (path : String) (dir : Location) (entries : List (String × Entry)),
      t.root.WellFormed → t.locate path = .ok dir → t.root.at? dir = some (.directory entries) →
      entries.lookup settingsFileName = none → t.findSettings (pathOf dir) = none →
      ∃ t', (t.initCommand path).result = .ok t' ∧
        t'.loadSettings path = .ok ⟨{}, some (Path.join (pathOf dir) settingsFileName)⟩ ∧
        (∀ p : Policy, t'.scan p path false = t.scan p path false) ∧
        ∀ r : CommandLine.ScanRequest, r.root = path → r.config = none →
          (t'.scanCommand r).result = (t.scanCommand r).result) ∧
      (∀ (t : FileTree) (path : String), t.exists? (settingsPath path) = true →
        (t.initCommand path).result = .error (.alreadyExists (settingsPath path)) ∧
        ∀ color, (CommandLine.runInit t color path).exit.code = 2 ∧
          (CommandLine.runInit t color path).tree = t) ∧
      ∀ (t t' : FileTree) (path : String), (t.initCommand path).result = .ok t' →
        (∀ loc e, t.root.at? loc = some e → e.isDirectory = false → t'.root.at? loc = some e) ∧
        (t'.initCommand path).result = .error (.alreadyExists (settingsPath path)) ∧
        ∀ color, (CommandLine.runInit t' color path).exit.code = 2 ∧
          (CommandLine.runInit t' color path).tree = t' := by
  refine ⟨?_, ?_, ?_⟩
  · intro t path dir entries wf located here absent nowhere
    have loaded := loadSettings_withFile located here absent wf
    have same : ∀ p : Policy, (t.withFile (dir ++ [settingsFileName]) defaultContent).scan p path
        false = t.scan p path false := by
      intro p
      exact scan_withFile here absent located p p.dialectAt?_settingsFileName defaultContent
    refine ⟨_, initCommand_of_absent located here absent, loaded, same, ?_⟩
    rintro r rfl unnamed
    have before : t.settingsFor r = .ok ⟨{}, none⟩ := by
      rw [settingsFor, unnamed]
      exact loadSettings_of_none located nowhere
    have after : (t.withFile (dir ++ [settingsFileName]) defaultContent).settingsFor r =
        .ok ⟨{}, some (Path.join (pathOf dir) settingsFileName)⟩ := by
      rw [settingsFor, unnamed]
      exact loaded
    exact scanCommand_congr before after rfl same
  · intro t path there
    exact ⟨initCommand_of_exists there, fun color => CommandLine.runInit_of_exists color there⟩
  · intro t t' path ok
    obtain ⟨there, loc, absent, rfl⟩ := exists_of_initCommand ok
    refine ⟨?_, initCommand_of_exists there, fun color => CommandLine.runInit_of_exists color there⟩
    intro l e found noDirectory
    refine Entry.at?_put_of_absent absent _ found ?_
    intro isDirectory
    obtain ⟨inside, rfl⟩ := Entry.kind_eq_directory_iff.mp isDirectory
    cases noDirectory

def FileTree.workTree : FileTree :=
  { root := .directory [("work", .directory [("A.java", .file ⟨#[]⟩)])] }

/-- The default settings are written into the directory once; its source file stays. -/
theorem FileTree.init_transparent_work_tree :
    let t := workTree
    t.root.WellFormed ∧ t.locate "/work" = .ok ["work"] ∧ t.findSettings "/work" = none ∧
      ∃ t', (t.initCommand "/work").result = .ok t' ∧
        t'.loadSettings "/work" = .ok ⟨{}, some "/work/.gtaarc.json"⟩ ∧
        (∀ p : Policy, t'.scan p "/work" false = t.scan p "/work" false) ∧
        t'.root.at? ["work", "A.java"] = some (.file ⟨#[]⟩) ∧
        (CommandLine.runInit t' false "/work").exit.code = 2 ∧
        (CommandLine.runInit t' false "/work").tree = t' := by
  intro t
  have wf : t.root.WellFormed :=
    .singleton (by decide) (.singleton (by decide) (.file _))
  have path : pathOf ["work"] = "/work" := by decide
  have located : t.locate "/work" = .ok ["work"] := path ▸ locate_pathOf_directory wf rfl
  have top : t.locate "/" = .ok [] := locate_root rfl
  have nowhere : t.findSettings (pathOf ["work"]) = none := by
    have above : Path.parent? "/work" = some "/" := by decide
    have noneAbove : Path.parent? "/" = none := by decide
    rw [path, findSettings_eq_nearestIn, Path.upward_of_parent? above, Path.upward_of_top noneAbove,
      nearestIn_of_absent located rfl rfl rfl, nearestIn_of_absent top rfl rfl rfl, nearestIn]
  obtain ⟨t', ok, loaded, same, -⟩ :=
    init_transparent.1 t "/work" ["work"] _ wf located rfl rfl nowhere
  obtain ⟨kept, -, again⟩ := init_transparent.2.2 t t' "/work" ok
  have file : Path.join (pathOf ["work"]) settingsFileName = "/work/.gtaarc.json" := by decide
  rw [file] at loaded
  exact ⟨wf, located, path ▸ nowhere, t', ok, loaded, same, kept _ _ rfl rfl, again false⟩

end LayerLint
