import LayerLint.Proofs.Discovery
import LayerLint.Proofs.Report.Canonical
import LayerLint.Proofs.Scan.Origin
import LayerLint.Proofs.Scan.Schedule

/-! Files do not touch each other in a report. What a report holds of a file is what the analysis of
this file alone gives, whatever else is in the tree; the rest of the report is at most one entry on
the project as a whole. -/

namespace LayerLint

def Report.entriesAt (r : Report) (path : String) : List Violation :=
  r.violations.filter fun v => v.file == path

/-- The violations in a report on one analyzed file alone; there are none if the file was
skipped. -/
def Analysis.entries (p : Policy) (path : String) (a : Analysis) : List Violation :=
  match a.outcome p path with
  | .analyzed violations => (Report.ofResults [(path, violations)] 1).violations
  | .skipped | .aborted => []

theorem Analysis.entries_eq_canonical (p : Policy) (path : String) (a : Analysis) :
    a.entries p path = canonical (a.outcome p path).violations := by
  unfold entries
  cases a.outcome p path with
  | analyzed violations => exact congrArg canonical (List.flatMap_singleton ..)
  | skipped => exact canonical_nil.symm
  | aborted => exact canonical_nil.symm

section

variable [Engine]

namespace Policy

/-- A file is skipped if it is too large, and is analyzed otherwise, unless a worker breaks down. -/
theorem analyze_cases (p : Policy) (f : SourceFile) :
    p.maxFileBytes < f.content.size ∧ (p.analyze f).outcome p f.path = .skipped ∨
      f.content.size ≤ p.maxFileBytes ∧
        (p.analyze f = .aborted ∨
          ∃ violations, (p.analyze f).outcome p f.path = .analyzed violations) := by
  by_cases large : p.maxFileBytes < f.content.size
  · rw [analyze, analyzeContent, if_pos large]
    exact .inl ⟨large, rfl⟩
  · rw [analyze, analyzeContent, if_neg large, analyzeText]
    refine .inr ⟨Nat.le_of_not_lt large, ?_⟩
    cases extract f.dialect p.budget (Text.textOfBytes f.content) with
    | models classes => exact .inr ⟨_, rfl⟩
    | failed failure => exact .inr ⟨_, rfl⟩
    | aborted => exact .inl rfl

def violationsIn (p : Policy) (f : SourceFile) : List Violation :=
  ((p.analyze f).outcome p f.path).violations

theorem mem_violationsIn {p : Policy} {f : SourceFile} {v : Violation}
    (member : v ∈ p.violationsIn f) :
    v.file = f.path ∧ f.content.size ≤ p.maxFileBytes := by
  refine ⟨(Analysis.mem_outcome member).1, ?_⟩
  rcases p.analyze_cases f with ⟨-, skipped⟩ | ⟨small, -⟩
  · rw [violationsIn, skipped] at member
    cases member
  · exact small

theorem reportOn_violations (p : Policy) (entries : List (String × Entry))
    (files : List SourceFile) :
    (p.reportOn entries files).violations =
      canonical (files.flatMap p.violationsIn ++ p.projectPart entries) := by
  rw [reportOn, reportOf_violations, List.flatMap_map]
  rfl

/-- The files of a report are those that are not too large. -/
theorem filesScanned_reportOn (p : Policy) (entries : List (String × Entry))
    {files : List SourceFile} (whole : ∀ f ∈ files, p.analyze f ≠ .aborted) :
    (p.reportOn entries files).filesScanned =
      files.countP fun f => f.content.size ≤ p.maxFileBytes := by
  simp only [reportOn, reportOf, Report.ofResults, resultsOf, List.filterMap_map,
    List.length_filterMap_eq_countP]
  refine List.countP_congr fun f member => ?_
  dsimp only [Function.comp_apply]
  rw [decide_eq_true_iff]
  rcases p.analyze_cases f with ⟨large, skipped⟩ | ⟨small, aborted | ⟨violations, analyzed⟩⟩
  · rw [skipped]
    exact ⟨fun counted => absurd counted Bool.false_ne_true,
      fun small => absurd small (Nat.not_le_of_lt large)⟩
  · exact absurd aborted (whole f member)
  · rw [analyzed]
    exact ⟨fun _ => small, fun _ => rfl⟩

/-- What a report holds at a path: the violations of the files with this path, and that of the
project if it is the project's. -/
theorem entriesAt_reportOn (p : Policy) (entries : List (String × Entry)) (files : List SourceFile)
    (path : String) :
    (p.reportOn entries files).entriesAt path =
      canonical ((files.filter fun f => f.path == path).flatMap p.violationsIn ++
        (p.projectPart entries).filter fun v => v.file == path) := by
  have own : ∀ f, ∀ v ∈ p.violationsIn f, v.file = f.path :=
    fun f v member => (mem_violationsIn member).1
  rw [Report.entriesAt, reportOn_violations,
    flatMap_filter_origin Violation.file own (· == path), ← List.filter_append]
  exact (canonical_filter (fun k => k.2.1 == path) _).symm

/-- What a report holds at the path of a regular file is what this file gives, if it is taken up. -/
theorem entriesAt_displayPath (p : Policy) {entries : List (String × Entry)}
    (wf : (Entry.directory entries).WellFormed) {loc : Location} {content : ByteArray}
    (found : (Entry.directory entries).at? loc = some (.file content)) :
    (p.reportOn entries (p.discoverIn entries).files).entriesAt (displayPath loc) =
      canonical ((p.sourceAt? loc content).toList.flatMap p.violationsIn) := by
  have project : (p.projectPart entries).filter (fun v => v.file == displayPath loc) = [] := by
    refine List.filter_eq_nil_iff.mpr fun v member same => ?_
    have file : v.file = projectPath := (mem_projectPart member).1
    exact displayPath_ne_current wf found ((eq_of_beq same).symm.trans file)
  rw [entriesAt_reportOn, p.filter_path_discoverIn wf found, project, List.append_nil]

/-- What a report holds at the path of the project is the violation of the project. -/
theorem entriesAt_projectPath (p : Policy) {entries : List (String × Entry)}
    (wf : (Entry.directory entries).WellFormed) :
    (p.reportOn entries (p.discoverIn entries).files).entriesAt projectPath =
      p.projectPart entries := by
  have files : (p.discoverIn entries).files.filter (fun f => f.path == projectPath) = [] := by
    refine List.filter_eq_nil_iff.mpr fun f member same => ?_
    obtain ⟨loc, path, found, -⟩ := (p.mem_discoverIn wf).mp member
    exact displayPath_ne_current wf found (path ▸ eq_of_beq same)
  have project : (p.projectPart entries).filter (fun v => v.file == projectPath) =
      p.projectPart entries :=
    List.filter_eq_self.mpr fun v member => beq_of_eq (mem_projectPart member).1
  rw [entriesAt_reportOn, files, project, List.flatMap_nil, List.nil_append]
  rcases p.projectPart_eq entries with none | ⟨message, one⟩
  · rw [none, canonical_nil]
  · rw [one, canonical_singleton]

/-- What a report holds at the path of a file found is the report on this file alone. -/
theorem entriesAt_of_mem_discoverIn (p : Policy) {entries : List (String × Entry)}
    (wf : (Entry.directory entries).WellFormed) {f : SourceFile}
    (member : f ∈ (p.discoverIn entries).files) :
    (p.reportOn entries (p.discoverIn entries).files).entriesAt f.path =
      (p.analyze f).entries p f.path := by
  obtain ⟨loc, path, found, enters, rest⟩ := (p.mem_discoverIn wf).mp member
  have source : p.sourceAt? loc f.content = some f :=
    sourceAt?_eq_some_iff.mpr ⟨path, rfl, enters, rest⟩
  rw [Analysis.entries_eq_canonical, path, p.entriesAt_displayPath wf found, source, ← path]
  exact congrArg canonical (List.flatMap_singleton ..)

/-- Every violation of a report is in a file found that is not too large, or it is the only one at
the path of the project. -/
theorem mem_reportOn (p : Policy) {entries : List (String × Entry)}
    (wf : (Entry.directory entries).WellFormed) {v : Violation}
    (member : v ∈ (p.reportOn entries (p.discoverIn entries).files).violations) :
    (∃ f ∈ (p.discoverIn entries).files, f.content.size ≤ p.maxFileBytes ∧ v.file = f.path) ∨
      (p.reportOn entries (p.discoverIn entries).files).entriesAt projectPath = [v] := by
  rw [reportOn_violations] at member
  rcases List.mem_append.mp (mem_of_mem_canonical member) with inFile | ofProject
  · obtain ⟨f, found, here⟩ := List.mem_flatMap.mp inFile
    obtain ⟨file, small⟩ := mem_violationsIn here
    exact .inl ⟨f, found, small, file⟩
  · rw [p.entriesAt_projectPath wf]
    exact .inr (mem_projectPart ofProject).2

end Policy

theorem Analysis.entries_of_oversized (p : Policy) {f : SourceFile}
    (large : p.maxFileBytes < f.content.size) : (p.analyze f).entries p f.path = [] := by
  rcases p.analyze_cases f with ⟨-, skipped⟩ | ⟨small, -⟩
  · rw [entries, skipped]
  · exact absurd large (Nat.not_lt_of_le small)

/-- A file that is read by the path of its location gives the analysis of its content. -/
theorem FileTree.analyze_pathOf {t : FileTree} (p : Policy) (wf : t.root.WellFormed)
    {loc : Location} (nonempty : loc ≠ []) {f : SourceFile}
    (found : t.root.at? loc = some (.file f.content)) :
    t.analyze p (pathOf loc) f.dialect = p.analyze f := by
  rw [analyze, read_pathOf wf nonempty found]
  rfl

/-- Files do not touch each other in a report. At the path of a file found, the report of a scan
holds what the analysis of this file alone gives, and nothing if the file is too large. Every
violation is in a file found that is not too large, or is the only one at the path of the project.
The files counted are those that are not too large. And of two scans under one policy, whatever the
trees, the reports hold the same at the path of a file that both trees hold. -/
theorem FileTree.scan_isolates_files (t : FileTree) (p : Policy) (path : String) (r : Report)
    (wf : t.root.WellFormed) (ok : t.scan p path false = .ok r) :
    ∃ root, t.locate path = .ok root ∧
      (∀ f ∈ (t.discover p path).files, ∃ loc, f.path = Policy.displayPath loc ∧
        t.root.at? (root ++ loc) = some (.file f.content) ∧
        r.entriesAt f.path = (t.analyze p (pathOf (root ++ loc)) f.dialect).entries p f.path ∧
        (p.maxFileBytes < f.content.size → r.entriesAt f.path = [])) ∧
      (∀ v ∈ r.violations,
        (∃ f ∈ (t.discover p path).files, f.content.size ≤ p.maxFileBytes ∧ v.file = f.path) ∨
          r.entriesAt projectPath = [v]) ∧
      r.filesScanned =
        (t.discover p path).files.countP (fun f => f.content.size ≤ p.maxFileBytes) ∧
      ∀ (t' : FileTree) (path' : String) (r' : Report) (root' : Location),
        t'.root.WellFormed → t'.scan p path' false = .ok r' → t'.locate path' = .ok root' →
        ∀ loc content, t.root.at? (root ++ loc) = some (.file content) →
          t'.root.at? (root' ++ loc) = some (.file content) →
          r'.entriesAt (Policy.displayPath loc) = r.entriesAt (Policy.displayPath loc) := by
  obtain ⟨root, entries, located, here, discovered, whole, rfl⟩ :=
    t.exists_of_scan_eq_ok p path ok
  have wfEntries := (wf.at? here).2
  have below : ∀ loc, t.root.at? (root ++ loc) = (Entry.directory entries).at? loc := by
    intro loc
    rw [Entry.at?_append, here, Option.bind_some]
  rw [discovered]
  refine ⟨root, located, fun f member => ?_, fun v member => p.mem_reportOn wfEntries member,
    p.filesScanned_reportOn entries whole, ?_⟩
  · obtain ⟨loc, shown, found, -⟩ := (p.mem_discoverIn wfEntries).mp member
    have read : t.root.at? (root ++ loc) = some (.file f.content) := (below loc).trans found
    have nonempty : root ++ loc ≠ [] :=
      List.append_ne_nil_of_right_ne_nil root (Entry.ne_nil_of_at?_file found)
    refine ⟨loc, shown, read, ?_, fun large => ?_⟩
    · rw [analyze_pathOf p wf nonempty read]
      exact p.entriesAt_of_mem_discoverIn wfEntries member
    · rw [p.entriesAt_of_mem_discoverIn wfEntries member, Analysis.entries_of_oversized p large]
  · intro t' path' r' root' wf' ok' located' loc content found found'
    obtain ⟨start, entries', started, here', -, -, rfl⟩ := t'.exists_of_scan_eq_ok p path' ok'
    obtain rfl := Except.ok.inj (located'.symm.trans started)
    rw [Entry.at?_append, here', Option.bind_some] at found'
    rw [below] at found
    rw [p.entriesAt_displayPath (wf'.at? here').2 found', p.entriesAt_displayPath wfEntries found]

end

/-- On one line the rule on lengths stands before the rule on names. -/
theorem canonical_violationsOfTest (path method : String) :
    canonical (violationsOfTest path method) = (violationsOfTest path method).reverse := by
  refine canonical_of_perm (List.reverse_perm _) ?_
  have ids : RuleId.longTestFunction.id < RuleId.poorTestNaming.id := by decide
  exact List.pairwise_pair.mpr (.inr ⟨rfl, .inr ⟨rfl, ids⟩⟩)

namespace FileTree

/-- The report holds the two violations of a test, also beside another test, whose violations it
holds too. -/
theorem scan_isolates_files_two_tests :
    let p := Policy.testsOnly
    let lone := ofFiles [.firstTest]
    lone.root.WellFormed ∧ twoTests.root.WellFormed ∧
      ∃ r r', lone.scan p "/" false = .ok r ∧ twoTests.scan p "/" false = .ok r' ∧
        r.entriesAt "A.java" = (violationsOfTest "A.java" "a").reverse ∧
        r'.entriesAt "A.java" = (violationsOfTest "A.java" "a").reverse ∧
        r'.entriesAt "B.java" = (violationsOfTest "B.java" "b").reverse ∧
        r'.filesScanned = 2 := by
  intro p lone
  have wf : lone.root.WellFormed := by
    refine wellFormed_ofFiles ?_ (List.nodup_singleton _)
    exact List.forall_mem_singleton.mpr (takes_testResults _ List.mem_cons_self).isName
  have wf' := wellFormed_twoTests
  have ok :
      lone.scan p "/" false = .ok (.ofResults [("A.java", violationsOfTest "A.java" "a")] 1) :=
    scan_ofFiles [(.firstTest, violationsOfTest "A.java" "a")] (by decide) (by decide)
      (fun x member =>
        takes_testResults x (List.mem_cons.mpr (.inl (List.mem_singleton.mp member))))
      (List.pairwise_singleton _ _) (List.forall_mem_singleton.mpr Policy.outcome_firstTest)
  obtain ⟨root, located, own, -, -, same⟩ :=
    twoTests.scan_isolates_files p "/" _ wf' scan_twoTests
  obtain rfl := Except.ok.inj (located.symm.trans (locate_root rfl))
  rw [discover_twoTests] at own
  -- What the report holds of a test is what the analysis of the test gives.
  have holds : ∀ x ∈ testResults,
      (Report.ofResults (testResults.map fun x => (x.1.path, x.2)) 2).entriesAt x.1.path =
        LayerLint.canonical x.2 := by
    intro x member
    obtain ⟨loc, -, found, entries, -⟩ := own x.1 (List.mem_map_of_mem member)
    rw [entries, analyze_pathOf p wf' (Entry.ne_nil_of_at?_file found) found,
      Analysis.entries_eq_canonical, analyzed_testResults x member]
    rfl
  have first := holds _ List.mem_cons_self
  have second := holds _ (List.mem_cons_of_mem _ List.mem_cons_self)
  have again := same lone "/" _ [] wf ok (locate_root rfl) ["A.java"] _ rfl rfl
  rw [canonical_violationsOfTest] at first second
  exact ⟨wf, wf', _, _, ok, scan_twoTests, again.trans first, first, second, rfl⟩

end FileTree

end LayerLint
