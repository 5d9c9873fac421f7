import LayerLint.Proofs.Scan.Layers

/-! The order of results does not matter. Entries that never report at one place make the same
report in any order, although within an entry the first of several violations at one place counts.
The entries of a scan are of this kind, so that neither the order in which files are listed nor the
order in which workers finish shows in its report. -/

namespace LayerLint

/-- Entries of which no two different ones report at one place. -/
def Apart (results : List (String × List Violation)) : Prop :=
  ∀ a ∈ results, ∀ b ∈ results, a ≠ b → ∀ v ∈ a.2, ∀ w ∈ b.2, v.place ≠ w.place

namespace Apart

variable {results results' : List (String × List Violation)}

theorem perm (apart : Apart results) (order : results'.Perm results) : Apart results' := by
  intro a inA b inB
  exact apart a (order.mem_iff.mp inA) b (order.mem_iff.mp inB)

/-- What is found first at a place is what the one entry that reports there has first. -/
theorem find?_flatMap (apart : Apart results) {a : String × List Violation} (member : a ∈ results)
    {v : Violation} (here : v ∈ a.2) :
    (results.flatMap (·.2)).find? (fun w => w.place = v.place) =
      a.2.find? (fun w => w.place = v.place) := by
  induction results with
  | nil => cases member
  | cons b rest ih =>
      rw [List.flatMap_cons, List.find?_append]
      by_cases same : a = b
      · subst same
        have first : (a.2.find? fun w => w.place = v.place).isSome = true :=
          List.find?_isSome.mpr ⟨v, here, decide_eq_true rfl⟩
        exact Option.or_of_isSome first
      · have inRest : a ∈ rest := (List.mem_cons.mp member).resolve_left same
        have none : b.2.find? (fun w => w.place = v.place) = none := by
          apply List.find?_eq_none.mpr
          intro w inB
          simpa using apart b List.mem_cons_self a member (Ne.symm same) w inB v here
        have restApart : Apart rest := by
          intro c inC d inD
          exact apart c (List.mem_cons_of_mem b inC) d (List.mem_cons_of_mem b inD)
        rw [none, Option.none_or]
        exact ih restApart inRest

theorem canonical_perm (apart : Apart results) (order : results'.Perm results) :
    canonical (results'.flatMap (·.2)) = canonical (results.flatMap (·.2)) := by
  apply eq_of_find?_place (canonical_before _) (canonical_before _)
  intro k
  rw [find?_canonical, find?_canonical]
  by_cases found : ∃ a ∈ results, ∃ v ∈ a.2, v.place = k
  · obtain ⟨a, member, v, here, rfl⟩ := found
    rw [apart.find?_flatMap member here,
      (apart.perm order).find?_flatMap (order.mem_iff.mpr member) here]
  · have none : ∀ us : List (String × List Violation), us.Perm results →
        (us.flatMap (·.2)).find? (fun v => v.place = k) = none := by
      intro us same
      apply List.find?_eq_none.mpr
      intro v member at_k
      obtain ⟨a, inUs, here⟩ := List.mem_flatMap.mp member
      exact found ⟨a, same.mem_iff.mp inUs, v, here, of_decide_eq_true at_k⟩
    rw [none results' order, none results (.refl _)]

theorem ofResults_perm (apart : Apart results) (order : results'.Perm results)
    (filesScanned : Nat) :
    Report.ofResults results' filesScanned = Report.ofResults results filesScanned := by
  rw [Report.ofResults, Report.ofResults, apart.canonical_perm order]

end Apart

/-! ### The entries of a scan -/

/-- The entries that a scan makes its report from: those of its files and that of the project. -/
def scanEntries (p : Policy) (entries : List (String × Entry))
    (analyses : List (SourceFile × Analysis)) : List (String × List Violation) :=
  resultsOf p analyses ++
    if p.rules.contains .missingLayerStructure then [(projectPath, p.projectViolations entries)]
    else []

theorem reportOf_eq_ofResults (p : Policy) (entries : List (String × Entry))
    (analyses : List (SourceFile × Analysis)) :
    reportOf p entries analyses =
      Report.ofResults (scanEntries p entries analyses) (resultsOf p analyses).length :=
  rfl

theorem mem_resultsOf {p : Policy} {analyses : List (SourceFile × Analysis)}
    {a : String × List Violation} (member : a ∈ resultsOf p analyses) :
    ∃ x ∈ analyses, x.2.outcome p x.1.path = .analyzed a.2 ∧ a.1 = x.1.path := by
  obtain ⟨⟨f, analysis⟩, here, made⟩ := List.mem_filterMap.mp member
  dsimp only at made
  split at made
  · next violations analyzed =>
      obtain rfl := Option.some.inj made
      exact ⟨_, here, analyzed, rfl⟩
  · cases made
  · cases made

/-- An entry holds violations of the file that it is for. -/
theorem file_of_mem_scanEntries {p : Policy} {entries : List (String × Entry)}
    {analyses : List (SourceFile × Analysis)} {a : String × List Violation}
    (member : a ∈ scanEntries p entries analyses) {v : Violation} (here : v ∈ a.2) :
    v.file = a.1 := by
  rcases List.mem_append.mp member with ofFile | ofProject
  · obtain ⟨x, -, analyzed, path⟩ := mem_resultsOf ofFile
    have own : v ∈ (x.2.outcome p x.1.path).violations := by
      rw [analyzed]
      exact here
    exact (Analysis.mem_outcome own).1.trans path.symm
  · split at ofProject
    · next runs =>
        obtain rfl := List.mem_singleton.mp ofProject
        have part : v ∈ p.projectPart entries := by
          rw [Policy.projectPart, if_pos runs]
          exact here
        exact (Policy.mem_projectPart part).1
    · cases ofProject

namespace Policy

variable [Engine] (p : Policy) {entries : List (String × Entry)} {files : List SourceFile}

theorem mem_scanEntries_map {a : String × List Violation}
    (member : a ∈ scanEntries p entries (files.map fun f => (f, p.analyze f))) :
    (∃ f ∈ files, (p.analyze f).outcome p f.path = .analyzed a.2 ∧ a.1 = f.path) ∨
      a = (projectPath, p.projectViolations entries) := by
  rcases List.mem_append.mp member with ofFile | ofProject
  · obtain ⟨x, inFiles, analyzed, path⟩ := mem_resultsOf ofFile
    obtain ⟨f, found, rfl⟩ := List.mem_map.mp inFiles
    exact .inl ⟨f, found, analyzed, path⟩
  · split at ofProject
    · exact .inr (List.mem_singleton.mp ofProject)
    · cases ofProject

/-- Every entry of a scan is for a path of its own, so that no two report at one place. -/
theorem apart_scanEntries (wf : (Entry.directory entries).WellFormed)
    (listed : files.Perm (p.discoverIn entries).files) :
    Apart (scanEntries p entries (files.map fun f => (f, p.analyze f))) := by
  have notProject : ∀ f ∈ files, f.path ≠ projectPath := by
    intro f member
    obtain ⟨loc, path, found, -⟩ := (p.mem_discoverIn wf).mp (listed.mem_iff.mp member)
    rw [path]
    exact displayPath_ne_current wf found
  have distinct : (files.map SourceFile.path).Nodup :=
    (listed.map SourceFile.path).nodup_iff.mpr (p.nodup_discoverIn wf)
  intro a inA b inB differ v hereV w hereW same
  have path : a.1 = b.1 := by
    rw [← file_of_mem_scanEntries inA hereV, ← file_of_mem_scanEntries inB hereW]
    exact (Violation.place_eq_iff.mp same).2.1
  apply differ
  rcases p.mem_scanEntries_map inA with ⟨f, inF, analyzed, pathA⟩ | projectA <;>
    rcases p.mem_scanEntries_map inB with ⟨g, inG, analyzed', pathB⟩ | projectB
  · obtain rfl := List.inj_on_of_nodup_map distinct inF inG (pathA.symm.trans (path.trans pathB))
    rw [analyzed] at analyzed'
    exact Prod.ext path (Outcome.analyzed.inj analyzed')
  · exact absurd (pathA.symm.trans (path.trans (congrArg Prod.fst projectB))) (notProject f inF)
  · exact absurd (pathB.symm.trans (path.symm.trans (congrArg Prod.fst projectA)))
      (notProject g inG)
  · exact projectA.trans projectB.symm

end Policy

/-! ### The order in which workers finish -/

/-- What the workers have made of the files, in the order in which they finished. -/
def Progress.finished (st : Progress) (files : List SourceFile) : List (SourceFile × Analysis) :=
  st.done.reverse.filterMap fun (i, made) =>
    files[i]?.bind fun f => made.map fun a => (f, a)

theorem filterMap_getElem?_range {α : Type} (xs : List α) :
    (List.range xs.length).filterMap (fun i => xs[i]?) = xs := by
  induction xs with
  | nil => rfl
  | cons x xs ih =>
      rw [List.length_cons, List.range_succ_eq_map, List.filterMap_cons, List.filterMap_map]
      exact congrArg (x :: ·) ih

/-- Workers that are not cancelled make the analyses of all files, in some order. -/
theorem Schedule.finished_perm [Engine] (p : Policy) (files : List SourceFile)
    (s : Schedule files.length) (never : Step.cancel ∉ s.before) :
    ((Progress.run (p.analysisAt files) s.steps).finished files).Perm
      (files.map fun f => (f, p.analyze f)) := by
  have each : ∀ i, (files[i]?.bind fun f => (some (p.analysisAt files i)).map fun a => (f, a)) =
      files[i]?.map fun f => (f, p.analyze f) := by
    intro i
    cases here : files[i]? with
    | none => rfl
    | some f => simp only [Policy.analysisAt, here, Option.bind_some, Option.map_some]
  have finished : (Progress.run (p.analysisAt files) s.steps).finished files =
      (s.before.filterMap Step.file?).filterMap fun i =>
        files[i]?.map fun f => (f, p.analyze f) := by
    rw [Progress.finished, s.run_done_of_no_cancel _ never, List.reverse_reverse,
      List.filterMap_map]
    exact List.filterMap_congr fun i _ => each i
  have inTurn : (List.range files.length).filterMap
      (fun i => files[i]?.map fun f => (f, p.analyze f)) = files.map fun f => (f, p.analyze f) := by
    rw [← List.map_filterMap, filterMap_getElem?_range]
  rw [finished, ← inTurn]
  exact s.each_once.filterMap _

theorem scanEntries_perm {p : Policy} {entries : List (String × Entry)}
    {analyses analyses' : List (SourceFile × Analysis)} (order : analyses'.Perm analyses) :
    (scanEntries p entries analyses').Perm (scanEntries p entries analyses) :=
  (order.filterMap _).append_right _

theorem reportOf_perm {p : Policy} {entries : List (String × Entry)}
    {analyses analyses' : List (SourceFile × Analysis)}
    (apart : Apart (scanEntries p entries analyses)) (order : analyses'.Perm analyses) :
    reportOf p entries analyses' = reportOf p entries analyses := by
  have count : (resultsOf p analyses').length = (resultsOf p analyses).length :=
    (order.filterMap _).length_eq
  rw [reportOf_eq_ofResults, reportOf_eq_ofResults, count,
    apart.ofResults_perm (scanEntries_perm order)]

/-- The order of results does not matter. Entries of which no two report at one place make the same
report in every order. The entries of a scan with a report are of this kind, in whatever order its
files are listed and its workers finish, and the report is always the same one: also if it is made
from the entries in the order in which the workers finished. -/
theorem report_ignores_order [Engine] :
    (∀ (results results' : List (String × List Violation)) (filesScanned : Nat),
        Apart results → results'.Perm results →
        Report.ofResults results' filesScanned = Report.ofResults results filesScanned) ∧
      ∀ (t : FileTree) (p : Policy) (path : String) (r : Report), t.root.WellFormed →
        t.scan p path false = .ok r →
        ∃ root entries, t.scanRoot path = .ok (root, entries) ∧
          ∀ files : List SourceFile, files.Perm (t.discover p path).files →
          ∀ s : Schedule files.length, Step.cancel ∉ s.before →
            let st := Progress.run (p.analysisAt files) s.steps
            Apart (scanEntries p entries (st.finished files)) ∧
              reportOf p entries (st.finished files) = r ∧
              conclude p entries files st = .ok r := by
  refine ⟨fun results results' n apart order => apart.ofResults_perm order n, ?_⟩
  intro t p path r wf ok
  obtain ⟨loc, entries, located, here, discovered, whole, rfl⟩ := t.exists_of_scan_eq_ok p path ok
  refine ⟨_, entries, (t.scanRoot_eq_ok_iff path).mpr ⟨loc, located, here, rfl⟩, ?_⟩
  rw [discovered]
  intro files listed s never st
  have wfEntries := (wf.at? here).2
  have apart := p.apart_scanEntries wfEntries listed
  have finished := s.finished_perm p files never
  have sameReport : p.reportOn entries files = p.reportOn entries (p.discoverIn entries).files :=
    reportOf_perm (p.apart_scanEntries wfEntries (.refl _)) (listed.map _)
  have complete : completeScan p entries files = .ok (p.reportOn entries files) := by
    apply if_neg
    intro broken
    obtain ⟨f, member, aborted⟩ := List.any_eq_true.mp broken
    exact whole f (listed.mem_iff.mp member) (eq_of_beq aborted)
  refine ⟨apart.perm (scanEntries_perm finished), ?_, ?_⟩
  · rw [← sameReport]
    exact reportOf_perm apart finished
  · rw [s.conclude_of_no_cancel p entries files never, complete, sameReport]

/-- Two violations at one place of an entry keep their order, and the entry may come first or last.
A scan of two tests has the same report if the tests are taken up in the opposite order. -/
theorem report_ignores_order_two_files :
    let a := ("A.java", [⟨"A.java", 1, .poorTestNaming, "first"⟩,
      ⟨"A.java", 1, .poorTestNaming, "second"⟩])
    let b := ("B.cs", [⟨"B.cs", 1, .poorTestNaming, "other"⟩])
    let t := FileTree.twoTests
    let p := Policy.testsOnly
    let files := (t.discover p "/").files.reverse
    let st := Progress.run (p.analysisAt files) (Schedule.inTurn files.length).steps
    Apart [a, b] ∧ Report.ofResults [b, a] 2 = Report.ofResults [a, b] 2 ∧
      files = [.secondTest, .firstTest] ∧ t.root.WellFormed ∧
      ∃ r, t.scan p "/" false = .ok r ∧ r.filesScanned = 2 ∧
        ∃ entries, reportOf p entries (st.finished files) = r := by
  intro a b t p files st
  have apart : Apart [a, b] := by
    unfold Apart
    decide
  have wf : t.root.WellFormed := FileTree.wellFormed_twoTests
  obtain ⟨-, entries, -, any⟩ := report_ignores_order.2 t p "/" _ wf FileTree.scan_twoTests
  obtain ⟨-, same, -⟩ := any files (List.reverse_perm _) (Schedule.inTurn files.length)
    (Schedule.cancel_notMem_inTurn _)
  have swapped := report_ignores_order.1 [a, b] [b, a] 2 apart (.swap _ _ _)
  exact ⟨apart, swapped, congrArg List.reverse FileTree.discover_twoTests, wf, _,
    FileTree.scan_twoTests, rfl, entries, same⟩

end LayerLint
