import LayerLint.Proofs.Discovery
import LayerLint.Scan.Basic
import Mathlib.Data.List.Perm.Basic

/-! Scans under every schedule of their workers. Cancelling is all or nothing: a scan that was
cancelled before its check has no report, and any other scan has the report on all its files. The
flag is never lowered, so that a check which finds it down tells that no worker found it up. -/

namespace LayerLint

def Step.file? : Step → Option Nat
  | .work i => some i
  | .cancel | .check => none

/-- The steps of a scan of some number of files. Before the check every file is taken up once, in
any order, and at any moment the scan may be cancelled; after the check it may only be cancelled. -/
structure Schedule (count : Nat) where
  before : List Step
  after : List Step
  each_once : (before.filterMap Step.file?).Perm (List.range count)
  no_check : Step.check ∉ before
  only_cancel : ∀ s ∈ after, s = Step.cancel

def Schedule.steps {count : Nat} (s : Schedule count) : List Step :=
  s.before ++ .check :: s.after

namespace Progress

/-- Every worker that was not skipped has made the analysis of its file. -/
def Sound (analyze : Nat → Analysis) (st : Progress) : Prop :=
  ∀ i a, (i, some a) ∈ st.done → a = analyze i

theorem Sound.step {analyze : Nat → Analysis} {st : Progress} (sound : st.Sound analyze)
    (s : Step) : (st.step analyze s).Sound analyze := by
  cases s with
  | work i =>
      intro j a member
      rcases List.mem_cons.mp member with same | old
      · obtain ⟨rfl, made⟩ := Prod.mk.inj same
        split at made
        · cases made
        · exact Option.some.inj made
      · exact sound j a old
  | cancel => exact sound
  | check => exact sound

theorem Sound.foldl {analyze : Nat → Analysis} {st : Progress} (sound : st.Sound analyze)
    (steps : List Step) : (steps.foldl (Progress.step analyze) st).Sound analyze := by
  induction steps generalizing st with
  | nil => exact sound
  | cons s steps ih => exact ih (sound.step s)

theorem run_sound (analyze : Nat → Analysis) (steps : List Step) :
    (Progress.run analyze steps).Sound analyze := by
  refine Sound.foldl ?_ steps
  intro i a member
  cases member

/-- The flag is up from the first cancelling on. -/
theorem foldl_cancelled (analyze : Nat → Analysis) (st : Progress) (steps : List Step) :
    (steps.foldl (Progress.step analyze) st).cancelled = true ↔
      st.cancelled = true ∨ Step.cancel ∈ steps := by
  induction steps generalizing st with
  | nil => simp only [List.foldl_nil, List.not_mem_nil, or_false]
  | cons s steps ih =>
      rw [List.foldl_cons, ih, List.mem_cons]
      cases s with
      | work i => simp only [Progress.step, reduceCtorEq, false_or]
      | cancel => simp only [Progress.step, true_or, or_true]
      | check => simp only [Progress.step, reduceCtorEq, false_or]

/-- As long as the flag is down, no worker is skipped. -/
theorem foldl_done (analyze : Nat → Analysis) (st : Progress) (steps : List Step)
    (down : st.cancelled = false) (never : Step.cancel ∉ steps) :
    (steps.foldl (Progress.step analyze) st).done =
      ((steps.filterMap Step.file?).map fun i => (i, some (analyze i))).reverse ++ st.done := by
  induction steps generalizing st with
  | nil => rfl
  | cons s steps ih =>
      have later : Step.cancel ∉ steps := fun member => never (List.mem_cons_of_mem s member)
      cases s with
      | work i =>
          rw [List.foldl_cons, ih (st.step analyze (.work i)) down later]
          simp only [Progress.step, down, Bool.false_eq_true, if_false, Step.file?,
            List.filterMap_cons, List.map_cons, List.reverse_cons, List.append_assoc,
            List.cons_append, List.nil_append]
      | cancel => exact absurd List.mem_cons_self never
      | check => exact ih _ down later

theorem foldl_only_cancel (analyze : Nat → Analysis) (st : Progress) (steps : List Step)
    (only : ∀ s ∈ steps, s = Step.cancel) :
    (steps.foldl (Progress.step analyze) st).done = st.done ∧
      (steps.foldl (Progress.step analyze) st).interrupted = st.interrupted := by
  induction steps generalizing st with
  | nil => exact ⟨rfl, rfl⟩
  | cons s steps ih =>
      obtain rfl := only s List.mem_cons_self
      exact ih _ fun s member => only s (List.mem_cons_of_mem _ member)

end Progress

namespace Schedule

variable {count : Nat} (s : Schedule count) (analyze : Nat → Analysis)

theorem run_done :
    (Progress.run analyze s.steps).done = (Progress.run analyze s.before).done := by
  rw [Progress.run, steps, List.foldl_append, List.foldl_cons]
  exact (Progress.foldl_only_cancel analyze _ s.after s.only_cancel).1

/-- The check shows whether the scan was cancelled before it. -/
theorem run_interrupted :
    (Progress.run analyze s.steps).interrupted = true ↔ Step.cancel ∈ s.before := by
  rw [Progress.run, steps, List.foldl_append, List.foldl_cons,
    (Progress.foldl_only_cancel analyze _ s.after s.only_cancel).2]
  refine (Progress.foldl_cancelled analyze {} s.before).trans ?_
  simp only [Bool.false_eq_true, false_or]

theorem run_done_of_no_cancel (never : Step.cancel ∉ s.before) :
    (Progress.run analyze s.steps).done =
      ((s.before.filterMap Step.file?).map fun i => (i, some (analyze i))).reverse := by
  rw [s.run_done, Progress.run, Progress.foldl_done analyze {} s.before rfl never]
  exact List.append_nil _

theorem none_notMem_done (never : Step.cancel ∉ s.before) (i : Nat) :
    (i, none) ∉ (Progress.run analyze s.steps).done := by
  rw [s.run_done_of_no_cancel analyze never, List.mem_reverse]
  intro member
  obtain ⟨j, -, pair⟩ := List.mem_map.mp member
  cases pair

theorem lookup_done_of_no_cancel (never : Step.cancel ∉ s.before) {i : Nat} (lt : i < count) :
    (Progress.run analyze s.steps).done.lookup i = some (some (analyze i)) := by
  have worked : i ∈ (s.before.filterMap Step.file?).reverse :=
    List.mem_reverse.mpr (s.each_once.mem_iff.mpr (List.mem_range.mpr lt))
  rw [s.run_done_of_no_cancel analyze never, ← List.map_reverse]
  generalize (s.before.filterMap Step.file?).reverse = is at worked
  induction is with
  | nil => cases worked
  | cons j is ih =>
      rw [List.map_cons, List.lookup_cons]
      by_cases same : i = j
      · rw [same, beq_self_eq_true]
      · rw [beq_false_of_ne same]
        exact ih ((List.mem_cons.mp worked).resolve_left same)

/-- The schedule in which the files are taken up in turn and nothing is cancelled. -/
def inTurn (count : Nat) : Schedule count where
  before := (List.range count).map .work
  after := []
  each_once := by
    rw [List.filterMap_map]
    exact .of_eq (List.filterMap_some ..)
  no_check := by simp
  only_cancel := by simp

theorem cancel_notMem_inTurn (count : Nat) : Step.cancel ∉ (inTurn count).before := by
  intro member
  obtain ⟨i, -, same⟩ := List.mem_map.mp member
  cases same

end Schedule

/-! ### What the workers make of the files -/

theorem Progress.mem_analyses {files : List SourceFile} {st : Progress} {f : SourceFile}
    {a : Analysis} (member : (f, a) ∈ st.analyses files) :
    ∃ i, files[i]? = some f ∧ (i, some a) ∈ st.done := by
  obtain ⟨⟨g, i⟩, here, made⟩ := List.mem_filterMap.mp member
  obtain ⟨b, bound, pair⟩ := Option.map_eq_some_iff.mp made
  obtain ⟨rfl, rfl⟩ := Prod.mk.inj pair
  obtain ⟨o, looked, some_b⟩ := Option.bind_eq_some_iff.mp bound
  obtain rfl : o = some b := some_b
  obtain ⟨front, back, split, -⟩ := List.lookup_eq_some_iff.mp looked
  exact ⟨i, List.mem_zipIdx_iff_getElem?.mp here,
    split ▸ List.mem_append_right front List.mem_cons_self⟩

section

variable [Engine]

/-- The analyses of a scan without a cancelled worker. -/
theorem Schedule.analyses_of_no_cancel (p : Policy) (files : List SourceFile)
    (s : Schedule files.length) (never : Step.cancel ∉ s.before) :
    (Progress.run (p.analysisAt files) s.steps).analyses files =
      files.map fun f => (f, p.analyze f) := by
  have worker : ∀ x ∈ files.zipIdx,
      (((Progress.run (p.analysisAt files) s.steps).done.lookup x.2).bind id).map
        (fun a => (x.1, a)) = some (x.1, p.analyze x.1) := by
    rintro ⟨f, i⟩ member
    have here : files[i]? = some f := List.mem_zipIdx_iff_getElem?.mp member
    obtain ⟨lt, -⟩ := List.getElem?_eq_some_iff.mp here
    rw [s.lookup_done_of_no_cancel _ never lt]
    simp only [Policy.analysisAt, here, Option.bind_some, id, Option.map_some]
  calc (Progress.run (p.analysisAt files) s.steps).analyses files
      = files.zipIdx.filterMap fun x => some (x.1, p.analyze x.1) := List.filterMap_congr worker
    _ = (files.zipIdx.map Prod.fst).map fun f => (f, p.analyze f) := by
        rw [List.filterMap_eq_map', List.map_map]
        rfl
    _ = files.map fun f => (f, p.analyze f) := by rw [List.zipIdx_map_fst]

/-! ### What comes of a scan -/

def Policy.reportOn (p : Policy) (entries : List (String × Entry)) (files : List SourceFile) :
    Report :=
  reportOf p entries (files.map fun f => (f, p.analyze f))

/-- What comes of a scan whose workers have all done their work. -/
def completeScan (p : Policy) (entries : List (String × Entry)) (files : List SourceFile) :
    Except ScanFault Report :=
  if files.any fun f => p.analyze f == .aborted then .error .aborted
  else .ok (p.reportOn entries files)

theorem Schedule.conclude_of_no_cancel (p : Policy) (entries : List (String × Entry))
    (files : List SourceFile) (s : Schedule files.length) (never : Step.cancel ∉ s.before) :
    conclude p entries files (Progress.run (p.analysisAt files) s.steps) =
      completeScan p entries files := by
  have down : (Progress.run (p.analysisAt files) s.steps).interrupted = false := by
    rw [Bool.eq_false_iff]
    exact fun up => never ((s.run_interrupted _).mp up)
  simp only [conclude, completeScan, s.analyses_of_no_cancel p files never, down, List.any_map,
    Bool.false_eq_true, if_false]
  rfl

/-- A scan that was cancelled before its check has no report: it is over as cancelled, unless a
worker has broken down, as it would without the cancelling. -/
theorem Schedule.conclude_of_cancel (p : Policy) (entries : List (String × Entry))
    (files : List SourceFile) (s : Schedule files.length) (cancel : Step.cancel ∈ s.before) :
    let st := Progress.run (p.analysisAt files) s.steps
    conclude p entries files st = .error .cancelled ∨
      (∃ i, (i, some .aborted) ∈ st.done) ∧ conclude p entries files st = .error .aborted ∧
        completeScan p entries files = .error .aborted := by
  intro st
  by_cases broken : (st.analyses files).any (·.2 == .aborted) = true
  · obtain ⟨⟨f, a⟩, member, aborted⟩ := List.any_eq_true.mp broken
    obtain rfl : a = .aborted := eq_of_beq aborted
    obtain ⟨i, here, worked⟩ := Progress.mem_analyses member
    have made : Analysis.aborted = p.analysisAt files i :=
      Progress.run_sound (p.analysisAt files) s.steps i _ worked
    simp only [Policy.analysisAt, here] at made
    have also : files.any (fun f => p.analyze f == .aborted) = true :=
      List.any_eq_true.mpr ⟨f, List.mem_of_getElem? here, beq_of_eq made.symm⟩
    exact .inr ⟨⟨i, worked⟩, if_pos broken, if_pos also⟩
  · have up : st.interrupted = true := (s.run_interrupted _).mpr cancel
    left
    simp only [conclude, broken, up, if_true, Bool.false_eq_true, if_false]

/-! ### Runs on a file tree -/

theorem conclude_stepsInOrder (p : Policy) (entries : List (String × Entry))
    (files : List SourceFile) :
    conclude p entries files
        (Progress.run (p.analysisAt files) (stepsInOrder false files.length)) =
      completeScan p entries files :=
  (Schedule.inTurn files.length).conclude_of_no_cancel p entries files
    (Schedule.cancel_notMem_inTurn files.length)

end

namespace FileTree

variable (t : FileTree) (p : Policy) (path : String)

theorem scanRoot_eq_ok_iff {root : String} {entries : List (String × Entry)} :
    t.scanRoot path = .ok (root, entries) ↔
      ∃ loc, t.locate path = .ok loc ∧ t.root.at? loc = some (.directory entries) ∧
        root = pathOf loc := by
  unfold scanRoot
  constructor
  · intro found
    split at found
    · cases found
    · next loc located =>
        split at found
        · next es here =>
            obtain ⟨rfl, rfl⟩ := Prod.mk.inj (Except.ok.inj found)
            exact ⟨loc, located, here, rfl⟩
        · cases found
  · rintro ⟨loc, located, here, rfl⟩
    simp only [located, here]

theorem discover_of_scanRoot {root : String} {entries : List (String × Entry)}
    (found : t.scanRoot path = .ok (root, entries)) : t.discover p path = p.discoverIn entries := by
  obtain ⟨loc, located, here, -⟩ := (t.scanRoot_eq_ok_iff path).mp found
  simp only [discover, located, here]

section

variable [Engine]

/-- What a scan comes to under a schedule. -/
theorem scanIn_result (schedule : Nat → List Step) :
    (t.scanIn p path schedule).result =
      if p.rules.isEmpty then .error .noRules
      else
        match t.scanRoot path with
        | .error e => .error e
        | .ok (_, entries) =>
          conclude p entries (p.discoverIn entries).files
            (Progress.run (p.analysisAt (p.discoverIn entries).files)
              (schedule (p.discoverIn entries).files.length)) := by
  unfold scanIn
  split
  · rfl
  · cases t.scanRoot path with
    | error e => rfl
    | ok found => rfl

/-- What a scan comes to that is never cancelled. -/
theorem scan_eq :
    t.scan p path false =
      if p.rules.isEmpty then .error .noRules
      else
        match t.scanRoot path with
        | .error e => .error e
        | .ok (_, entries) => completeScan p entries (p.discoverIn entries).files := by
  rw [scan, scanRun, scanIn_result]
  split
  · rfl
  · split
    · rfl
    · next entries _ => exact conclude_stepsInOrder p entries _

/-- A scan that has a report has found a directory and has analyzed all source files in it. -/
theorem exists_of_scan_eq_ok {r : Report} (ok : t.scan p path false = .ok r) :
    ∃ root entries, t.locate path = .ok root ∧ t.root.at? root = some (.directory entries) ∧
      t.discover p path = p.discoverIn entries ∧
      (∀ f ∈ (p.discoverIn entries).files, p.analyze f ≠ .aborted) ∧
      r = p.reportOn entries (p.discoverIn entries).files := by
  rw [scan_eq] at ok
  split at ok
  · cases ok
  · split at ok
    · cases ok
    · next root entries found =>
        obtain ⟨loc, located, here, -⟩ := (t.scanRoot_eq_ok_iff path).mp found
        unfold completeScan at ok
        split at ok
        · cases ok
        · next whole =>
            refine ⟨loc, entries, located, here, t.discover_of_scanRoot p path found, ?_,
              (Except.ok.inj ok).symm⟩
            intro f member aborted
            exact whole (List.any_eq_true.mpr ⟨f, member, beq_of_eq aborted⟩)

/-- A scan of a directory has a report if no file breaks it off. -/
theorem scan_eq_ok {root : Location} {entries : List (String × Entry)} (rules : p.rules ≠ [])
    (located : t.locate path = .ok root) (here : t.root.at? root = some (.directory entries))
    (whole : ∀ f ∈ (p.discoverIn entries).files, p.analyze f ≠ .aborted) :
    t.scan p path false = .ok (p.reportOn entries (p.discoverIn entries).files) := by
  have found : t.scanRoot path = .ok (pathOf root, entries) :=
    (t.scanRoot_eq_ok_iff path).mpr ⟨root, located, here, rfl⟩
  rw [scan_eq, List.isEmpty_eq_false_iff.mpr rules, if_neg Bool.false_ne_true, found]
  refine if_neg fun broken => ?_
  obtain ⟨f, member, aborted⟩ := List.any_eq_true.mp broken
  exact whole f member (eq_of_beq aborted)

/-- Whether a scan comes to its check: it has rules and a root, and no worker has broken down. -/
def ReachesCheck (st : Progress) : Prop :=
  p.rules ≠ [] ∧ (∃ root, t.scanRoot path = .ok root) ∧ ∀ i, (i, some .aborted) ∉ st.done

/-- A scan has a fault before any worker starts, whatever the schedule, or its workers decide. -/
theorem fault_or_conclude :
    (∃ e, (∀ schedule, (t.scanIn p path schedule).result = .error e) ∧
        ∀ st, ¬ t.ReachesCheck p path st) ∨
      ∃ root entries, t.scanRoot path = .ok (root, entries) ∧
        ∀ schedule, (t.scanIn p path schedule).result =
          conclude p entries (p.discoverIn entries).files
            (Progress.run (p.analysisAt (p.discoverIn entries).files)
              (schedule (p.discoverIn entries).files.length)) := by
  cases rules : p.rules.isEmpty with
  | true =>
      refine .inl ⟨.noRules, fun schedule => ?_, fun st reaches => ?_⟩
      · rw [scanIn_result, rules, if_pos rfl]
      · exact reaches.1 (List.isEmpty_iff.mp rules)
  | false =>
      cases root : t.scanRoot path with
      | error e =>
          refine .inl ⟨e, fun schedule => ?_, fun st reaches => ?_⟩
          · rw [scanIn_result, rules, root]
            rfl
          · obtain ⟨-, ⟨found, rooted⟩, -⟩ := reaches
            rw [root] at rooted
            cases rooted
      | ok found =>
          refine .inr ⟨found.1, found.2, rfl, fun schedule => ?_⟩
          rw [scanIn_result, rules, root]
          rfl

/-- Cancelling is all or nothing. Under every schedule a scan ends as cancelled, or exactly as the
scan that is never cancelled. No report is made when a worker was skipped. If the scan was cancelled
before its check, it ends as cancelled; if it was not, it ends as the scan that is never
cancelled. -/
theorem scanIn_all_or_nothing (s : Schedule (t.discover p path).files.length) :
    let st := Progress.run (p.analysisAt (t.discover p path).files) s.steps
    let outcome := (t.scanIn p path fun _ => s.steps).result
    (outcome = .error .cancelled ∨ outcome = t.scan p path false) ∧
      (∀ i, (i, none) ∈ st.done → ∀ r, outcome ≠ .ok r) ∧
      (Step.cancel ∈ s.before → t.ReachesCheck p path st → outcome = .error .cancelled) ∧
      (Step.cancel ∉ s.before → outcome = t.scan p path false) := by
  rcases t.fault_or_conclude p path with ⟨e, fault, never⟩ | ⟨root, entries, rooted, ends⟩
  · intro st outcome
    have ended : outcome = .error e := fault _
    have same : outcome = t.scan p path false := ended.trans (fault _).symm
    refine ⟨.inr same, fun i skipped r => ?_, fun _ reaches => absurd reaches (never st),
      fun _ => same⟩
    rw [ended]
    nofun
  · revert s
    rw [t.discover_of_scanRoot p path rooted]
    intro s st outcome
    have ended : outcome = conclude p entries (p.discoverIn entries).files st := ends _
    have complete : t.scan p path false = completeScan p entries (p.discoverIn entries).files :=
      (ends _).trans (conclude_stepsInOrder p entries _)
    rw [ended, complete]
    by_cases cancel : Step.cancel ∈ s.before
    · rcases s.conclude_of_cancel p entries _ cancel with stopped | ⟨⟨i, broken⟩, aborted, also⟩
      · rw [show conclude _ _ _ st = _ from stopped]
        exact ⟨.inl rfl, fun _ _ _ => nofun, fun _ _ => rfl, fun down => absurd cancel down⟩
      · rw [show conclude _ _ _ st = _ from aborted, also]
        exact ⟨.inr rfl, fun _ _ _ => nofun, fun _ reaches => absurd broken (reaches.2.2 i),
          fun _ => rfl⟩
    · rw [show conclude _ _ _ st = _ from s.conclude_of_no_cancel p entries _ cancel]
      exact ⟨.inr rfl, fun i skipped => absurd skipped (s.none_notMem_done _ cancel i),
        fun up => absurd up cancel, fun _ => rfl⟩

end

end FileTree

/-! ### Scans of directories of source files -/

namespace FileTree

def ofFiles (files : List SourceFile) : FileTree :=
  { root := .directory (files.map SourceFile.entry) }

variable {p : Policy} {files : List SourceFile}

theorem wellFormed_ofFiles (named : ∀ f ∈ files, Entry.IsName f.path)
    (distinct : (files.map SourceFile.path).Nodup) : (ofFiles files).root.WellFormed := by
  refine .directory ?_ ?_ ?_
  · rw [List.map_map]
    exact distinct
  · exact List.forall_mem_map.mpr named
  · exact List.forall_mem_map.mpr fun f _ => .file f.content

theorem discover_ofFiles (taken : ∀ f ∈ files, p.Takes f)
    (sorted : files.Pairwise fun f g => f.path ≤ g.path) :
    ((ofFiles files).discover p "/").files = files := by
  have root : (ofFiles files).scanRoot "/" = .ok ("/", files.map SourceFile.entry) :=
    ((ofFiles files).scanRoot_eq_ok_iff "/").mpr ⟨[], locate_root rfl, rfl, rfl⟩
  rw [discover_of_scanRoot _ p "/" root, p.discoverIn_entries taken sorted]

/-- A scan of files that are all analyzed reports what they give. -/
theorem scan_ofFiles [Engine] (results : List (SourceFile × List Violation)) (busy : p.rules ≠ [])
    (noProject : p.rules.contains .missingLayerStructure = false)
    (taken : ∀ x ∈ results, p.Takes x.1)
    (sorted : results.Pairwise fun x y => x.1.path ≤ y.1.path)
    (analyzed : ∀ x ∈ results, (p.analyze x.1).outcome p x.1.path = .analyzed x.2) :
    (ofFiles (results.map Prod.fst)).scan p "/" false =
      .ok (.ofResults (results.map fun x => (x.1.path, x.2)) results.length) := by
  have found : (p.discoverIn ((results.map Prod.fst).map SourceFile.entry)).files =
      results.map Prod.fst :=
    p.discoverIn_entries (List.forall_mem_map.mpr taken) (List.pairwise_map.mpr sorted)
  have whole : ∀ f ∈ results.map Prod.fst, p.analyze f ≠ .aborted := by
    rw [List.forall_mem_map]
    intro x member aborted
    have outcome := analyzed x member
    rw [aborted] at outcome
    cases outcome
  have given : resultsOf p ((results.map Prod.fst).map fun f => (f, p.analyze f)) =
      results.map fun x => (x.1.path, x.2) := by
    rw [resultsOf, List.map_map, List.filterMap_map, ← List.filterMap_eq_map]
    refine List.filterMap_congr fun x member => ?_
    simp only [Function.comp_apply, analyzed x member]
  rw [scan_eq_ok _ p "/" busy (locate_root rfl) rfl (found.symm ▸ whole), found, Policy.reportOn,
    reportOf]
  simp only [given, noProject, Bool.false_eq_true, if_false, List.append_nil, List.length_map]

end FileTree

/-- Settings for the rules on names and lengths of tests, with one line to a test. -/
def Settings.testsOnly : Settings :=
  { enabledRules := [.poorTestNaming, .longTestFunction]
    maxMethodLines := 1
    sensitiveDataPatterns := []
    genericTestNames := [] }

def Policy.testsOnly : Policy :=
  Settings.testsOnly.policyWith [] [] []

def SourceFile.firstTest : SourceFile :=
  ⟨"A.java", .java, "class A\x7b@Test void a()\x7bf();\ng();\x7d\x7d".toUTF8⟩

def SourceFile.secondTest : SourceFile :=
  ⟨"B.java", .java, "class B\x7b@Test void b()\x7bf();\ng();\x7d\x7d".toUTF8⟩

def Violation.ofName (path method : String) : Violation :=
  ⟨path, 1, .poorTestNaming,
    s!"Test name '{method}' is not descriptive; name the behavior being verified"⟩

def Violation.ofLength (path method : String) : Violation :=
  ⟨path, 1, .longTestFunction, s!"Test method '{method}' has 2 lines (limit: 1); " ++
    "long tests are hard to read and maintain"⟩

/-- The violations of a test of two lines with a name of one word, in the order in which the rules
run. -/
def violationsOfTest (path method : String) : List Violation :=
  [.ofName path method, .ofLength path method]

namespace Policy

theorem outcome_firstTest :
    (testsOnly.analyze .firstTest).outcome testsOnly SourceFile.firstTest.path =
      .analyzed (violationsOfTest "A.java" "a") := by
  decide +kernel

theorem outcome_secondTest :
    (testsOnly.analyze .secondTest).outcome testsOnly SourceFile.secondTest.path =
      .analyzed (violationsOfTest "B.java" "b") := by
  decide +kernel

end Policy

namespace FileTree

def testResults : List (SourceFile × List Violation) :=
  [(.firstTest, violationsOfTest "A.java" "a"), (.secondTest, violationsOfTest "B.java" "b")]

def twoTests : FileTree :=
  ofFiles (testResults.map Prod.fst)

theorem takes_testResults : ∀ x ∈ testResults, Policy.testsOnly.Takes x.1 :=
  List.forall_mem_cons.mpr ⟨⟨by decide +kernel, by decide +kernel, rfl⟩,
    List.forall_mem_singleton.mpr ⟨by decide +kernel, by decide +kernel, rfl⟩⟩

theorem sorted_testResults : testResults.Pairwise fun x y => x.1.path ≤ y.1.path := by
  decide +kernel

theorem analyzed_testResults : ∀ x ∈ testResults,
    (Policy.testsOnly.analyze x.1).outcome .testsOnly x.1.path = .analyzed x.2 :=
  List.forall_mem_cons.mpr
    ⟨Policy.outcome_firstTest, List.forall_mem_singleton.mpr Policy.outcome_secondTest⟩

theorem wellFormed_twoTests : twoTests.root.WellFormed :=
  wellFormed_ofFiles (List.forall_mem_map.mpr fun x member => (takes_testResults x member).isName)
    (by decide)

theorem discover_twoTests : (twoTests.discover .testsOnly "/").files = [.firstTest, .secondTest] :=
  discover_ofFiles (List.forall_mem_map.mpr takes_testResults)
    (List.pairwise_map.mpr sorted_testResults)

theorem scan_twoTests :
    twoTests.scan .testsOnly "/" false =
      .ok (.ofResults (testResults.map fun x => (x.1.path, x.2)) 2) :=
  scan_ofFiles _ (by decide) (by decide) takes_testResults sorted_testResults analyzed_testResults

/-- A scan of two tests that is cancelled after the first one has its analysis of the first test,
has skipped the second one and ends as cancelled, although it comes to its check. If it is never
cancelled, it has a report on both. -/
theorem scanIn_all_or_nothing_between_tests :
    let p := Policy.testsOnly
    (∃ r, twoTests.scan p "/" false = .ok r ∧ r.filesScanned = 2) ∧
      ∃ s : Schedule (twoTests.discover p "/").files.length,
        s.before = [.work 0, .cancel, .work 1] ∧
        let st := Progress.run (p.analysisAt (twoTests.discover p "/").files) s.steps
        (0, some (p.analyze .firstTest)) ∈ st.done ∧ (1, none) ∈ st.done ∧
          twoTests.ReachesCheck p "/" st ∧
          (twoTests.scanIn p "/" fun _ => s.steps).result = .error .cancelled := by
  intro p
  have law := twoTests.scanIn_all_or_nothing p "/"
  rw [discover_twoTests] at law ⊢
  let s : Schedule [SourceFile.firstTest, .secondTest].length :=
    ⟨[.work 0, .cancel, .work 1], [], .refl _, by decide, by simp⟩
  let st := Progress.run (p.analysisAt [.firstTest, .secondTest]) s.steps
  have ran : ∀ analyze, (Progress.run analyze s.steps).done = [(1, none), (0, some (analyze 0))] :=
    fun _ => rfl
  have done : st.done = [(1, none), (0, some (p.analyze .firstTest))] := ran _
  have root : ∃ root, twoTests.scanRoot "/" = .ok root :=
    ⟨_, (twoTests.scanRoot_eq_ok_iff "/").mpr ⟨[], locate_root rfl, rfl, rfl⟩⟩
  have reaches : twoTests.ReachesCheck p "/" st := by
    refine ⟨by decide, root, fun i broken => ?_⟩
    rw [done, List.mem_cons, List.mem_singleton] at broken
    rcases broken with second | first
    · cases second
    · have outcome := Policy.outcome_firstTest
      rw [← Option.some.inj (congrArg Prod.snd first)] at outcome
      cases outcome
  refine ⟨⟨_, scan_twoTests, rfl⟩, s, rfl, ?_⟩
  have cancelled := (law s).2.2.1 (by decide) reaches
  exact ⟨done ▸ List.mem_cons_of_mem _ List.mem_cons_self, done ▸ List.mem_cons_self, reaches,
    cancelled⟩

end FileTree

end LayerLint
