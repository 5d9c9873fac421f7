import LayerLint.Proofs.Discovery
import LayerLint.Proofs.Policy
import LayerLint.Proofs.Report.Canonical
import LayerLint.Proofs.Scan.Origin
import LayerLint.Proofs.Scan.Schedule

/-! Scans under fewer rules. The rules do not touch each other: a scan under some of the rules gives
the violations of these rules in the scan under all of them, and files that cannot be read as source
are told of under any rules. -/

namespace LayerLint

def Settings.withRules (s : Settings) (on off : List RuleId) : Settings :=
  { s with enabledRules := on, disabledRules := off }

def Policy.withRules (p : Policy) (rules : List RuleId) : Policy :=
  { p with rules }

def Report.onlyRules (r : Report) (keep : RuleId → Bool) : Report :=
  { r with violations := r.violations.filter fun v => keep v.rule }

/-! ### The rules of a policy -/

/-- Which rules are chosen has no part in whether settings are valid, and shows in the rules of the
policy only. -/
theorem Settings.policy_withRules [Engine] (s : Settings) (on off : List RuleId) :
    (s.withRules on off).policy =
      (fun p : Policy => p.withRules (s.withRules on off).effectiveRules) <$> s.policy := by
  simp only [policy, map_bind, map_pure]
  rfl

theorem Settings.mem_effectiveRules {s : Settings} {rule : RuleId} :
    rule ∈ s.effectiveRules ↔
      rule ∈ RuleId.selectable ∧
        (if s.enabledRules.isEmpty then rule ∈ RuleId.catalog else rule ∈ s.enabledRules) ∧
        rule ∉ s.disabledRules := by
  rw [effectiveRules, List.mem_filter, Bool.and_eq_true, Bool.not_eq_true']
  split <;> simp only [List.contains_eq_mem, decide_eq_true_eq, decide_eq_false_iff_not]

theorem Settings.parseError_notMem_effectiveRules (s : Settings) :
    RuleId.parseError ∉ s.effectiveRules := by
  intro member
  have selectable := (mem_effectiveRules.mp member).1
  revert selectable
  decide

theorem Settings.effectiveRules_eq_filter_selectable (s : Settings) :
    s.effectiveRules = RuleId.selectable.filter (· ∈ s.effectiveRules) := by
  refine List.filter_congr fun rule selectable => ?_
  rw [Bool.eq_iff_iff, decide_eq_true_iff, effectiveRules, List.mem_filter]
  exact ⟨fun chosen => ⟨selectable, chosen⟩, And.right⟩

/-- Rules are chosen in the order in which they run, so that of two choices the smaller one is the
larger one with some rules left out. -/
theorem Settings.effectiveRules_eq_filter {s s' : Settings} {keep : RuleId → Bool}
    (kept : ∀ rule, rule ∈ s'.effectiveRules ↔ rule ∈ s.effectiveRules ∧ keep rule = true) :
    s'.effectiveRules = s.effectiveRules.filter keep := by
  rw [s'.effectiveRules_eq_filter_selectable, s.effectiveRules_eq_filter_selectable,
    List.filter_filter]
  refine List.filter_congr fun rule _ => ?_
  rw [Bool.eq_iff_iff, decide_eq_true_iff, kept, Bool.and_eq_true, decide_eq_true_iff, and_comm]

/-! ### One file under fewer rules -/

section

variable (p : Policy) (keep : RuleId → Bool)

theorem Policy.violationsOf_withRules (path : String) (c : ClassModel) :
    (p.withRules (p.rules.filter keep)).violationsOf path c =
      (p.violationsOf path c).filter fun v => keep v.rule := by
  have rules : (p.withRules (p.rules.filter keep)).classRules = p.classRules.filter keep := by
    simp only [classRules, withRules, List.filter_filter, Bool.and_comm]
  rw [violationsOf, rules]
  exact flatMap_filter_origin Violation.rule
    (fun rule v member => (RuleId.mem_evaluate member).2) keep p.classRules

def Outcome.onlyRules (keep : RuleId → Bool) : Outcome → Outcome
  | .analyzed violations => .analyzed (violations.filter fun v => keep v.rule)
  | .skipped => .skipped
  | .aborted => .aborted

theorem Outcome.violations_onlyRules (o : Outcome) :
    (o.onlyRules keep).violations = o.violations.filter fun v => keep v.rule := by
  cases o with
  | analyzed violations => rfl
  | skipped => rfl
  | aborted => rfl

theorem Policy.projectPart_withRules (entries : List (String × Entry)) :
    (p.withRules (p.rules.filter keep)).projectPart entries =
      (p.projectPart entries).filter fun v => keep v.rule := by
  have same : ∀ v ∈ p.projectViolations entries, keep v.rule = keep .missingLayerStructure :=
    fun v member => congrArg keep (rule_of_mem_projectViolations member)
  have project : (p.withRules (p.rules.filter keep)).projectViolations entries =
      p.projectViolations entries := rfl
  have runs : (p.withRules (p.rules.filter keep)).rules.contains .missingLayerStructure =
      (p.rules.contains .missingLayerStructure && keep .missingLayerStructure) := by
    rw [Bool.eq_iff_iff, Bool.and_eq_true, List.contains_iff_mem, List.contains_iff_mem]
    exact List.mem_filter
  rw [projectPart, projectPart, project, runs]
  cases p.rules.contains .missingLayerStructure with
  | false => rfl
  | true =>
      rw [if_pos rfl, List.filter_congr same, Bool.true_and]
      cases keep .missingLayerStructure with
      | true => rw [if_pos rfl, List.filter_true]
      | false => rw [if_neg Bool.false_ne_true, List.filter_false]

variable {keep} (always : keep .parseError = true)

include always

theorem Analysis.outcome_withRules (path : String) (a : Analysis) :
    a.outcome (p.withRules (p.rules.filter keep)) path = (a.outcome p path).onlyRules keep := by
  cases a with
  | oversized bytes => rfl
  | failed failure =>
      have told : keep (failure.violation path).rule = true := always
      simp only [outcome, Outcome.onlyRules, List.filter_cons, told, if_true, List.filter_nil]
  | models classes =>
      simp only [outcome, Outcome.onlyRules, List.filter_flatMap]
      exact congrArg (fun f => Outcome.analyzed (classes.flatMap f))
        (funext (p.violationsOf_withRules keep path))
  | aborted => rfl

/-! ### The report under fewer rules -/

theorem resultsOf_withRules (analyses : List (SourceFile × Analysis)) :
    resultsOf (p.withRules (p.rules.filter keep)) analyses =
      (resultsOf p analyses).map fun x => (x.1, x.2.filter fun v => keep v.rule) := by
  simp only [resultsOf, List.map_filterMap, Analysis.outcome_withRules p always]
  refine List.filterMap_congr fun x _ => ?_
  obtain ⟨f, a⟩ := x
  dsimp only
  cases a.outcome p f.path with
  | analyzed violations => rfl
  | skipped => rfl
  | aborted => rfl

theorem reportOf_withRules (entries : List (String × Entry))
    (analyses : List (SourceFile × Analysis)) :
    reportOf (p.withRules (p.rules.filter keep)) entries analyses =
      (reportOf p entries analyses).onlyRules keep := by
  have violations : (reportOf (p.withRules (p.rules.filter keep)) entries analyses).violations =
      (reportOf p entries analyses).violations.filter fun v => keep v.rule := by
    rw [reportOf_violations, reportOf_violations]
    refine Eq.trans ?_ (canonical_filter (fun k => keep k.1) _)
    simp only [Analysis.outcome_withRules p always, Outcome.violations_onlyRules,
      p.projectPart_withRules keep, List.filter_append, List.filter_flatMap, Violation.place]
  have filesScanned : (reportOf (p.withRules (p.rules.filter keep)) entries analyses).filesScanned =
      (reportOf p entries analyses).filesScanned := by
    simp only [reportOf, Report.ofResults, resultsOf_withRules p always, List.length_map]
  rw [Report.onlyRules, ← violations, ← filesScanned]

theorem completeScan_withRules [Engine] (entries : List (String × Entry))
    (files : List SourceFile) :
    completeScan (p.withRules (p.rules.filter keep)) entries files =
      (completeScan p entries files).map (·.onlyRules keep) := by
  have analyze : (p.withRules (p.rules.filter keep)).analyze = p.analyze := rfl
  simp only [completeScan, Policy.reportOn, analyze, reportOf_withRules p always]
  split
  · rfl
  · rfl

/-- Under fewer rules, a scan ends as before, with the violations of these rules in its report. -/
theorem FileTree.scan_filter_rules [Engine] (t : FileTree) (path : String)
    (left : p.rules.filter keep ≠ []) :
    t.scan (p.withRules (p.rules.filter keep)) path false =
      (t.scan p path false).map (·.onlyRules keep) := by
  have some : p.rules.isEmpty = false := by
    rw [List.isEmpty_eq_false_iff]
    intro none
    rw [none] at left
    exact left rfl
  have someLeft : (p.withRules (p.rules.filter keep)).rules.isEmpty = false :=
    List.isEmpty_eq_false_iff.mpr left
  rw [scan_eq, scan_eq, some, someLeft, if_neg Bool.false_ne_true, if_neg Bool.false_ne_true]
  cases t.scanRoot path with
  | error e => rfl
  | ok found =>
      have files : (p.withRules (p.rules.filter keep)).discoverIn found.2 =
          p.discoverIn found.2 := by
        refine Policy.discoverIn_congr ?_ ?_ ?_ found.2 <;> rfl
      dsimp only
      rw [files, completeScan_withRules p always]

end

/-- The policy of settings with other rules chosen, some of those that ran before. -/
theorem Settings.exists_policy_scan [Engine] {s s' : Settings} {on off : List RuleId} {p : Policy}
    (valid : s.policy = .ok p) (changed : s' = s.withRules on off) {keep : RuleId → Bool}
    (always : keep .parseError = true)
    (kept : ∀ rule, rule ∈ s'.effectiveRules ↔ rule ∈ s.effectiveRules ∧ keep rule = true)
    (left : s'.effectiveRules ≠ []) (t : FileTree) (path : String) :
    ∃ p', s'.policy = .ok p' ∧
      t.scan p' path false = (t.scan p path false).map (·.onlyRules keep) := by
  subst changed
  have rules : (s.withRules on off).effectiveRules = p.rules.filter keep := by
    rw [effectiveRules_eq_filter kept, rules_of_policy valid]
  refine ⟨p.withRules (p.rules.filter keep), ?_, ?_⟩
  · rw [policy_withRules, valid, rules]
    rfl
  · exact t.scan_filter_rules p always path (rules ▸ left)

/-- Scans under some of the rules. Settings that differ from valid ones in the choice of rules only,
and choose some of their rules but not none, are valid, and any scan under them ends as under the
others, with the violations of the rules that are left and those of files that cannot be read as
source. So a selectable rule that is disabled takes its own violations along and no others. -/
theorem Settings.scan_withRules [Engine] (s : Settings) (p : Policy) (valid : s.policy = .ok p)
    (t : FileTree) (path : String) :
    (∀ on off : List RuleId, ∀ s', s' = s.withRules on off →
        s'.effectiveRules ≠ [] → s'.effectiveRules ⊆ s.effectiveRules →
        ∃ p', s'.policy = .ok p' ∧
          t.scan p' path false = (t.scan p path false).map (·.onlyRules fun rule =>
            s'.effectiveRules.contains rule || rule == .parseError)) ∧
      ∀ rule ∈ RuleId.selectable, ∀ off : List RuleId,
        (∀ r, r ∈ off ↔ r = rule ∨ r ∈ s.disabledRules) →
        ∀ s', s' = s.withRules s.enabledRules off → s'.effectiveRules ≠ [] →
        ∃ p', s'.policy = .ok p' ∧
          t.scan p' path false = (t.scan p path false).map (·.onlyRules (· != rule)) := by
  refine ⟨?_, ?_⟩
  · intro on off s' changed left fewer
    refine exists_policy_scan valid changed ?_ ?_ left t path
    · rw [beq_self_eq_true, Bool.or_true]
    · intro rule
      rw [Bool.or_eq_true, List.contains_iff_mem, beq_iff_eq]
      constructor
      · exact fun runs => ⟨fewer runs, .inl runs⟩
      · rintro ⟨runs, here | rfl⟩
        · exact here
        · exact absurd runs s.parseError_notMem_effectiveRules
  · intro rule selectable off disabled s' changed left
    refine exists_policy_scan valid changed ?_ ?_ left t path
    · rw [bne_iff_ne]
      rintro rfl
      exact absurd selectable (by decide)
    · intro r
      subst changed
      rw [mem_effectiveRules, mem_effectiveRules, bne_iff_ne]
      simp only [withRules, disabled, not_or]
      tauto

/-- In two tests that are too long and poorly named, both on one line, a scan finds all four
violations. It finds those of one rule if this rule alone is enabled, and those of the other rule if
this one is disabled. -/
theorem Settings.scan_withRules_two_tests :
    let s := testsOnly
    let t := FileTree.twoTests
    s.policy = .ok .testsOnly ∧
      t.scan .testsOnly "/" false =
        .ok ⟨[.ofLength "A.java" "a", .ofName "A.java" "a", .ofLength "B.java" "b",
          .ofName "B.java" "b"], 2⟩ ∧
      (∃ p', (s.withRules [.longTestFunction] []).policy = .ok p' ∧
        t.scan p' "/" false = .ok ⟨[.ofLength "A.java" "a", .ofLength "B.java" "b"], 2⟩) ∧
      ∃ p', (s.withRules s.enabledRules [.longTestFunction]).policy = .ok p' ∧
        t.scan p' "/" false = .ok ⟨[.ofName "A.java" "a", .ofName "B.java" "b"], 2⟩ := by
  intro s t
  have valid : s.policy = .ok .testsOnly := rfl
  have sorted : ((violationsOfTest "A.java" "a").reverse ++
      (violationsOfTest "B.java" "b").reverse).Pairwise Violation.Before := by
    decide +kernel
  have inOrder := canonical_of_perm
    ((List.reverse_perm (violationsOfTest "A.java" "a")).append (List.reverse_perm _)) sorted
  have report : Report.ofResults (FileTree.testResults.map fun x => (x.1.path, x.2)) 2 = ⟨_, 2⟩ :=
    congrArg (Report.mk · 2) inOrder
  have found := FileTree.scan_twoTests.trans (congrArg Except.ok report)
  have law := s.scan_withRules .testsOnly valid t "/"
  refine ⟨valid, found, ?_, ?_⟩
  · obtain ⟨p', ok, same⟩ := law.1 [.longTestFunction] [] _ rfl (by decide) (by decide)
    exact ⟨p', ok, same.trans (found ▸ rfl)⟩
  · obtain ⟨p', ok, same⟩ := law.2 .longTestFunction (by decide) [.longTestFunction]
      (fun r => List.mem_cons) _ rfl (by decide)
    exact ⟨p', ok, same.trans (found ▸ rfl)⟩

end LayerLint
