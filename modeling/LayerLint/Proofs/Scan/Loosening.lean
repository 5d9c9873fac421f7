import LayerLint.CommandLine.Run
import LayerLint.Proofs.Report.Figures
import LayerLint.Proofs.Rule.Exact
import LayerLint.Proofs.Scan.Quoting
import Mathlib.Algebra.Order.BigOperators.Group.List

/-! Looser policies. Longer tests, shorter names and more receivers that are exempt never add to a
report: it keeps its files and the violations of all rules that do not look at these numbers and
receivers, and of the others it loses some. Hence a scan fails as before, and its score does not
fall. -/

namespace LayerLint

def Policy.adjusted (p : Policy) (lines words : Nat) (exempt : List CallPattern) : Policy :=
  { p with maxMethodLines := lines, namingMinWords := words, exemptReceivers := exempt }

def RuleId.adjustable : List RuleId :=
  [.longTestFunction, .poorTestNaming, .adaptationInDefinition]

/-- Of two lists of violations, the second one has none at a new place, and has the violations of
rules that cannot be adjusted as the first one has them. -/
structure Milder (vs vs' : List Violation) : Prop where
  places : vs'.map Violation.place ⊆ vs.map Violation.place
  others : (vs'.filter fun v => v.rule ∉ RuleId.adjustable) =
    vs.filter fun v => v.rule ∉ RuleId.adjustable

namespace Milder

variable {vs vs' ws ws' : List Violation}

theorem refl (vs : List Violation) : Milder vs vs :=
  ⟨List.Subset.refl _, rfl⟩

theorem append (first : Milder vs vs') (second : Milder ws ws') :
    Milder (vs ++ ws) (vs' ++ ws') := by
  constructor
  · rw [List.map_append, List.map_append]
    exact List.append_subset.mpr ⟨List.Subset.trans first.places (List.subset_append_left _ _),
      List.Subset.trans second.places (List.subset_append_right _ _)⟩
  · rw [List.filter_append, List.filter_append, first.others, second.others]

theorem flatMap {α : Type} {f f' : α → List Violation} (each : ∀ x, Milder (f x) (f' x))
    (xs : List α) : Milder (xs.flatMap f) (xs.flatMap f') := by
  induction xs with
  | nil => exact .refl []
  | cons x xs ih => exact (each x).append ih

theorem mem_iff (milder : Milder vs vs') {v : Violation} (fixed : v.rule ∉ RuleId.adjustable) :
    v ∈ vs' ↔ v ∈ vs := by
  have other : decide (v.rule ∉ RuleId.adjustable) = true := decide_eq_true fixed
  have both : v ∈ vs'.filter (·.rule ∉ RuleId.adjustable) ↔
      v ∈ vs.filter (·.rule ∉ RuleId.adjustable) := by
    rw [milder.others]
  simpa only [List.mem_filter, other, and_true] using both

theorem canonical (milder : Milder vs vs') :
    Milder (LayerLint.canonical vs) (LayerLint.canonical vs') := by
  constructor
  · intro k member
    exact mem_places_canonical.mpr (milder.places (mem_places_canonical.mp member))
  · have fixed := canonical_filter fun k => decide (k.1 ∉ RuleId.adjustable)
    have both := congrArg LayerLint.canonical milder.others
    exact (fixed vs').symm.trans (both.trans (fixed vs))

end Milder

/-! ### Classes under a looser policy -/

theorem RuleId.sites_adjusted (p : Policy) (lines words : Nat) (exempt : List CallPattern)
    (c : ClassModel) {rule : RuleId} (fixed : rule ∉ adjustable) :
    rule.sites (p.adjusted lines words exempt) c = rule.sites p c := by
  cases rule with
  | adaptationInDefinition => exact absurd (by decide) fixed
  | poorTestNaming => exact absurd (by decide) fixed
  | longTestFunction => exact absurd (by decide) fixed
  | forbiddenImport => rfl
  | assertionInPom => rfl
  | businessLogicInPom => rfl
  | hardcodedTestData => rfl
  | missingLayerStructure => rfl
  | parseError => rfl

section

variable {p : Policy} {lines words : Nat} {exempt : List CallPattern}

theorem Policy.drivesDirectly_of_adjusted (more : p.exemptReceivers ⊆ exempt) {call : Call}
    (drives : (p.adjusted lines words exempt).drivesDirectly call = true) :
    p.drivesDirectly call = true := by
  simp only [drivesDirectly, Bool.and_eq_true, Bool.not_eq_true', List.any_eq_false] at drives ⊢
  exact ⟨drives.1, fun pattern member => drives.2 pattern (more member)⟩

theorem Policy.isPoorName_of_adjusted (fewer : words ≤ p.namingMinWords) {name : String}
    (poor : (p.adjusted lines words exempt).isPoorName name = true) : p.isPoorName name = true := by
  simp only [isPoorName, Bool.or_eq_true, decide_eq_true_eq] at poor ⊢
  exact poor.imp_right fun few => Nat.lt_of_lt_of_le few fewer

variable (longer : p.maxMethodLines ≤ lines) (fewer : words ≤ p.namingMinWords)
  (more : p.exemptReceivers ⊆ exempt)

include longer fewer more

/-- A looser policy has its sites on lines that had one before. Their texts may differ: the limit
stands in what is said about a long test. -/
theorem RuleId.lines_sites_adjusted (c : ClassModel) (rule : RuleId) :
    (rule.sites (p.adjusted lines words exempt) c).map Site.line ⊆
      (rule.sites p c).map Site.line := by
  intro n member
  obtain ⟨site, here, rfl⟩ := List.mem_map.mp member
  by_cases fixed : rule ∉ adjustable
  · rw [sites_adjusted p lines words exempt c fixed] at here
    exact List.mem_map_of_mem here
  · cases rule with
    | adaptationInDefinition =>
        obtain ⟨m, method, inside⟩ := List.mem_flatMap.mp here
        obtain ⟨call, called, rfl⟩ := List.mem_map.mp inside
        obtain ⟨calls, drives⟩ := List.mem_filter.mp called
        have before := List.mem_filter.mpr ⟨calls, Policy.drivesDirectly_of_adjusted more drives⟩
        exact List.mem_map.mpr
          ⟨_, List.mem_flatMap.mpr ⟨m, method, List.mem_map_of_mem before⟩, rfl⟩
    | poorTestNaming =>
        obtain ⟨m, method, rfl⟩ := List.mem_map.mp here
        obtain ⟨inside, poor⟩ := List.mem_filter.mp method
        obtain ⟨test, poor⟩ := Bool.and_eq_true_iff.mp poor
        have before := Bool.and_eq_true_iff.mpr ⟨test, Policy.isPoorName_of_adjusted fewer poor⟩
        exact List.mem_map.mpr
          ⟨_, List.mem_map_of_mem (List.mem_filter.mpr ⟨inside, before⟩), rfl⟩
    | longTestFunction =>
        obtain ⟨m, method, rfl⟩ := List.mem_map.mp here
        obtain ⟨inside, long⟩ := List.mem_filter.mp method
        obtain ⟨test, long⟩ := Bool.and_eq_true_iff.mp long
        have before : (p.isTest m && decide (p.maxMethodLines < m.bodyLines)) = true :=
          Bool.and_eq_true_iff.mpr
            ⟨test, decide_eq_true (Nat.lt_of_le_of_lt longer (of_decide_eq_true long))⟩
        exact List.mem_map.mpr
          ⟨_, List.mem_map_of_mem (List.mem_filter.mpr ⟨inside, before⟩), rfl⟩
    | forbiddenImport => exact absurd (by decide) fixed
    | assertionInPom => exact absurd (by decide) fixed
    | businessLogicInPom => exact absurd (by decide) fixed
    | hardcodedTestData => exact absurd (by decide) fixed
    | missingLayerStructure => exact absurd (by decide) fixed
    | parseError => exact absurd (by decide) fixed

theorem RuleId.milder_evaluate (file : String) (layer : Layer) (c : ClassModel) (rule : RuleId) :
    Milder (rule.evaluate p file layer c)
      (rule.evaluate (p.adjusted lines words exempt) file layer c) := by
  unfold evaluate
  split
  · constructor
    · have fewerLines := lines_sites_adjusted longer fewer more c rule
      rw [List.map_map, List.map_map]
      intro k member
      obtain ⟨site, here, rfl⟩ := List.mem_map.mp member
      have line := mem_lines_firstOnEachLine.mp (List.mem_map_of_mem here)
      obtain ⟨before, there, same⟩ :=
        List.mem_map.mp (mem_lines_firstOnEachLine.mpr (fewerLines line))
      exact List.mem_map.mpr ⟨before, there, congrArg (fun n => (rule, file, n)) same⟩
    · by_cases fixed : rule ∉ adjustable
      · rw [sites_adjusted p lines words exempt c fixed]
      · have none : ∀ sites : List Site, ((sites.map fun s =>
            (⟨file, s.line, rule, s.message⟩ : Violation)).filter (·.rule ∉ adjustable)) = [] := by
          intro sites
          rw [List.filter_map, List.map_eq_nil_iff, List.filter_eq_nil_iff]
          intro s _
          simpa using fixed
        rw [none, none]
  · exact .refl []

theorem Policy.milder_violationsOf (path : String) (c : ClassModel) :
    Milder (p.violationsOf path c) ((p.adjusted lines words exempt).violationsOf path c) :=
  .flatMap (RuleId.milder_evaluate longer fewer more path (p.layerOf path c) c) p.classRules

/-! ### Reports under a looser policy -/

theorem Policy.milder_violationsIn [Engine] (f : SourceFile) :
    Milder (p.violationsIn f) ((p.adjusted lines words exempt).violationsIn f) := by
  have analyze : (p.adjusted lines words exempt).analyze f = p.analyze f := rfl
  rw [violationsIn, violationsIn, analyze]
  cases p.analyze f with
  | oversized bytes => exact .refl []
  | failed failure => exact .refl [_]
  | models classes => exact .flatMap (milder_violationsOf longer fewer more f.path) classes
  | aborted => exact .refl []

theorem Policy.milder_reportOn [Engine] (entries : List (String × Entry))
    (files : List SourceFile) :
    Milder (p.reportOn entries files).violations
      ((p.adjusted lines words exempt).reportOn entries files).violations := by
  have project : (p.adjusted lines words exempt).projectPart entries = p.projectPart entries := rfl
  rw [reportOn_violations, reportOn_violations, project]
  exact ((Milder.flatMap (milder_violationsIn longer fewer more) files).append (.refl _)).canonical

end

/-! ### Scores and exit statuses -/

theorem Milder.penalties_le {vs vs' : List Violation} (milder : Milder vs vs')
    (sorted : vs'.Pairwise Violation.Before) : penalties vs' ≤ penalties vs := by
  -- The rule of a place tells what a violation there takes off.
  have byPlace : ∀ ws : List Violation, penalties ws =
      ((ws.map Violation.place).map fun k => k.1.severity.penalty.toNat).sum := by
    intro ws
    induction ws with
    | nil => rfl
    | cons w ws ih =>
        rw [penalties, ih, List.map_cons, List.map_cons, List.sum_cons]
        rfl
  obtain ⟨ks, order, inside⟩ := List.subperm_of_subset (nodup_places sorted) milder.places
  rw [byPlace, byPlace, ← (order.map _).sum_eq]
  exact (inside.map _).sum_le_sum fun n _ => Nat.zero_le n

theorem Milder.length_le {vs vs' : List Violation} (milder : Milder vs vs')
    (sorted : vs'.Pairwise Violation.Before) : vs'.length ≤ vs.length := by
  have within := (List.subperm_of_subset (nodup_places sorted) milder.places).length_le
  rwa [List.length_map, List.length_map] at within

theorem CommandLine.ExitStatus.ofReport_eq (r : Report) :
    ofReport r = if 0 < r.countOfSeverity .error then .failure else .success := by
  unfold ofReport Report.status
  by_cases errors : 0 < r.countOfSeverity .error
  · rw [if_pos errors, if_pos errors]
  · rw [if_neg errors, if_neg errors]
    cases r.violations.isEmpty <;> rfl

theorem Milder.ofReport {r r' : Report} (milder : Milder r.violations r'.violations) :
    CommandLine.ExitStatus.ofReport r' = CommandLine.ExitStatus.ofReport r := by
  have grave : ∀ rule : RuleId, rule.severity = .error → rule ∉ RuleId.adjustable := by
    intro rule
    cases rule <;> decide
  have fixed : ∀ ws : List Violation, ws.countP (·.severity == .error) =
      (ws.filter fun v => v.rule ∉ RuleId.adjustable).countP (·.severity == .error) := by
    intro ws
    rw [List.countP_filter]
    apply List.countP_congr
    intro v _
    simpa [Violation.severity] using grave v.rule
  have errors : r'.countOfSeverity .error = r.countOfSeverity .error := by
    rw [Report.countOfSeverity, Report.countOfSeverity, fixed, milder.others, ← fixed]
  rw [CommandLine.ExitStatus.ofReport_eq, CommandLine.ExitStatus.ofReport_eq, errors]

theorem Milder.score_le {r r' : Report} (milder : Milder r.violations r'.violations)
    (sorted : r'.violations.Pairwise Violation.Before)
    (few : r.violations.length ≤ 429496729) : r.score ≤ r'.score := by
  have few' := Nat.le_trans (milder.length_le sorted) few
  rw [Report.score, Report.score, Report.toNat_penalty few, Report.toNat_penalty few']
  exact Nat.sub_le_sub_left (milder.penalties_le sorted) 100

/-- The limits and receivers have no part in which files are looked at and what is made of them. -/
theorem FileTree.scan_adjusted_cases [Engine] (t : FileTree) (p : Policy) (path : String)
    (lines words : Nat) (exempt : List CallPattern) :
    let p' := p.adjusted lines words exempt
    (∃ fault, t.scan p path false = .error fault ∧ t.scan p' path false = .error fault) ∨
      ∃ entries files, (∀ f ∈ files, p.analyze f ≠ .aborted) ∧
        t.scan p path false = .ok (p.reportOn entries files) ∧
        t.scan p' path false = .ok (p'.reportOn entries files) := by
  intro p'
  have rules : p'.rules = p.rules := rfl
  have analyze : p'.analyze = p.analyze := rfl
  have files : ∀ entries : List (String × Entry), p'.discoverIn entries = p.discoverIn entries :=
    Policy.discoverIn_congr rfl rfl rfl
  simp only [scan_eq, rules, files, completeScan, analyze]
  split
  · exact .inl ⟨.noRules, rfl, rfl⟩
  · split
    · next fault _ => exact .inl ⟨fault, rfl, rfl⟩
    · next entries _ =>
        split
        · exact .inl ⟨.aborted, rfl, rfl⟩
        · next whole =>
            refine .inr ⟨entries, _, ?_, rfl, rfl⟩
            intro f member aborted
            exact whole (List.any_eq_true.mpr ⟨f, member, beq_of_eq aborted⟩)

/-- Scans under a looser policy. If tests may be longer, names may have fewer words and more
receivers are exempt, a scan ends with the same fault as before, or with a report that has no
violation at a new place. What it loses are violations of the rules on long tests, on names of tests
and on calls that drive the application, and all other violations stay as they are. As many files
are scanned, the exit status is the same, and unless so many violations were found that their
penalties exceed 32 bits, the score does not fall. -/
theorem FileTree.scan_adjusted [Engine] (t : FileTree) (p : Policy) (path : String)
    (lines words : Nat) (exempt : List CallPattern) (longer : p.maxMethodLines ≤ lines)
    (fewer : words ≤ p.namingMinWords) (more : p.exemptReceivers ⊆ exempt) :
    let p' := p.adjusted lines words exempt
    (∃ fault, t.scan p path false = .error fault ∧ t.scan p' path false = .error fault) ∨
      ∃ r r', t.scan p path false = .ok r ∧ t.scan p' path false = .ok r' ∧
        r'.violations.map Violation.place ⊆ r.violations.map Violation.place ∧
        (∀ v ∈ r.violations, v.place ∉ r'.violations.map Violation.place →
          v.rule ∈ [.longTestFunction, .poorTestNaming, .adaptationInDefinition]) ∧
        (∀ v, v.rule ∉ [.longTestFunction, .poorTestNaming, .adaptationInDefinition] →
          (v ∈ r'.violations ↔ v ∈ r.violations)) ∧
        r'.filesScanned = r.filesScanned ∧
        CommandLine.ExitStatus.ofReport r' = CommandLine.ExitStatus.ofReport r ∧
        (r.violations.length ≤ 429496729 → r.score ≤ r'.score) := by
  intro p'
  rcases t.scan_adjusted_cases p path lines words exempt with
    faults | ⟨entries, files, whole, ok, ok'⟩
  · exact .inl faults
  · right
    have milder := Policy.milder_reportOn longer fewer more entries files
    have sorted : (p'.reportOn entries files).violations.Pairwise Violation.Before := by
      rw [Policy.reportOn_violations]
      exact canonical_before _
    refine ⟨_, _, ok, ok', milder.places, ?_, ?_, ?_, milder.ofReport, milder.score_le sorted⟩
    · intro v member gone
      by_contra fixed
      exact gone (List.mem_map_of_mem ((milder.mem_iff fixed).mpr member))
    · intro v fixed
      exact milder.mem_iff fixed
    · rw [p.filesScanned_reportOn entries whole]
      exact p'.filesScanned_reportOn entries whole

/-- Settings for the rule on names of tests, which are to have three words. -/
def Settings.namesOnly : Settings :=
  { enabledRules := [.poorTestNaming]
    namingMinWords := 3
    sensitiveDataPatterns := []
    genericTestNames := [] }

def namedTest : ByteArray :=
  "class T\x7b@Test void logsIn()\x7b\x7d\x7d".toUTF8

/-- Where names of two words are enough, a name of two words is found no more. -/
theorem FileTree.scan_adjusted_named_test :
    let p := Settings.namesOnly.policyWith [] [] []
    let exempt := CallPattern.ofString "browser" :: p.exemptReceivers
    let t : FileTree := { root := .directory [("T.java", .file namedTest)] }
    Settings.namesOnly.policy = .ok p ∧ p.maxMethodLines ≤ 80 ∧ 2 ≤ p.namingMinWords ∧
      p.exemptReceivers ⊆ exempt ∧
      ∃ r r', t.scan p "/" false = .ok r ∧ t.scan (p.adjusted 80 2 exempt) "/" false = .ok r' ∧
        r.violations.map Violation.place = [(.poorTestNaming, "T.java", 1)] ∧
        r'.violations = [] ∧ r'.filesScanned = r.filesScanned ∧ r.score ≤ r'.score := by
  intro p exempt t
  have isName : Entry.IsName "T.java" := by decide
  have known : p.dialectOf? "T.java" = some .java := by decide +kernel
  have found : (p.violationsIn ⟨"T.java", .java, namedTest⟩).map Violation.place =
      [(.poorTestNaming, "T.java", 1)] := by
    decide +kernel
  have found' : (p.adjusted 80 2 exempt).violationsIn ⟨"T.java", .java, namedTest⟩ = [] := by
    decide +kernel
  obtain ⟨v, one, place⟩ := List.map_eq_singleton_iff.mp found
  have whole : p.analyze ⟨"T.java", .java, namedTest⟩ ≠ .aborted :=
    Policy.analyze_ne_aborted_of_mem (one ▸ List.mem_singleton_self v)
  have whole' : (p.adjusted 80 2 exempt).analyze ⟨"T.java", .java, namedTest⟩ ≠ .aborted := by
    have same : (p.adjusted 80 2 exempt).analyze = p.analyze := rfl
    rwa [same]
  have takes : p.Takes ⟨"T.java", .java, namedTest⟩ := ⟨isName, known, rfl⟩
  have takes' : (p.adjusted 80 2 exempt).Takes ⟨"T.java", .java, namedTest⟩ := ⟨isName, known, rfl⟩
  obtain ⟨-, s, scanned, violations⟩ := scan_lone_file (by decide) (by decide) takes whole
  obtain ⟨-, s', scanned', violations'⟩ := scan_lone_file (by decide) (by decide) takes' whole'
  have more : p.exemptReceivers ⊆ exempt := List.subset_cons_self _ _
  obtain ⟨fault, faulty, -⟩ | ⟨r, r', ok, ok', -, -, -, files, -, score⟩ :=
    t.scan_adjusted p "/" 80 2 exempt (by decide) (by decide) more
  · cases scanned.symm.trans faulty
  · obtain rfl := Except.ok.inj (scanned.symm.trans ok)
    obtain rfl := Except.ok.inj (scanned'.symm.trans ok')
    rw [found', canonical_nil] at violations'
    rw [one, canonical_singleton] at violations
    refine ⟨rfl, by decide, by decide, more, s, s', ok, ok', ?_, violations', files, score ?_⟩
    · rw [violations, List.map_singleton, place]
    · rw [violations, List.length_singleton]
      decide

end LayerLint
