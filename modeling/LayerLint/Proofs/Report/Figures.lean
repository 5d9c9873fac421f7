import LayerLint.Proofs.Report.Canonical
import LayerLint.Proofs.Report.Document
import Mathlib.Algebra.BigOperators.Group.List.Basic
import Mathlib.Algebra.GroupWithZero.Nat
import Mathlib.Data.Finset.Card
import Mathlib.Data.Finset.Dedup
import Mathlib.Data.Finset.Option

/-! The figures of a report. Each of them is read off the list of violations on its own, and all of
them agree. The files are counted where the file changes from one violation to the next, which
counts each file once since the list is sorted by file. -/

namespace LayerLint

/-! ### Files -/

theorem Violation.Before.file {v w : Violation} (before : v.Before w) :
    v.file < w.file ∨ v.file = w.file :=
  before.imp_right And.left

/-- A file that is counted already is at most the first one that follows; it does not come back
after a change of file. -/
theorem countFileRuns_eq_card {vs : List Violation} (sorted : vs.Pairwise Violation.Before)
    {last : Option String} (after : ∀ f ∈ last, ∀ v ∈ vs, f < v.file ∨ f = v.file) :
    countFileRuns last vs = ((vs.map (·.file)).toFinset \ last.toFinset).card := by
  induction vs generalizing last with
  | nil => simp [countFileRuns]
  | cons v vs ih =>
      obtain ⟨below, sorted⟩ := List.pairwise_cons.mp sorted
      have rest : ∀ f ∈ some v.file, ∀ w ∈ vs, f < w.file ∨ f = w.file := by
        intro f same w member
        obtain rfl := Option.mem_some_iff.mp same
        exact (below w member).file
      rw [countFileRuns, ih sorted rest, List.map_cons, List.toFinset_cons, Option.toFinset_some]
      by_cases same : last = some v.file
      · have counted : v.file ∈ last.toFinset := by simp [same]
        rw [Finset.insert_sdiff_of_mem _ counted, same, Option.toFinset_some, beq_self_eq_true,
          if_pos rfl, Nat.zero_add]
      · have apart : Disjoint (insert v.file (vs.map (·.file)).toFinset) last.toFinset := by
          rw [Finset.disjoint_left]
          intro f member counted
          rw [Option.mem_toFinset] at counted
          have earlier : f < v.file := by
            rcases after f counted v List.mem_cons_self with lt | rfl
            · exact lt
            · exact absurd counted same
          rcases Finset.mem_insert.mp member with rfl | later
          · exact String.lt_irrefl _ earlier
          · obtain ⟨w, listed, rfl⟩ := List.mem_map.mp (List.mem_toFinset.mp later)
            rcases (below w listed).file with lt | eq
            · exact String.lt_irrefl _ (String.lt_trans earlier lt)
            · exact String.lt_irrefl _ (eq ▸ earlier)
        rw [Finset.sdiff_eq_self_of_disjoint apart, if_neg (by simpa using same),
          Finset.sdiff_singleton_eq_erase, ← Finset.card_erase_add_one (Finset.mem_insert_self _ _),
          Finset.erase_insert_eq_erase, Nat.add_comm]

/-! ### Rules and severities -/

theorem sum_counts_eq_length (vs : List Violation) :
    (RuleId.all.map fun rule => vs.countP (·.rule == rule)).sum = vs.length := by
  induction vs with
  | nil => rfl
  | cons v vs ih =>
      have one : (RuleId.all.map fun rule => if v.rule == rule then 1 else 0).sum = 1 := by
        cases v.rule <;> rfl
      simp only [List.countP_cons, List.sum_map_add, ih, one, List.length_cons]

theorem sum_filter_pos (ns : List (RuleId × Nat)) :
    ((ns.filter (0 < ·.2)).map (·.2)).sum = (ns.map (·.2)).sum := by
  induction ns with
  | nil => rfl
  | cons n ns ih =>
      rw [List.filter_cons]
      split
      · simp [ih]
      · next zero =>
          have none : n.2 = 0 := by simpa using zero
          simp [ih, none]

namespace Report

theorem sum_summary (r : Report) : (r.summary.map (·.2)).sum = r.violations.length := by
  rw [summary_eq, countsOf, sum_filter_pos, List.map_map]
  exact sum_counts_eq_length r.violations

theorem sum_severities (r : Report) :
    r.countOfSeverity .error + r.countOfSeverity .warning + r.countOfSeverity .info =
      r.violations.length := by
  simp only [countOfSeverity]
  induction r.violations with
  | nil => rfl
  | cons v vs ih =>
      simp only [List.countP_cons, List.length_cons]
      cases v.severity <;> simp <;> omega

end Report

/-! ### The score -/

def penalties : List Violation → Nat
  | [] => 0
  | v :: vs => v.severity.penalty.toNat + penalties vs

theorem penalties_le (vs : List Violation) : penalties vs ≤ 10 * vs.length := by
  induction vs with
  | nil => exact Nat.le_refl 0
  | cons v vs ih =>
      have one : v.severity.penalty.toNat ≤ 10 := by
        cases v.severity <;> decide
      rw [penalties, List.length_cons]
      omega

namespace Report

theorem toNat_penalty {r : Report} (few : r.violations.length ≤ 429496729) :
    r.penalty.toNat = penalties r.violations := by
  unfold penalty
  generalize r.violations = vs at few
  induction vs with
  | nil => rfl
  | cons v vs ih =>
      have fits := penalties_le (v :: vs)
      rw [List.foldr_cons, UInt32.toNat_add, ih (Nat.le_of_succ_le few), ← penalties]
      apply Nat.mod_eq_of_lt
      omega

theorem penalties_eq (r : Report) :
    penalties r.violations = 10 * r.countOfSeverity .error + 5 * r.countOfSeverity .warning +
      r.countOfSeverity .info := by
  simp only [countOfSeverity]
  induction r.violations with
  | nil => rfl
  | cons v vs ih =>
      simp only [penalties, List.countP_cons, ih]
      cases v.severity <;> simp [Severity.penalty] <;> omega

theorem score_eq {r : Report} (few : r.violations.length ≤ 429496729) :
    (r.score : Int) = max 0 (100 - 10 * r.countOfSeverity .error -
      5 * r.countOfSeverity .warning - r.countOfSeverity .info) := by
  rw [score, toNat_penalty few, penalties_eq]
  omega

theorem nodup_summary_rules (r : Report) : (r.summary.map (·.1)).Nodup := by
  have ordered := List.pairwise_map.mp r.summary_ordered
  refine List.pairwise_map.mpr (ordered.imp ?_)
  intro a b before same
  change a.1.id < b.1.id at before
  rw [same] at before
  exact String.lt_irrefl _ before

theorem status_eq_failing_iff (r : Report) :
    r.status = .failing ↔ ∃ rule n, (rule, n) ∈ r.summary ∧ rule.severity = .error := by
  have grave : r.status = .failing ↔ 0 < r.countOfSeverity .error := by
    unfold status
    split
    · next some => exact iff_of_true rfl some
    · next none => split <;> exact iff_of_false (by decide) none
  rw [grave, countOfSeverity, List.countP_pos_iff]
  simp only [mem_summary, beq_iff_eq]
  constructor
  · rintro ⟨v, member, error⟩
    exact ⟨v.rule, _, ⟨rfl, v, member, rfl⟩, error⟩
  · rintro ⟨rule, n, ⟨-, v, member, rfl⟩, error⟩
    exact ⟨v, member, error⟩

theorem status_eq_clean_iff (r : Report) : r.status = .clean ↔ r.violations = [] := by
  unfold status
  split
  · next some =>
      refine iff_of_false (by decide) ?_
      intro none
      rw [countOfSeverity, none] at some
      cases some
  · rw [← List.isEmpty_iff]
    split
    · next none => exact iff_of_true rfl none
    · next filled => exact iff_of_false (by decide) filled

/-- The figures of a report agree with its violations, as long as these are not so many that what
they take off the score exceeds 32 bits: the files with violations are the different files, the
summary has the rules that are broken and how often, both the summary and the severities account for
each violation once, the score is what the severities leave of 100, and the status says whether
there are violations and whether one of them breaks a grave rule. -/
theorem figures_agree (results : List (String × List Violation)) (filesScanned : Nat)
    (few : (ofResults results filesScanned).violations.length ≤ 429496729) :
    let r := ofResults results filesScanned
    let errors := r.countOfSeverity .error
    let warnings := r.countOfSeverity .warning
    let infos := r.countOfSeverity .info
    r.filesWithViolations = (r.violations.map (·.file)).toFinset.card ∧
      (∀ rule n, (rule, n) ∈ r.summary ↔
        n = r.violations.countP (·.rule == rule) ∧ ∃ v ∈ r.violations, v.rule = rule) ∧
      (r.summary.map (·.1)).Nodup ∧
      (r.summary.map (·.2)).sum = r.violations.length ∧
      errors + warnings + infos = r.violations.length ∧
      penalties r.violations < 2 ^ 32 ∧ r.penalty.toNat = penalties r.violations ∧
      (r.score : Int) = max 0 (100 - 10 * errors - 5 * warnings - infos) ∧
      (r.status = .clean ↔ r.violations = []) ∧
      (r.status = .failing ↔ ∃ rule n, (rule, n) ∈ r.summary ∧ rule.severity = .error) := by
  intro r errors warnings infos
  have sorted : r.violations.Pairwise Violation.Before := canonical_before _
  have files : r.filesWithViolations = (r.violations.map (·.file)).toFinset.card := by
    rw [filesWithViolations, countFileRuns_eq_card sorted (by simp), Option.toFinset_none,
      Finset.sdiff_empty]
  have bound : penalties r.violations < 2 ^ 32 := by
    calc penalties r.violations ≤ 10 * r.violations.length := penalties_le _
      _ ≤ 10 * 429496729 := Nat.mul_le_mul_left 10 few
      _ < 2 ^ 32 := by decide
  exact ⟨files, fun rule n => mem_summary, r.nodup_summary_rules, r.sum_summary, r.sum_severities,
    bound, toNat_penalty few, score_eq few, r.status_eq_clean_iff, r.status_eq_failing_iff⟩

theorem figures_agree_two_files :
    let results := [("a", [⟨"a", 7, .forbiddenImport, "x"⟩, ⟨"a", 9, .forbiddenImport, "x"⟩]),
      ("b", [⟨"b", 2, .poorTestNaming, "y"⟩, ⟨"b", 2, .poorTestNaming, "z"⟩])]
    let r := ofResults results 3
    r.violations.length ≤ 429496729 ∧ r.filesWithViolations = 2 ∧
      (r.summary.map (·.2)).sum = 3 ∧ r.score = 79 ∧ r.status = .failing := by
  intro results r
  have shown : r.violations = [⟨"a", 7, .forbiddenImport, "x"⟩, ⟨"a", 9, .forbiddenImport, "x"⟩,
      ⟨"b", 2, .poorTestNaming, "y"⟩] := by
    have inOrder : (results.flatMap (·.2)).Pairwise fun v w => v.le w = true := by decide +kernel
    change firstAtEachPlace (List.mergeSort _ _) = _
    rw [List.mergeSort_of_pairwise inOrder]
    simp [results, firstAtEachPlace, Violation.samePlace]
  have few : r.violations.length ≤ 429496729 := by
    rw [shown]
    decide
  obtain ⟨files, rules, -, total, -, -, -, score, -, failing⟩ := figures_agree results 3 few
  refine ⟨few, ?_, ?_, ?_, ?_⟩
  · rw [files, shown]
    decide
  · rw [total, shown]
    rfl
  · have errors : r.countOfSeverity .error = 2 := by
      rw [countOfSeverity, shown]
      decide
    have warnings : r.countOfSeverity .warning = 0 := by
      rw [countOfSeverity, shown]
      decide
    have infos : r.countOfSeverity .info = 1 := by
      rw [countOfSeverity, shown]
      decide
    change (r.score : Int) = max 0 (100 - 10 * r.countOfSeverity .error -
      5 * r.countOfSeverity .warning - r.countOfSeverity .info) at score
    rw [errors, warnings, infos] at score
    omega
  · apply failing.mpr
    refine ⟨.forbiddenImport, _, (rules _ _).mpr ⟨rfl, ?_⟩, rfl⟩
    rw [shown]
    exact ⟨_, List.mem_cons_self, rfl⟩

end Report

end LayerLint
