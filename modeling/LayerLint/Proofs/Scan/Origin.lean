import LayerLint.Scan.Basic
import Mathlib.Data.List.Basic

/-! Where the violations of a report come from. Every violation of a file names the file and a rule
that runs, or tells that the file could not be read as source; the project has at most one
violation, under a path of its own. -/

namespace LayerLint

theorem RuleId.mem_evaluate {p : Policy} {file : String} {layer : Layer} {c : ClassModel}
    {rule : RuleId} {v : Violation} (member : v ∈ rule.evaluate p file layer c) :
    v.file = file ∧ v.rule = rule := by
  unfold evaluate at member
  split at member
  · obtain ⟨site, -, rfl⟩ := List.mem_map.mp member
    exact ⟨rfl, rfl⟩
  · cases member

theorem Policy.mem_violationsOf {p : Policy} {path : String} {c : ClassModel} {v : Violation}
    (member : v ∈ p.violationsOf path c) : v.file = path ∧ v.rule ∈ p.rules := by
  obtain ⟨rule, runs, here⟩ := List.mem_flatMap.mp member
  obtain ⟨file, rfl⟩ := RuleId.mem_evaluate here
  exact ⟨file, (List.mem_filter.mp runs).1⟩

def Outcome.violations : Outcome → List Violation
  | .analyzed violations => violations
  | .skipped | .aborted => []

theorem Analysis.mem_outcome {p : Policy} {path : String} {a : Analysis} {v : Violation}
    (member : v ∈ (a.outcome p path).violations) :
    v.file = path ∧ (v.rule ∈ p.rules ∨ v.rule = .parseError) := by
  cases a with
  | oversized bytes => cases member
  | failed failure =>
      obtain rfl := List.mem_singleton.mp member
      exact ⟨rfl, .inr rfl⟩
  | models classes =>
      obtain ⟨c, -, here⟩ := List.mem_flatMap.mp member
      exact (Policy.mem_violationsOf here).imp_right .inl
  | aborted => cases member

theorem Policy.projectViolations_eq (p : Policy) (entries : List (String × Entry)) :
    p.projectViolations entries = [] ∨
      ∃ message, p.projectViolations entries =
        [⟨projectPath, 0, .missingLayerStructure, message⟩] := by
  simp only [projectViolations]
  split
  · exact .inl rfl
  · exact .inr ⟨_, rfl⟩

theorem Policy.rule_of_mem_projectViolations {p : Policy} {entries : List (String × Entry)}
    {v : Violation} (member : v ∈ p.projectViolations entries) :
    v.rule = .missingLayerStructure := by
  rcases p.projectViolations_eq entries with none | ⟨message, one⟩
  · rw [none] at member
    cases member
  · rw [one] at member
    obtain rfl := List.mem_singleton.mp member
    rfl

/-- Where everything gives violations that are labelled with it, the violations with some labels are
those of what has these labels. -/
theorem flatMap_filter_origin {α κ : Type} {f : α → List Violation} (label : Violation → κ)
    {origin : α → κ} (own : ∀ x, ∀ v ∈ f x, label v = origin x) (keep : κ → Bool) (xs : List α) :
    (xs.filter fun x => keep (origin x)).flatMap f =
      (xs.flatMap f).filter fun v => keep (label v) := by
  induction xs with
  | nil => rfl
  | cons x xs ih =>
      have same : ∀ v ∈ f x, keep (label v) = keep (origin x) :=
        fun v member => congrArg keep (own x v member)
      rw [List.flatMap_cons, List.filter_append, ← ih, List.filter_congr same, List.filter_cons]
      cases keep (origin x) with
      | true => rw [if_pos rfl, List.flatMap_cons, List.filter_true]
      | false => rw [if_neg Bool.false_ne_true, List.filter_false, List.nil_append]

/-! ### The violations of a report -/

theorem flatMap_resultsOf (p : Policy) (analyses : List (SourceFile × Analysis)) :
    (resultsOf p analyses).flatMap (·.2) =
      analyses.flatMap fun x => (x.2.outcome p x.1.path).violations := by
  induction analyses with
  | nil => rfl
  | cons x analyses ih =>
      obtain ⟨f, a⟩ := x
      rw [List.flatMap_cons, ← ih, resultsOf, List.filterMap_cons]
      dsimp only
      cases a.outcome p f.path with
      | analyzed violations => rfl
      | skipped => rfl
      | aborted => rfl

def Policy.projectPart (p : Policy) (entries : List (String × Entry)) : List Violation :=
  if p.rules.contains .missingLayerStructure then p.projectViolations entries else []

theorem Policy.projectPart_eq (p : Policy) (entries : List (String × Entry)) :
    p.projectPart entries = [] ∨
      ∃ message, p.projectPart entries =
        [⟨projectPath, 0, .missingLayerStructure, message⟩] := by
  unfold projectPart
  split
  · exact p.projectViolations_eq entries
  · exact .inl rfl

theorem Policy.mem_projectPart {p : Policy} {entries : List (String × Entry)} {v : Violation}
    (member : v ∈ p.projectPart entries) :
    v.file = projectPath ∧ p.projectPart entries = [v] := by
  rcases p.projectPart_eq entries with none | ⟨message, one⟩
  · rw [none] at member
    cases member
  · rw [one] at member
    obtain rfl := List.mem_singleton.mp member
    exact ⟨rfl, one⟩

/-- The violations of a report are those of the files and that of the project in canonical form. -/
theorem reportOf_violations (p : Policy) (entries : List (String × Entry))
    (analyses : List (SourceFile × Analysis)) :
    (reportOf p entries analyses).violations =
      canonical ((analyses.flatMap fun x => (x.2.outcome p x.1.path).violations) ++
        p.projectPart entries) := by
  rw [← flatMap_resultsOf]
  simp only [reportOf, Report.ofResults, Policy.projectPart, List.flatMap_append]
  split
  · rw [List.flatMap_singleton]
  · rfl

end LayerLint
