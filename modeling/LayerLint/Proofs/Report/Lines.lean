import LayerLint.Proofs.FileTree.Locate
import LayerLint.Report.Printer
import Mathlib.Data.List.TakeWhile

/-! The lines of a report in text form. Each violation is shown on a line of its own, followed by a
blank line, exactly if no file name and no message has a line break. -/

namespace LayerLint

namespace Text

def Breaks (s : String) : Prop :=
  '\n' ∈ s.toList

instance (s : String) : Decidable (Breaks s) :=
  inferInstanceAs (Decidable ('\n' ∈ s.toList))

theorem breaks_append {s t : String} : Breaks (s ++ t) ↔ Breaks s ∨ Breaks t := by
  rw [Breaks, String.toList_append, List.mem_append]
  rfl

theorem breaks_toString (s : String) : Breaks (toString s) ↔ Breaks s :=
  Iff.rfl

theorem not_breaks_number (n : Nat) : ¬ Breaks (toString n) := by
  intro breaks
  have member : '\n' ∈ Nat.toDigits 10 n := Nat.toList_repr ▸ breaks
  have digit := Nat.isDigit_of_mem_toDigits (by decide) (by decide) member
  revert digit
  decide

def lines (s : String) : List String :=
  (pieces '\n' s.toList).map String.ofList

def linesBeforeBlank (s : String) : List String :=
  (lines s).takeWhile (· ≠ "")

theorem lines_append (s t : String) : lines (s ++ "\n" ++ t) = lines s ++ lines t := by
  have chars : (s ++ "\n" ++ t).toList = s.toList ++ '\n' :: t.toList := by
    rw [String.toList_append, String.toList_append, List.append_assoc]
    rfl
  rw [lines, chars, pieces_append_sep, List.map_append]
  rfl

theorem lines_of_not_breaks {s : String} (whole : ¬ Breaks s) : lines s = [s] := by
  rw [lines, pieces_of_notMem whole, List.map_singleton, String.ofList_toList]

theorem not_breaks_of_mem_lines {s line : String} (member : line ∈ lines s) : ¬ Breaks line := by
  obtain ⟨piece, here, rfl⟩ := List.mem_map.mp member
  rw [Breaks, String.toList_ofList]
  exact sep_notMem_pieces here

end Text

open Text

def Violation.shown (v : Violation) : String :=
  s!"{v.file}:{v.line}: [{v.severity.name}] {v.rule.id} — {v.message}"

namespace Violation

theorem textLine_eq (v : Violation) : v.textLine false = v.shown ++ "\n" := by
  simp only [textLine, shown, Style.paint]
  rfl

theorem breaks_shown (v : Violation) : Breaks v.shown ↔ Breaks v.file ∨ Breaks v.message := by
  have severity : ¬ Breaks v.severity.name := by cases v.severity <;> decide
  have rule : ¬ Breaks v.rule.id := by cases v.rule <;> decide
  simp +decide only [shown, breaks_append, breaks_toString, not_breaks_number, severity, rule,
    or_false]

theorem shown_ne_empty (v : Violation) : v.shown ≠ "" := by
  have colon : ':' ∈ v.shown.toList := by
    simp +decide only [shown, String.toList_append, List.mem_append, true_or, or_true]
  intro empty
  rw [empty] at colon
  cases colon

end Violation

namespace Report

variable {r : Report}

theorem lines_violations (vs : List Violation) (rest : String) :
    lines (String.join (vs.map (·.textLine false)) ++ rest) =
      vs.flatMap (fun v => lines v.shown) ++ lines rest := by
  induction vs with
  | nil => simp
  | cons v vs ih =>
      rw [List.map_cons, String.join_cons, v.textLine_eq, String.append_assoc, lines_append, ih,
        List.flatMap_cons, List.append_assoc]

theorem summaryText_eq (r : Report) : ∃ rest, r.summaryText false = "\n" ++ rest := by
  unfold summaryText
  extract_lets
  simp only [String.append_assoc]
  exact ⟨_, rfl⟩

/-- The lines of a report: those of its violations, a blank one, and those of the summary. -/
theorem lines_text (found : r.violations ≠ []) :
    ∃ rest, lines (r.text false) =
      r.violations.flatMap (fun v => lines v.shown) ++ "" :: rest := by
  have some : ¬ r.isEmpty = true := by
    rw [isEmpty, List.isEmpty_iff]
    exact found
  obtain ⟨rest, summary⟩ := r.summaryText_eq
  refine ⟨lines rest, ?_⟩
  rw [text, if_neg some, lines_violations, summary, ← String.empty_append (s := "\n"),
    lines_append]
  rfl

theorem linesBeforeBlank_text (found : r.violations ≠ []) :
    linesBeforeBlank (r.text false) =
      (r.violations.flatMap fun v => lines v.shown).takeWhile (· ≠ "") := by
  obtain ⟨rest, all⟩ := r.lines_text found
  rw [linesBeforeBlank, all, List.takeWhile_append]
  split
  · next passed =>
      rw [List.takeWhile_cons_of_neg (by decide), List.append_nil]
      exact (List.takeWhile_prefix _).eq_of_length passed |>.symm
  · rfl

/-- Before the blank line a report has the violations, one on each line, exactly if no message goes
over more than one line. -/
theorem linesBeforeBlank_text_iff (found : r.violations ≠ [])
    (files : ∀ v ∈ r.violations, ¬ Breaks v.file) :
    linesBeforeBlank (r.text false) = r.violations.map Violation.shown ↔
      ∀ v ∈ r.violations, ¬ Breaks v.message := by
  constructor
  · intro same v member breaks
    have shown : v.shown ∈ linesBeforeBlank (r.text false) := same ▸ List.mem_map_of_mem member
    exact not_breaks_of_mem_lines (List.takeWhile_subset _ shown) (v.breaks_shown.mpr (.inr breaks))
  · intro whole
    have single : ∀ v ∈ r.violations, lines v.shown = [v.shown] := fun v member =>
      lines_of_not_breaks fun breaks =>
        (v.breaks_shown.mp breaks).elim (files v member) (whole v member)
    rw [linesBeforeBlank_text found, List.flatMap_congr single, List.takeWhile_eq_self_iff.mpr]
    · exact List.flatMap_pure_eq_map _ _
    · intro line member
      obtain ⟨v, -, here⟩ := List.mem_flatMap.mp member
      obtain rfl := List.mem_singleton.mp here
      exact decide_eq_true v.shown_ne_empty

end Report

end LayerLint
