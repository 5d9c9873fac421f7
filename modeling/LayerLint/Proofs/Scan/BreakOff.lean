import LayerLint.Proofs.Extract.Outcome
import LayerLint.Proofs.Scan.Schedule

/-! When a source text ends a scan. Every text yields violations, unless the walk through it comes
to a string literal among arguments whose content cannot be cut out at the borders of characters;
one such text ends the scan as a whole. A literal closed by as many quotes as open it is never of
this kind. -/

namespace LayerLint

open Syntax Text

section

variable [Engine]

/-- A text of a language at which the analysis breaks off: the text is sound, and the walk comes to
a literal that cannot be cut before anything else stops it. -/
def BreaksOff (d : Dialect) (maxNesting : Nat) (text : String) : Prop :=
  let src := Source.ofString text
  firstFlaw (Engine.parse d src) = none ∧
    ∃ before v after, visitsOfFile d src (Engine.parse d src) = before ++ v :: after ∧
      (∀ u ∈ before, u.Passes d src maxNesting) ∧ v.Within maxNesting ∧ v.SplitsLiteral d src

theorem extract_eq_aborted_iff (d : Dialect) (budget : Budget) (text : String) :
    extract d budget text = .aborted ↔
      budget.expired = none ∧ BreaksOff d budget.maxNesting text := by
  unfold extract
  cases budget.expired with
  | some ms => simp
  | none =>
      simp only [BreaksOff, true_and]
      cases firstFlaw (Engine.parse d (Source.ofString text)) with
      | some flaw =>
          dsimp only
          split <;> simp
      | none => simp [classesOf_eq_aborted_iff]

namespace Policy

theorem analyzeText_eq_aborted_iff (p : Policy) (d : Dialect) (text : String) :
    p.analyzeText d text = .aborted ↔ BreaksOff d p.maxNesting text := by
  have extraction := extract_eq_aborted_iff d p.budget text
  rw [show p.budget.expired = none from rfl, show p.budget.maxNesting = p.maxNesting from rfl,
    eq_self, true_and] at extraction
  rw [← extraction, analyzeText]
  cases extract d p.budget text with
  | models classes => simp
  | failed failure => simp
  | aborted => simp

/-- A text gives violations or breaks the analysis off. -/
theorem outcome_analyzeText (p : Policy) (d : Dialect) (text path : String) :
    (∃ violations, (p.analyzeText d text).outcome p path = .analyzed violations) ∨
      p.analyzeText d text = .aborted := by
  unfold analyzeText
  cases extract d p.budget text with
  | models classes => exact .inl ⟨_, rfl⟩
  | failed failure => exact .inl ⟨_, rfl⟩
  | aborted => exact .inr rfl

theorem exists_violations_iff (p : Policy) (d : Dialect) (text path : String) :
    (∃ violations, (p.analyzeText d text).outcome p path = .analyzed violations) ↔
      ¬ BreaksOff d p.maxNesting text := by
  rw [← p.analyzeText_eq_aborted_iff]
  constructor
  · rintro ⟨violations, analyzed⟩ aborted
    rw [aborted] at analyzed
    cases analyzed
  · intro whole
    exact (p.outcome_analyzeText d text path).resolve_right whole

theorem analyze_eq_aborted_iff (p : Policy) (f : SourceFile) :
    p.analyze f = .aborted ↔
      f.content.size ≤ p.maxFileBytes ∧
        BreaksOff f.dialect p.maxNesting (textOfBytes f.content) := by
  rw [analyze, analyzeContent]
  split
  · next large => simp [Nat.not_le_of_lt large]
  · next small => simp [Nat.le_of_not_lt small, analyzeText_eq_aborted_iff]

end Policy

/-- A scan breaks off exactly if the analysis of one of its files does. -/
theorem FileTree.scan_eq_aborted_iff (t : FileTree) (p : Policy) (path : String) :
    t.scan p path false = .error .aborted ↔
      p.rules ≠ [] ∧ (∃ root, t.scanRoot path = .ok root) ∧
        ∃ f ∈ (t.discover p path).files, p.analyze f = .aborted := by
  rw [scan_eq]
  cases rules : p.rules.isEmpty with
  | true => simp [List.isEmpty_iff.mp rules]
  | false =>
      rw [if_neg Bool.false_ne_true]
      cases found : t.scanRoot path with
      | error fault =>
          simp only [Except.error.injEq, reduceCtorEq, exists_false, false_and, and_false,
            iff_false]
          -- A fault in finding the directory is never that the analysis broke off.
          rintro rfl
          unfold scanRoot at found
          split at found
          · cases found
          · split at found <;> cases found
      | ok place =>
          obtain ⟨root, entries⟩ := place
          have some : p.rules ≠ [] := by
            rintro none
            rw [none] at rules
            cases rules
          rw [t.discover_of_scanRoot p path found]
          simp only [completeScan, ne_eq, some, not_false_eq_true, true_and]
          constructor
          · intro broken
            split at broken
            · next any =>
                obtain ⟨f, member, aborted⟩ := List.any_eq_true.mp any
                exact ⟨⟨_, rfl⟩, f, member, eq_of_beq aborted⟩
            · cases broken
          · rintro ⟨-, f, member, aborted⟩
            have any : (p.discoverIn entries).files.any (fun f => p.analyze f == .aborted) = true :=
              List.any_eq_true.mpr ⟨f, member, beq_of_eq aborted⟩
            rw [if_pos any]

/-- When source texts end a scan. A text yields violations exactly if the analysis does not break
off at it; a scan ends without a report exactly if one of its files is such a text; and a literal
makes the analysis break off exactly if the quotes that open it beyond those that close it, counted
in bytes from the end of its content, reach into a character. -/
theorem Policy.analysis_yields_violations_iff (p : Policy) :
    (∀ d text path,
      (∃ violations, (p.analyzeText d text).outcome p path = .analyzed violations) ↔
        ¬ BreaksOff d p.maxNesting text) ∧
    (∀ (t : FileTree) path, t.scan p path false = .error .aborted ↔
      p.rules ≠ [] ∧ (∃ root, t.scanRoot path = .ok root) ∧
        ∃ f ∈ (t.discover p path).files, f.content.size ≤ p.maxFileBytes ∧
          BreaksOff f.dialect p.maxNesting (textOfBytes f.content)) ∧
    ∀ (marks content : List Char) (closing more : Nat),
      (∀ c ∈ marks, isLiteralMark c = true) → content.head? ≠ some '"' → content ≠ [] →
      0 < closing + more → closing + more ≠ 2 →
      (SplitsCharacter (String.ofList (marks ++ List.replicate (closing + more) '"' ++ content ++
          List.replicate closing '"')) ↔
        more ≤ byteLength content ∧ ¬ IsBorder content (byteLength content - more)) := by
  refine ⟨p.exists_violations_iff, fun t path => ?_, fun marks content closing more marked start
    nonempty quotes two => splitsCharacter_closed_iff marked start nonempty quotes two⟩
  rw [t.scan_eq_aborted_iff]
  simp only [p.analyze_eq_aborted_iff]

end

/-- A verbatim literal whose content begins with an escaped quote and ends with a character of three
bytes breaks the analysis off. -/
theorem analysis_breaks_off_at_verbatim_literal :
    let p := ({} : Settings).policyWith [] [] []
    (p.analyzeText .csharp "class T \x7b void M() \x7b F(@\"\"\"€\"); \x7d \x7d").outcome p "T.cs" =
      .aborted := by
  decide +kernel

end LayerLint
