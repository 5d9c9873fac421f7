import LayerLint.Extract
import LayerLint.Proofs.Syntax.Step
import LayerLint.Proofs.Text.Unquote

/-! What comes of a walk. It is stopped at the first node that lies too deep, or that is a string
literal among arguments whose content cannot be cut out; without such a node it yields the models of
all types met. -/

namespace LayerLint

open Syntax Text

namespace Syntax.Visit

def Within (maxNesting : Nat) (v : Visit) : Prop :=
  v.mode.enters = true → v.depth.scopes ≤ maxNesting ∧ v.depth.nodes ≤ treeLimit

/-- A string literal among the arguments of a call whose content cannot be cut out. -/
def SplitsLiteral (d : Dialect) (src : Source) (v : Visit) : Prop :=
  (∃ callee, v.mode = .body (some callee)) ∧ d.literalKind? v.tree.kind = some .string ∧
    SplitsCharacter (v.tree.text src)

def Passes (d : Dialect) (src : Source) (maxNesting : Nat) (v : Visit) : Prop :=
  v.Within maxNesting ∧ ¬ v.SplitsLiteral d src

end Syntax.Visit

/-- The value of a literal of a kind, if it can be cut out. -/
def literalValue? (src : Source) (t : Tree) : LiteralKind → Option String
  | .string => unquote (t.text src)
  | .number => some (t.text src)

section

variable {d : Dialect} {src : Source}

/-- A literal among the arguments of a call. -/
theorem literalAt?_eq_some_iff {v : Visit} {kind : LiteralKind} {callee : String}
    {value : Option String} :
    literalAt? d src v = some (kind, callee, value) ↔
      v.mode = .body (some callee) ∧ d.literalKind? v.tree.kind = some kind ∧
        value = literalValue? src v.tree kind := by
  unfold literalAt?
  constructor
  · intro found
    split at found
    · next mode =>
        split at found
        · cases found
        · obtain ⟨kind, is, same⟩ := Option.map_eq_some_iff.mp found
          obtain ⟨rfl, rest⟩ := Prod.mk.inj same
          obtain ⟨rfl, rfl⟩ := Prod.mk.inj rest
          exact ⟨mode, is, by cases kind <;> rfl⟩
    · cases found
  · rintro ⟨mode, is, rfl⟩
    cases kind <;> simp [mode, is, Dialect.call?_of_literal is, literalValue?]

/-- A literal argument without a value is a string that cannot be cut. -/
theorem exists_literalAt?_none_iff {v : Visit} :
    (∃ kind callee, literalAt? d src v = some (kind, callee, none)) ↔ v.SplitsLiteral d src := by
  simp only [literalAt?_eq_some_iff]
  constructor
  · rintro ⟨kind, callee, mode, is, value⟩
    cases kind with
    | string => exact ⟨⟨callee, mode⟩, is, (unquote_eq_none_iff _).mp value.symm⟩
    | number => cases value
  · rintro ⟨⟨callee, mode⟩, is, splits⟩
    exact ⟨.string, callee, mode, is, ((unquote_eq_none_iff _).mpr splits).symm⟩

end

/-! ### What stops the walk -/

section

variable (d : Dialect) (src : Source) (maxNesting : Nat)

/-- At a node the walk goes on, breaks off or ends as too deep. -/
theorem stopAt_cases (v : Visit) :
    v.Passes d src maxNesting ∧ stopAt d src maxNesting v = none ∨
      v.Within maxNesting ∧ v.SplitsLiteral d src ∧ stopAt d src maxNesting v = some .aborted ∨
      ¬ v.Within maxNesting ∧ ∃ failure, stopAt d src maxNesting v = some (.failed failure) := by
  unfold stopAt
  split
  · next deep =>
      simp only [Bool.and_eq_true, decide_eq_true_eq] at deep
      refine .inr (.inr ⟨fun within => ?_, _, rfl⟩)
      exact Nat.not_lt_of_le (within deep.1).1 deep.2
  · next scopes =>
      split
      · next deep =>
          simp only [Bool.and_eq_true, decide_eq_true_eq] at deep
          refine .inr (.inr ⟨fun within => ?_, _, rfl⟩)
          exact Nat.not_lt_of_le (within deep.1).2 deep.2
      · next nodes =>
          have within : v.Within maxNesting := by
            intro enters
            simp only [enters, Bool.true_and, decide_eq_true_eq, Nat.not_lt] at scopes nodes
            exact ⟨scopes, nodes⟩
          split
          · next kind callee uncut =>
              exact .inr (.inl ⟨within, exists_literalAt?_none_iff.mp ⟨kind, callee, uncut⟩, rfl⟩)
          · next cut =>
              refine .inl ⟨⟨within, fun splits => ?_⟩, rfl⟩
              obtain ⟨kind, callee, uncut⟩ := exists_literalAt?_none_iff.mpr splits
              exact cut kind callee uncut

variable {d src maxNesting}

theorem stopAt_eq_none_iff {v : Visit} :
    stopAt d src maxNesting v = none ↔ v.Passes d src maxNesting := by
  rcases stopAt_cases d src maxNesting v with
    ⟨passes, goes⟩ | ⟨-, splits, breaks⟩ | ⟨deep, failure, fails⟩
  · simp [goes, passes]
  · simp only [breaks, reduceCtorEq, false_iff]
    exact fun passes => passes.2 splits
  · simp only [fails, reduceCtorEq, false_iff]
    exact fun passes => deep passes.1

theorem stopAt_eq_aborted_iff {v : Visit} :
    stopAt d src maxNesting v = some .aborted ↔
      v.Within maxNesting ∧ v.SplitsLiteral d src := by
  rcases stopAt_cases d src maxNesting v with
    ⟨passes, goes⟩ | ⟨within, splits, breaks⟩ | ⟨deep, failure, fails⟩
  · simp only [goes, reduceCtorEq, false_iff]
    exact fun stops => passes.2 stops.2
  · simp [breaks, within, splits]
  · simp only [fails, Option.some.injEq, reduceCtorEq, false_iff]
    exact fun stops => deep stops.1

theorem stopAt_ne_models (v : Visit) (classes : List ClassModel) :
    stopAt d src maxNesting v ≠ some (.models classes) := by
  rcases stopAt_cases d src maxNesting v with
    ⟨-, goes⟩ | ⟨-, -, breaks⟩ | ⟨-, failure, fails⟩
  · simp [goes]
  · simp [breaks]
  · simp [fails]

end

/-! ### Whole walks -/

def importsOf (d : Dialect) (src : Source) (root : Tree) : List Import :=
  ((visitsOfFile d src root).filter (·.mode == .importing)).filterMap fun v =>
    (d.importName? src v.tree).map fun name => Import.mk name v.tree.line

variable {d : Dialect} {src : Source} {maxNesting : Nat}

/-- A walk yields models exactly if nothing stops it: one for each type met. -/
theorem classesOf_eq_models_iff {root : Tree} {classes : List ClassModel} :
    classesOf d src maxNesting root = .models classes ↔
      (∀ v ∈ visitsOfFile d src root, v.Passes d src maxNesting) ∧
        classes = ((visitsOfFile d src root).filter (·.mode == .type)).map fun v =>
          classModel d src (importsOf d src root) v.tree := by
  simp only [classesOf]
  split
  · next stopped found =>
      obtain ⟨v, member, stop⟩ := List.exists_of_findSome?_eq_some found
      constructor
      · rintro rfl
        exact absurd stop (stopAt_ne_models v classes)
      · rintro ⟨passes, -⟩
        rw [stopAt_eq_none_iff.mpr (passes v member)] at stop
        cases stop
  · next free =>
      rw [List.findSome?_eq_none_iff] at free
      simp only [Extraction.models.injEq]
      constructor
      · rintro rfl
        exact ⟨fun v member => stopAt_eq_none_iff.mp (free v member), rfl⟩
      · rintro ⟨-, rfl⟩
        rfl

/-- A walk breaks off exactly if it comes to a literal that cannot be cut before anything else stops
it. -/
theorem classesOf_eq_aborted_iff {root : Tree} :
    classesOf d src maxNesting root = .aborted ↔
      ∃ before v after, visitsOfFile d src root = before ++ v :: after ∧
        (∀ u ∈ before, u.Passes d src maxNesting) ∧
        v.Within maxNesting ∧ v.SplitsLiteral d src := by
  have first : classesOf d src maxNesting root = .aborted ↔
      (visitsOfFile d src root).findSome? (stopAt d src maxNesting) = some .aborted := by
    simp only [classesOf]
    split
    · next stopped found => simp [found]
    · next free => simp [free]
  rw [first, List.findSome?_eq_some_iff]
  simp only [stopAt_eq_aborted_iff, stopAt_eq_none_iff]
  constructor
  · rintro ⟨before, v, after, split, stops, passes⟩
    exact ⟨before, v, after, split, passes, stops⟩
  · rintro ⟨before, v, after, split, passes, stops⟩
    exact ⟨before, v, after, split, stops, passes⟩

end LayerLint
