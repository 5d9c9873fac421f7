import LayerLint.Proofs.Syntax.Walk
import Mathlib.Logic.Relation

/-! Where the nodes of a tree stand in the text. In a tree in place every node lies inside the node
around it and siblings follow one another, so that of two nodes the one that comes first in the tree
starts first in the text. -/

namespace LayerLint.Syntax

/-! ### All nodes of a tree -/

namespace Tree

/-- A node of a tree: its root or a node below it. -/
def Contains : Tree → Tree → Prop :=
  Relation.ReflTransGen fun t c => c ∈ t.children

mutual

def everywhere (p : Tree → Bool) : Tree → Bool
  | .node tag children => p (.node tag children) && everywhereIn p children

def everywhereIn (p : Tree → Bool) : List Tree → Bool
  | [] => true
  | t :: ts => t.everywhere p && everywhereIn p ts

end

variable {p : Tree → Bool} {t u c : Tree}

theorem everywhereIn_iff {ts : List Tree} :
    everywhereIn p ts = true ↔ ∀ t ∈ ts, t.everywhere p = true := by
  induction ts with
  | nil => simp [everywhereIn]
  | cons t ts ih => simp [everywhereIn, ih]

theorem everywhere_iff :
    t.everywhere p = true ↔ p t = true ∧ ∀ c ∈ t.children, c.everywhere p = true := by
  cases t
  simp only [everywhere, Bool.and_eq_true, everywhereIn_iff, children]

theorem Contains.refl (t : Tree) : t.Contains t :=
  Relation.ReflTransGen.refl

theorem Contains.trans {v : Tree} (inner : t.Contains u) (innermost : u.Contains v) :
    t.Contains v :=
  Relation.ReflTransGen.trans inner innermost

theorem Contains.of_mem (child : c ∈ t.children) : t.Contains c :=
  Relation.ReflTransGen.single child

theorem Contains.of_child? {l : Label} (child : t.child? l = some c) : t.Contains c :=
  .of_mem (List.mem_of_find?_eq_some child)

theorem Contains.of_namedChild (child : c ∈ t.namedChildren) : t.Contains c :=
  .of_mem (List.mem_of_mem_filter child)

theorem Contains.everywhere (inner : t.Contains u) (all : t.everywhere p = true) :
    u.everywhere p = true := by
  induction inner with
  | refl => exact all
  | tail above child ih => exact (everywhere_iff.mp ih).2 _ child

end Tree

theorem Spot.contains_of_at? {s t : Spot} {a : Address} (there : s.at? a = some t) :
    s.tree.Contains t.tree := by
  induction a generalizing s with
  | nil =>
      obtain rfl := Option.some.inj there
      exact .refl _
  | cons i a ih =>
      obtain ⟨next, child, rest⟩ := Option.bind_eq_some_iff.mp there
      obtain ⟨c, here, rfl⟩ := Option.map_eq_some_iff.mp child
      exact .trans (.of_mem (List.mem_of_getElem? here)) (ih rest)

/-! ### Rows and lines -/

def Source.rowAt (src : Source) (offset : Nat) : Nat :=
  (src.advance ⟨0, 0⟩ offset).row

/-- The lines of a text. Every line end ends one, and what follows the last line end is one more. -/
def Source.lineCount (src : Source) : Nat :=
  src.rowAt src.size + 1

/-- Whether a position is a place of the text, on the row that its offset lies on. -/
def Source.has (src : Source) (pos : Position) : Bool :=
  decide (pos.offset ≤ src.size) && pos.row == src.rowAt pos.offset

theorem Source.rowAt_mono (src : Source) {m n : Nat} (le : m ≤ n) : src.rowAt m ≤ src.rowAt n := by
  have part : ((src.chars.extract 0 m).toList).Sublist (src.chars.extract 0 n).toList := by
    simp only [Array.toList_extract, List.extract_eq_take_drop, Nat.sub_zero, List.drop_zero]
    exact List.take_sublist_take_left le
  simpa [rowAt, advance] using (part.filter (· == '\n')).length_le

/-! ### Trees in place -/

def inRow (low high : Nat) : List Tree → Bool
  | [] => decide (low ≤ high)
  | t :: ts =>
    decide (low ≤ t.start.offset ∧ t.start.offset ≤ t.stop.offset) && inRow t.stop.offset high ts

/-- Whether a node begins and ends at places of the text, with its children one after another in
between. -/
def Tree.isPlaced (src : Source) (t : Tree) : Bool :=
  src.has t.start && src.has t.stop && inRow t.start.offset t.stop.offset t.children

def Tree.inPlace (src : Source) (t : Tree) : Bool :=
  t.everywhere (isPlaced src)

theorem le_of_inRow {low high : Nat} {ts : List Tree} (row : inRow low high ts = true) :
    low ≤ high := by
  induction ts generalizing low with
  | nil => exact of_decide_eq_true row
  | cons t ts ih =>
      simp only [inRow, Bool.and_eq_true, decide_eq_true_eq] at row
      have rest := ih row.2
      omega

theorem bounds_of_inRow {low high i : Nat} {ts : List Tree} {t : Tree}
    (row : inRow low high ts = true) (there : ts[i]? = some t) :
    low ≤ t.start.offset ∧ t.stop.offset ≤ high := by
  induction ts generalizing low i with
  | nil => cases there
  | cons u ts ih =>
      simp only [inRow, Bool.and_eq_true, decide_eq_true_eq] at row
      cases i with
      | zero =>
          obtain rfl := Option.some.inj there
          exact ⟨row.1.1, le_of_inRow row.2⟩
      | succ i =>
          have later := ih row.2 there
          omega

theorem stop_le_start_of_inRow {low high i j : Nat} {ts : List Tree} {t u : Tree}
    (row : inRow low high ts = true) (before : i < j) (here : ts[i]? = some t)
    (there : ts[j]? = some u) : t.stop.offset ≤ u.start.offset := by
  induction ts generalizing low i j with
  | nil => cases here
  | cons v ts ih =>
      simp only [inRow, Bool.and_eq_true, decide_eq_true_eq] at row
      obtain ⟨j, rfl⟩ := Nat.exists_eq_succ_of_ne_zero (Nat.ne_zero_of_lt before)
      cases i with
      | zero =>
          obtain rfl := Option.some.inj here
          exact (bounds_of_inRow row.2 there).1
      | succ i => exact ih row.2 (Nat.lt_of_succ_lt_succ before) here there

namespace Tree

variable {src : Source} {t u c : Tree}

/-- What is said of a tree in place at its root. -/
theorem placed_of_inPlace (placed : t.inPlace src = true) :
    src.has t.start = true ∧ src.has t.stop = true ∧
      inRow t.start.offset t.stop.offset t.children = true := by
  have here := (everywhere_iff.mp placed).1
  simp only [isPlaced, Bool.and_eq_true] at here
  exact ⟨here.1.1, here.1.2, here.2⟩

theorem Contains.inPlace (inner : t.Contains u) (placed : t.inPlace src = true) :
    u.inPlace src = true :=
  inner.everywhere placed

theorem start_le_stop (placed : t.inPlace src = true) : t.start.offset ≤ t.stop.offset :=
  le_of_inRow (placed_of_inPlace placed).2.2

theorem Contains.bounds (inner : t.Contains u) (placed : t.inPlace src = true) :
    t.start.offset ≤ u.start.offset ∧ u.stop.offset ≤ t.stop.offset := by
  induction inner with
  | refl => exact ⟨Nat.le_refl _, Nat.le_refl _⟩
  | @tail v c above child ih =>
      have row := (placed_of_inPlace (Contains.inPlace above placed)).2.2
      obtain ⟨i, here⟩ := List.mem_iff_getElem?.mp child
      have bounds := bounds_of_inRow row here
      omega

end Tree

section

variable {src : Source} {p q : Position}

theorem Source.row_le_of_offset_le (here : src.has p = true) (there : src.has q = true)
    (before : p.offset ≤ q.offset) : p.row ≤ q.row := by
  simp only [has, Bool.and_eq_true, decide_eq_true_eq, beq_iff_eq] at here there
  rw [here.2, there.2]
  exact src.rowAt_mono before

theorem Source.row_lt_lineCount (here : src.has p = true) : p.row < src.lineCount := by
  simp only [has, Bool.and_eq_true, decide_eq_true_eq, beq_iff_eq] at here
  rw [here.2, lineCount]
  exact Nat.lt_succ_of_le (src.rowAt_mono here.1)

theorem Tree.line_le_lineCount {t : Tree} (placed : t.inPlace src = true) :
    t.line ≤ src.lineCount :=
  Source.row_lt_lineCount (placed_of_inPlace placed).1

theorem Tree.line_le_of_start_le {t u : Tree} (here : t.inPlace src = true)
    (there : u.inPlace src = true) (before : t.start.offset ≤ u.start.offset) : t.line ≤ u.line :=
  Nat.succ_le_succ
    (Source.row_le_of_offset_le (placed_of_inPlace here).1 (placed_of_inPlace there).1 before)

/-- The lines of a node and of all below it lie on the rows that it takes. -/
theorem Tree.Contains.rows {t u : Tree} (inner : t.Contains u) (placed : t.inPlace src = true) :
    t.start.row ≤ u.start.row ∧ u.start.row ≤ t.stop.row := by
  obtain ⟨low, high⟩ := inner.bounds placed
  have inside := inner.inPlace placed
  have starts := (placed_of_inPlace inside).1
  have within := Nat.le_trans (start_le_stop inside) high
  obtain ⟨first, last, -⟩ := placed_of_inPlace placed
  exact ⟨Source.row_le_of_offset_le first starts low, Source.row_le_of_offset_le starts last within⟩

/-- Of two nodes of a tree in place, the one that comes first in the tree starts first. -/
theorem Spot.start_le_of_lt {s t u : Spot} {a b : Address} (placed : s.tree.inPlace src = true)
    (before : a < b) (here : s.at? a = some t) (there : s.at? b = some u) :
    t.tree.start.offset ≤ u.tree.start.offset := by
  induction a generalizing s b with
  | nil =>
      obtain rfl := Option.some.inj here
      exact ((contains_of_at? there).bounds placed).1
  | cons i a ih =>
      cases b with
      | nil => exact absurd before (List.not_lt_nil _)
      | cons j b =>
          obtain ⟨next, left, below⟩ := Option.bind_eq_some_iff.mp here
          obtain ⟨last, right, beneath⟩ := Option.bind_eq_some_iff.mp there
          obtain ⟨c, child, rfl⟩ := Option.map_eq_some_iff.mp left
          obtain ⟨e, other, rfl⟩ := Option.map_eq_some_iff.mp right
          have inside : c.inPlace src = true :=
            (Tree.Contains.of_mem (List.mem_of_getElem? child)).inPlace placed
          rcases List.cons_lt_cons_iff.mp before with earlier | ⟨rfl, rest⟩
          · -- The nodes lie in different children, and these stand one after the other.
            have apart := stop_le_start_of_inRow (Tree.placed_of_inPlace placed).2.2 earlier child
              other
            have outside : e.inPlace src = true :=
              (Tree.Contains.of_mem (List.mem_of_getElem? other)).inPlace placed
            have first := contains_of_at? below
            have low := (first.bounds inside).2
            have own := Tree.start_le_stop (first.inPlace inside)
            have high := ((contains_of_at? beneath).bounds outside).1
            exact Nat.le_trans own (Nat.le_trans low (Nat.le_trans apart high))
          · obtain rfl := Option.some.inj (child.symm.trans other)
            exact ih inside rest below beneath

end

end LayerLint.Syntax
