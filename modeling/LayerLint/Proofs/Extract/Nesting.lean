import LayerLint.Proofs.Extract.Declarations
import LayerLint.Proofs.Syntax.Ownership
import LayerLint.Proofs.Syntax.Place
import Mathlib.Data.List.Infix

/-! How deep the walk goes. The nesting at a node is read off the tree: it is the number of nodes,
among the node and those around it, that open a level. The walk ends as too deep at the first node
that it enters beyond a limit, so that a greater limit never makes it end earlier. -/

namespace LayerLint

open Syntax Text

theorem Dialect.opensScope_of_declaresMethod {d : Dialect} {kind : Kind}
    (method : d.declaresMethod kind = true) : kind.opensScope = false := by
  unfold declaresMethod at method
  split at method
  · rfl
  · rfl
  · rfl
  · cases method

namespace Syntax

/-! ### Nesting and depth -/

def Spot.nesting (s : Spot) : Nat :=
  (s.tree :: s.around).countP (·.kind.opensScope)

section

variable (d : Dialect) (src : Source) (root : Tree)

/-- The visit of the node at an address, if the walk through a file comes there. -/
def visitAt? (a : Address) : Option Visit :=
  (Visit.ofFile root).at? d src (fun _ => true) a

def walkDepth (a : Address) : Nat :=
  (a.inits.filterMap (visitAt? d src root)).countP (·.mode.enters)

def Entered (a : Address) (s : Spot) : Prop :=
  ∃ m, Met d src root a m s ∧ m.enters = true

/-- At an address stands a literal argument whose content cannot be cut out. -/
def BreaksAt (a : Address) : Prop :=
  ∃ s callee, Met d src root a (.body (some callee)) s ∧
    d.literalKind? s.tree.kind = some .string ∧ SplitsCharacter (s.tree.text src)

/-- The walk reaches the node at an address: it enters the node, and before it no node at a depth
over the limit for trees and no literal that breaks it off. -/
def Reaches (a : Address) (s : Spot) : Prop :=
  Entered d src root a s ∧ ∀ b t, b < a → Entered d src root b t →
    walkDepth d src root b ≤ treeLimit ∧ ¬ BreaksAt d src root b

end

variable {d : Dialect} {src : Source} {root : Tree} {a : Address}

theorem met_iff {m : Mode} {s : Spot} :
    Met d src root a m s ↔ ∃ v, visitAt? d src root a = some v ∧ v.mode = m ∧ v.spot = s :=
  comes_iff ⟨0, 0⟩

theorem visitAt?_concat (a : Address) (i : Nat) :
    visitAt? d src root (a ++ [i]) =
      (visitAt? d src root a).bind (·.child? d src (fun _ => true) i) :=
  Visit.at?_concat ..

/-- Imports and method declarations open no level, so a node that opens one is entered. -/
theorem Leads.enters_of_opensScope {s : Spot} {i : Nat} {c : Tree} {m m' : Mode}
    (leads : Leads d src s i c m m') (opens : c.kind.opensScope = true) : m'.enters = true := by
  have ofBody (callee : Option String) : (bodyMode d callee c).enters = true := by
    unfold bodyMode
    split <;> rfl
  cases leads with
  | scope | declaration | typeBody | nested | group => rfl
  | importing named imports =>
      rcases Dialect.kind_of_importName? imports with ⟨-, kind⟩ | ⟨-, kind⟩ <;>
        rw [kind] at opens <;> cases opens
  | method named noType noGroup method body =>
      rw [Dialect.opensScope_of_declaresMethod method] at opens
      cases opens
  | methodBody body is =>
      rw [is]
      exact ofBody none
  | inner noLiteral named is =>
      rw [is]
      exact ofBody _

theorem scopes_of_visitAt? {v : Visit} (met : visitAt? d src root a = some v) :
    v.depth.scopes = v.spot.nesting := by
  induction a using List.reverseRecOn generalizing v with
  | nil =>
      obtain rfl := Option.some.inj met
      cases opens : root.kind.opensScope <;>
        simp [Visit.ofFile, Visit.enter, Depth.descend, Mode.enters, Visit.spot, Spot.nesting,
          opens]
  | append_singleton a i ih =>
      rw [visitAt?_concat] at met
      obtain ⟨above, before, step⟩ := Option.bind_eq_some_iff.mp met
      obtain ⟨c, mode, child, leads, -, rfl⟩ := Visit.child?_eq_some_iff.mp step
      have outer := ih before
      have enters := leads.enters_of_opensScope
      simp only [Visit.spot, Spot.nesting, Visit.enter] at outer ⊢
      cases opens : c.kind.opensScope with
      | true => simp [Depth.descend, enters opens, opens, outer]
      | false =>
          have same : (above.depth.descend mode c.kind).scopes = above.depth.scopes := by
            unfold Depth.descend
            split
            · rw [opens]
              rfl
            · rfl
          simp [same, outer, List.countP_cons, opens]

theorem nodes_of_visitAt? {v : Visit} (met : visitAt? d src root a = some v) :
    v.depth.nodes = walkDepth d src root a := by
  induction a using List.reverseRecOn generalizing v with
  | nil =>
      have file : visitAt? d src root [] = some (Visit.ofFile root) := rfl
      obtain rfl := Option.some.inj met
      simp [walkDepth, file, Visit.ofFile, Visit.enter, Depth.descend, Mode.enters]
  | append_singleton a i ih =>
      have last := met
      rw [visitAt?_concat] at met
      obtain ⟨above, before, step⟩ := Option.bind_eq_some_iff.mp met
      obtain ⟨c, mode, child, leads, -, rfl⟩ := Visit.child?_eq_some_iff.mp step
      have outer := ih before
      unfold walkDepth at outer ⊢
      rw [List.inits_append, List.filterMap_append, List.countP_append, ← outer]
      cases enters : mode.enters <;>
        simp [last, Visit.enter, Depth.descend, enters]

/-! ### The first visit of a kind -/

theorem findSome?_visitsOfFile_iff {β : Type} {f : Visit → Option β} {x : β} :
    (visitsOfFile d src root).findSome? f = some x ↔
      ∃ a v, visitAt? d src root a = some v ∧ f v = some x ∧
        ∀ b u, b < a → visitAt? d src root b = some u → f u = none := by
  have member : ∀ {b u}, (b, u) ∈ addressedFile d src root ↔ visitAt? d src root b = some u :=
    mem_addressedVisits ..
  have ordered : ((addressedFile d src root).map Prod.fst).Pairwise (· < ·) :=
    pairwise_addressedVisits ..
  rw [← map_addressedFile, List.findSome?_map, List.findSome?_eq_some_iff]
  constructor
  · rintro ⟨before, ⟨a, v⟩, after, split, found, none⟩
    refine ⟨a, v, member.mp (by rw [split]; simp), found, fun b u less there => ?_⟩
    rw [split, List.map_append, List.pairwise_append, List.map_cons, List.pairwise_cons] at ordered
    have place := member.mpr there
    rw [split, List.mem_append, List.mem_cons] at place
    rcases place with earlier | same | later
    · exact none _ earlier
    · rw [(Prod.mk.inj same).1] at less
      exact absurd less (List.lt_irrefl _)
    · have greater := ordered.2.1.1 b (List.mem_map_of_mem later)
      exact absurd less (List.lt_asymm greater)
  · rintro ⟨a, v, met, found, none⟩
    obtain ⟨before, after, split⟩ := List.append_of_mem (member.mpr met)
    refine ⟨before, (a, v), after, split, found, ?_⟩
    rintro ⟨b, u⟩ earlier
    rw [split, List.map_append, List.pairwise_append] at ordered
    refine none b u (ordered.2.2 b (List.mem_map_of_mem earlier) a ?_) (member.mp ?_)
    · rw [List.map_cons]
      exact List.mem_cons_self
    · rw [split]
      exact List.mem_append_left _ earlier

end Syntax

/-! ### Where the walk ends as too deep -/

variable {d : Dialect} {src : Source} {n : Nat} {root : Tree}

theorem stopAt_eq_failed_iff {v : Visit} {failure : ParseFailure} :
    stopAt d src n v = some (.failed failure) ↔ v.mode.enters = true ∧
      (n < v.depth.scopes ∧ failure = .tooDeep n v.tree.line ∨
        v.depth.scopes ≤ n ∧ treeLimit < v.depth.nodes ∧
          failure = .tooDeep treeLimit v.tree.line) := by
  unfold stopAt
  cases v.mode.enters with
  | false =>
      simp only [Bool.false_and, Bool.false_eq_true, if_false, false_and, iff_false]
      split <;> simp
  | true =>
      by_cases scopes : n < v.depth.scopes
      · simp [scopes, eq_comm, Nat.not_le_of_lt scopes]
      · have few := Nat.le_of_not_lt scopes
        by_cases nodes : treeLimit < v.depth.nodes
        · simp [few, nodes, eq_comm, scopes]
        · simp only [Bool.true_and, decide_eq_true_eq, scopes, nodes, if_false, false_and,
            and_false, or_self, iff_false]
          split <;> simp

theorem classesOf_eq_failed_iff {failure : ParseFailure} :
    classesOf d src n root = .failed failure ↔
      ∃ a v, visitAt? d src root a = some v ∧ stopAt d src n v = some (.failed failure) ∧
        ∀ b u, b < a → visitAt? d src root b = some u → u.Passes d src n := by
  have first : classesOf d src n root = .failed failure ↔
      (visitsOfFile d src root).findSome? (stopAt d src n) = some (.failed failure) := by
    simp only [classesOf]
    split
    · next stopped found => simp [found]
    · next free => simp [free]
  rw [first, findSome?_visitsOfFile_iff]
  simp only [stopAt_eq_none_iff]

theorem entered_iff {a : Address} {s : Spot} :
    Entered d src root a s ↔
      ∃ v, visitAt? d src root a = some v ∧ v.mode.enters = true ∧ v.spot = s := by
  unfold Entered
  simp only [met_iff]
  constructor
  · rintro ⟨m, ⟨v, met, rfl, is⟩, enters⟩
    exact ⟨v, met, enters, is⟩
  · rintro ⟨v, met, enters, is⟩
    exact ⟨v.mode, ⟨v, met, rfl, is⟩, enters⟩

theorem breaksAt_iff {a : Address} {v : Visit} (met : visitAt? d src root a = some v) :
    BreaksAt d src root a ↔ v.SplitsLiteral d src := by
  unfold BreaksAt
  simp only [met_iff]
  constructor
  · rintro ⟨s, callee, ⟨w, same, mode, rfl⟩, literal, splits⟩
    obtain rfl := Option.some.inj (met.symm.trans same)
    exact ⟨⟨callee, mode⟩, literal, splits⟩
  · rintro ⟨⟨callee, mode⟩, literal, splits⟩
    exact ⟨v.spot, callee, ⟨v, met, mode, rfl⟩, literal, splits⟩

/-- The walk passes the node at an address, said of the tree. -/
theorem passes_iff {a : Address} {v : Visit} (met : visitAt? d src root a = some v) :
    v.Passes d src n ↔ ∀ s, Entered d src root a s →
      s.nesting ≤ n ∧ walkDepth d src root a ≤ treeLimit ∧ ¬ BreaksAt d src root a := by
  rw [breaksAt_iff met, Visit.Passes, Visit.Within, scopes_of_visitAt? met, nodes_of_visitAt? met]
  constructor
  · rintro ⟨within, whole⟩ s entered
    obtain ⟨w, same, enters, rfl⟩ := entered_iff.mp entered
    obtain rfl := Option.some.inj (met.symm.trans same)
    exact ⟨(within enters).1, (within enters).2, whole⟩
  · intro passes
    have entered (enters : v.mode.enters = true) :=
      passes v.spot (entered_iff.mpr ⟨v, met, enters, rfl⟩)
    refine ⟨fun enters => ⟨(entered enters).1, (entered enters).2.1⟩, fun splits => ?_⟩
    obtain ⟨callee, mode⟩ := splits.1
    exact (entered (by rw [mode]; rfl)).2.2 splits

/-- The walk ends as too deep by its own limit at the first node nested beyond it that it
reaches. -/
theorem classesOf_eq_tooDeep_iff (other : n ≠ treeLimit) {line : Nat} :
    classesOf d src n root = .failed (.tooDeep n line) ↔
      ∃ a s, Reaches d src root a s ∧ n < s.nesting ∧ s.tree.line = line ∧
        ∀ b t, b < a → Entered d src root b t → t.nesting ≤ n := by
  rw [classesOf_eq_failed_iff]
  constructor
  · rintro ⟨a, v, met, stop, before⟩
    obtain ⟨enters, ⟨deep, failure⟩ | ⟨-, -, failure⟩⟩ := stopAt_eq_failed_iff.mp stop
    · have passes : ∀ b t, b < a → Entered d src root b t → t.nesting ≤ n ∧
          walkDepth d src root b ≤ treeLimit ∧ ¬ BreaksAt d src root b := by
        intro b t less entered
        obtain ⟨u, there, -, -⟩ := entered_iff.mp entered
        exact (passes_iff there).mp (before b u less there) t entered
      refine ⟨a, v.spot, ⟨entered_iff.mpr ⟨v, met, enters, rfl⟩, ?_⟩, ?_, ?_, ?_⟩
      · exact fun b t less entered => (passes b t less entered).2
      · exact scopes_of_visitAt? met ▸ deep
      · exact (ParseFailure.tooDeep.inj failure).2.symm
      · exact fun b t less entered => (passes b t less entered).1
    · exact absurd (ParseFailure.tooDeep.inj failure).1 other
  · rintro ⟨a, s, ⟨entered, before⟩, deep, rfl, first⟩
    obtain ⟨v, met, enters, rfl⟩ := entered_iff.mp entered
    refine ⟨a, v, met, stopAt_eq_failed_iff.mpr ⟨enters, .inl ⟨?_, rfl⟩⟩, fun b u less there => ?_⟩
    · exact (scopes_of_visitAt? met).symm ▸ deep
    · exact (passes_iff there).mpr fun t entered =>
        ⟨first b t less entered, before b t less entered⟩

theorem lt_or_eq_of_not_lt {a b : Address} (early : ¬ a < b) : b < a ∨ b = a :=
  List.le_iff_lt_or_eq.mp (List.not_lt.mp early)

/-- Of the nodes nested beyond a limit that the walk reaches there is a first one. -/
theorem Syntax.Reaches.exists_first {a : Address} {s : Spot} (reaches : Reaches d src root a s)
    (deep : n < s.nesting) :
    ∃ a s, Reaches d src root a s ∧ n < s.nesting ∧
      ∀ b t, b < a → Entered d src root b t → t.nesting ≤ n := by
  let beyond (v : Visit) : Option Visit :=
    if v.mode.enters = true ∧ n < v.spot.nesting then some v else none
  obtain ⟨entered, before⟩ := reaches
  obtain ⟨v, met, enters, rfl⟩ := entered_iff.mp entered
  have isBeyond : beyond v = some v := if_pos ⟨enters, deep⟩
  obtain ⟨w, found⟩ : ∃ w, (visitsOfFile d src root).findSome? beyond = some w := by
    refine Option.isSome_iff_exists.mp (List.findSome?_isSome_iff.mpr ⟨v, ?_, ?_⟩)
    · exact (mem_visitsOfFile ..).mpr ⟨a, met⟩
    · rw [isBeyond]
      rfl
  obtain ⟨b, u, there, is, none⟩ := findSome?_visitsOfFile_iff.mp found
  have early : b < a ∨ b = a := by
    refine lt_or_eq_of_not_lt fun later => ?_
    rw [none a v later met] at isBeyond
    cases isBeyond
  obtain ⟨own, -⟩ := Option.ite_none_right_eq_some.mp is
  refine ⟨b, u.spot, ⟨entered_iff.mpr ⟨u, there, own.1, rfl⟩, fun c t less => ?_⟩, own.2, ?_⟩
  · refine before c t ?_
    rcases early with earlier | rfl
    · exact List.lt_trans less earlier
    · exact less
  · intro c t less entered
    obtain ⟨x, visited, enters, rfl⟩ := entered_iff.mp entered
    have passed : ¬ (x.mode.enters = true ∧ n < x.spot.nesting) := by
      intro both
      have kept : beyond x = some x := if_pos both
      rw [none c x less visited] at kept
      cases kept
    exact Nat.le_of_not_lt fun deep => passed ⟨enters, deep⟩

/-! ### Two limits -/

theorem not_within_of_failed {v : Visit} {failure : ParseFailure}
    (stop : stopAt d src n v = some (.failed failure)) :
    ¬ v.Within n ∧ ∃ limit, failure = .tooDeep limit v.tree.line := by
  obtain ⟨enters, ⟨scopes, rfl⟩ | ⟨-, nodes, rfl⟩⟩ := stopAt_eq_failed_iff.mp stop
  · exact ⟨fun within => Nat.not_lt_of_le (within enters).1 scopes, n, rfl⟩
  · exact ⟨fun within => Nat.not_lt_of_le (within enters).2 nodes, treeLimit, rfl⟩

theorem Syntax.Visit.Within.mono {m : Nat} {v : Visit} (within : v.Within n) (le : n ≤ m) :
    v.Within m :=
  fun enters => ⟨Nat.le_trans (within enters).1 le, (within enters).2⟩

theorem classesOf_eq_models_mono {m : Nat} (le : n ≤ m) {classes : List ClassModel}
    (walk : classesOf d src n root = .models classes) :
    classesOf d src m root = .models classes := by
  obtain ⟨passes, models⟩ := classesOf_eq_models_iff.mp walk
  exact classesOf_eq_models_iff.mpr
    ⟨fun v there => ⟨(passes v there).1.mono le, (passes v there).2⟩, models⟩

theorem line_le_of_visitAt? (placed : root.inPlace src = true) {a b : Address} {v w : Visit}
    (early : a < b ∨ a = b) (here : visitAt? d src root a = some v)
    (there : visitAt? d src root b = some w) : v.tree.line ≤ w.tree.line := by
  rcases early with earlier | rfl
  · have first := Visit.spot_of_at? here
    have second := Visit.spot_of_at? there
    exact Tree.line_le_of_start_le ((Spot.contains_of_at? first).inPlace placed)
      ((Spot.contains_of_at? second).inPlace placed)
      (Spot.start_le_of_lt placed earlier first second)
  · rw [Option.some.inj (here.symm.trans there)]

theorem classesOf_eq_tooDeep_anti (placed : root.inPlace src = true) {m : Nat} (le : n ≤ m)
    {limit line : Nat} (walk : classesOf d src m root = .failed (.tooDeep limit line)) :
    ∃ limit' line', classesOf d src n root = .failed (.tooDeep limit' line') ∧ line' ≤ line := by
  obtain ⟨a, v, met, stop, before⟩ := classesOf_eq_failed_iff.mp walk
  obtain ⟨deep, _, failure⟩ := not_within_of_failed stop
  obtain ⟨-, rfl⟩ := ParseFailure.tooDeep.inj failure
  have stops : stopAt d src n v ≠ none := by
    intro goes
    exact deep ((stopAt_eq_none_iff.mp goes).1.mono le)
  obtain ⟨stopped, found⟩ :
      ∃ stopped, (visitsOfFile d src root).findSome? (stopAt d src n) = some stopped := by
    refine Option.isSome_iff_exists.mp (List.findSome?_isSome_iff.mpr ⟨v, ?_, ?_⟩)
    · exact (mem_visitsOfFile ..).mpr ⟨a, met⟩
    · exact Option.isSome_iff_ne_none.mpr stops
  obtain ⟨b, u, there, stop', first⟩ := findSome?_visitsOfFile_iff.mp found
  have early : b < a ∨ b = a := lt_or_eq_of_not_lt fun later => stops (first a v later met)
  -- The first node that stops the walk under `n` is no literal: under `m` the walk passes all nodes
  -- before `v` and ends as too deep there.
  rcases stopAt_cases d src n u with ⟨-, goes⟩ | ⟨within, splits, -⟩ | ⟨-, failure', fails⟩
  · cases goes.symm.trans stop'
  · rcases early with earlier | rfl
    · exact absurd splits (before b u earlier there).2
    · obtain rfl := Option.some.inj (met.symm.trans there)
      exact absurd (within.mono le) deep
  · obtain ⟨-, limit', rfl⟩ := not_within_of_failed fails
    refine ⟨limit', u.tree.line, classesOf_eq_failed_iff.mpr ⟨b, u, there, fails, ?_⟩,
      line_le_of_visitAt? placed early there met⟩
    exact fun c w less visited => stopAt_eq_none_iff.mp (first c w less visited)

/-- The limit on nesting is exact and monotone. The walk through a tree in place ends as too deep by
a limit exactly if it reaches a node nested beyond it, and it reports the line of the first such
node. Under a greater limit it yields the same models, if it yields any; and if it ends as too deep
under the greater limit, it does so under the smaller one, on a line that is not after. -/
theorem classesOf_nesting_limit (placed : root.inPlace src = true) (n : Nat) :
    (n ≠ treeLimit →
      ((∃ line, classesOf d src n root = .failed (.tooDeep n line)) ↔
        ∃ a s, Reaches d src root a s ∧ n < s.nesting) ∧
      ∀ line, classesOf d src n root = .failed (.tooDeep n line) →
        ∃ a s, Reaches d src root a s ∧ n < s.nesting ∧ line = s.tree.line ∧
          ∀ b t, b < a → Reaches d src root b t → t.nesting ≤ n) ∧
    ∀ m, n ≤ m →
      (∀ classes, classesOf d src n root = .models classes →
        classesOf d src m root = .models classes) ∧
      ∀ limit line, classesOf d src m root = .failed (.tooDeep limit line) →
        ∃ limit' line', classesOf d src n root = .failed (.tooDeep limit' line') ∧
          line' ≤ line := by
  refine ⟨fun other => ⟨⟨?_, ?_⟩, ?_⟩, fun m le => ⟨?_, ?_⟩⟩
  · rintro ⟨line, walk⟩
    obtain ⟨a, s, reaches, deep, -⟩ := (classesOf_eq_tooDeep_iff other).mp walk
    exact ⟨a, s, reaches, deep⟩
  · rintro ⟨a, s, reaches, deep⟩
    obtain ⟨b, t, reaches, deep, first⟩ := reaches.exists_first deep
    exact ⟨t.tree.line, (classesOf_eq_tooDeep_iff other).mpr ⟨b, t, reaches, deep, rfl, first⟩⟩
  · intro line walk
    obtain ⟨a, s, reaches, deep, is, first⟩ := (classesOf_eq_tooDeep_iff other).mp walk
    exact ⟨a, s, reaches, deep, is.symm, fun b t less there => first b t less there.1⟩
  · exact fun classes walk => classesOf_eq_models_mono le walk
  · exact fun limit line walk => classesOf_eq_tooDeep_anti placed le walk

/-- A class body, a block and the arguments on the first line and the parentheses on the second open
a level each: the limit 3 is exceeded on line 2, and the limit 2 not after it. -/
theorem classesOf_nesting_limit_parentheses :
    let src := Source.ofString "class A\x7bvoid m()\x7bf(\n(x));\x7d\x7d"
    let root := Dialect.java.parse src
    root.inPlace src = true ∧ classesOf .java src 3 root = .failed (.tooDeep 3 2) ∧
      (∃ a s, Reaches .java src root a s ∧ 3 < s.nesting ∧ 2 = s.tree.line ∧
        ∀ b t, b < a → Reaches .java src root b t → t.nesting ≤ 3) ∧
      ∃ limit line, classesOf .java src 2 root = .failed (.tooDeep limit line) ∧ line ≤ 2 := by
  intro src root
  obtain ⟨placed, deep⟩ : root.inPlace src = true ∧
      classesOf .java src 3 root = .failed (.tooDeep 3 2) := by decide +kernel
  refine ⟨placed, deep, ?_, ?_⟩
  · exact ((classesOf_nesting_limit placed 3).1 (by decide)).2 2 deep
  · exact ((classesOf_nesting_limit placed 2).2 3 (by decide)).2 3 2 deep

end LayerLint
