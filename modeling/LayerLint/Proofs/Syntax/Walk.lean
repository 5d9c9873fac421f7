import LayerLint.Syntax.Walk
import Mathlib.Data.List.Basic

/-! Where the walk goes. A node of a tree is named by its address, the numbers of the children that
lead to it. The walk is a step from a node to its children, and the nodes met are those at the
addresses that steps lead to: each address once, parents before children and siblings in order. -/

namespace LayerLint.Syntax

/-- Where a node stands in a tree: the numbers of the children that lead to it. -/
abbrev Address := List Nat

/-- A node with the nodes around it, from the nearest. -/
structure Spot where
  tree : Tree
  around : List Tree

namespace Spot

def child? (s : Spot) (i : Nat) : Option Spot :=
  s.tree.children[i]?.map fun c => ⟨c, s.tree :: s.around⟩

def at? (s : Spot) : Address → Option Spot
  | [] => some s
  | i :: rest => (s.child? i).bind (·.at? rest)

theorem at?_append (s : Spot) (a b : Address) : s.at? (a ++ b) = (s.at? a).bind (·.at? b) := by
  induction a generalizing s with
  | nil => rfl
  | cons i a ih =>
      rw [List.cons_append, at?, at?, Option.bind_assoc]
      exact congrArg (Option.bind _) (funext ih)

theorem at?_concat (s : Spot) (a : Address) (i : Nat) :
    s.at? (a ++ [i]) = (s.at? a).bind (·.child? i) := by
  rw [at?_append]
  refine congrArg (Option.bind _) (funext fun t => ?_)
  exact Option.bind_fun_some (t.child? i)

theorem length_around_of_at? {s t : Spot} {a : Address} (there : s.at? a = some t) :
    t.around.length = s.around.length + a.length := by
  induction a generalizing s with
  | nil =>
      obtain rfl := Option.some.inj there
      rfl
  | cons i a ih =>
      obtain ⟨next, child, rest⟩ := Option.bind_eq_some_iff.mp there
      obtain ⟨c, -, rfl⟩ := Option.map_eq_some_iff.mp child
      rw [ih rest, List.length_cons, List.length_cons]
      omega

end Spot

def Tree.spot (t : Tree) : Spot :=
  ⟨t, []⟩

def Tree.onFirstLine (kind : Kind) (label : Option Label) (start stop : Nat)
    (children : List Tree) : Tree :=
  .node ⟨kind, label, ⟨⟨start, 0⟩, ⟨stop, 0⟩⟩, false, false⟩ children

/-! ### The walk step by step -/

namespace Visit

def spot (v : Visit) : Spot :=
  ⟨v.tree, v.around⟩

/-- The visit of a node that is met in a mode, given how deep the node around it lies. -/
def enter (around : List Tree) (mode : Mode) (depth : Depth) (t : Tree) : Visit :=
  ⟨t, around, mode, depth.descend mode t.kind⟩

def ofFile (root : Tree) : Visit :=
  enter [] .scope ⟨0, 0⟩ root

end Visit

variable (d : Dialect) (src : Source) (keep : Mode → Bool)

/-- The visit of one of several siblings, if it is met in a mode that is followed. -/
def enter? (around : List Tree) (modes : List (Option Mode)) (depth : Depth) (ts : List Tree)
    (i : Nat) : Option Visit :=
  ts[i]?.bind fun t => modes[i]?.join.bind fun mode =>
    if keep mode then some (.enter around mode depth t) else none

namespace Visit

/-- One step of the walk: the visit of a child, if it is met. -/
def child? (v : Visit) (i : Nat) : Option Visit :=
  enter? keep (v.tree :: v.around) (childModes d src v.around v.tree v.mode) v.depth
    v.tree.children i

def at? (v : Visit) : Address → Option Visit
  | [] => some v
  | i :: rest => (v.child? d src keep i).bind (·.at? rest)

variable {d src keep}

theorem at?_append (v : Visit) (a b : Address) :
    v.at? d src keep (a ++ b) = (v.at? d src keep a).bind (·.at? d src keep b) := by
  induction a generalizing v with
  | nil => rfl
  | cons i a ih =>
      rw [List.cons_append, at?, at?, Option.bind_assoc]
      exact congrArg (Option.bind _) (funext ih)

theorem at?_concat (v : Visit) (a : Address) (i : Nat) :
    v.at? d src keep (a ++ [i]) = (v.at? d src keep a).bind (·.child? d src keep i) := by
  rw [at?_append]
  refine congrArg (Option.bind _) (funext fun w => ?_)
  exact Option.bind_fun_some (w.child? d src keep i)

end Visit

/-! ### The nodes met and their addresses -/

/-- The nodes met from one of several siblings on, if it is met in a mode that is followed. -/
def visitsAs (around : List Tree) (depth : Depth) (t : Tree) : Option Mode → List Visit
  | some mode => if keep mode then visits d src keep around mode depth t else []
  | none => []

theorem visitsBelow_cons (around : List Tree) (modes : List (Option Mode)) (depth : Depth)
    (t : Tree) (ts : List Tree) :
    visitsBelow d src keep around modes depth (t :: ts) =
      visitsAs d src keep around depth t modes.head?.join ++
        visitsBelow d src keep around modes.tail depth ts := by
  rw [visitsBelow]
  rcases modes.head? with _ | _ | mode <;> rfl

mutual

def addressedVisits (around : List Tree) (mode : Mode) (depth : Depth) :
    Tree → List (Address × Visit)
  | .node tag children =>
    let v := Visit.enter around mode depth (.node tag children)
    ([], v) :: addressedBelow (v.tree :: around) (childModes d src around v.tree mode) v.depth 0
      children

/-- The nodes met from several siblings on, with their addresses; `first` is the number of the first
one. -/
def addressedBelow (around : List Tree) (modes : List (Option Mode)) (depth : Depth)
    (first : Nat) : List Tree → List (Address × Visit)
  | [] => []
  | t :: ts =>
    let here :=
      match modes.head?.join with
      | some mode => if keep mode then addressedVisits around mode depth t else []
      | none => []
    here.map (fun x => (first :: x.1, x.2)) ++
      addressedBelow around modes.tail depth (first + 1) ts

end

mutual

theorem map_addressedVisits (around : List Tree) (mode : Mode) (depth : Depth) :
    ∀ t, (addressedVisits d src keep around mode depth t).map Prod.snd =
      visits d src keep around mode depth t
  | .node tag children => by
      rw [addressedVisits, visits, List.map_cons, map_addressedBelow]
      rfl

theorem map_addressedBelow (around : List Tree) (modes : List (Option Mode)) (depth : Depth)
    (first : Nat) :
    ∀ ts, (addressedBelow d src keep around modes depth first ts).map Prod.snd =
      visitsBelow d src keep around modes depth ts
  | [] => rfl
  | t :: ts => by
      rw [addressedBelow, visitsBelow_cons, List.map_append, map_addressedBelow _ _ _ _ ts,
        List.map_map]
      refine congrArg (· ++ _) ?_
      cases modes.head?.join with
      | none => rfl
      | some mode =>
          dsimp only [visitsAs]
          split
          · exact map_addressedVisits _ mode _ t
          · rfl

end

mutual

/-- The nodes met are those at the addresses that the walk comes to. -/
theorem mem_addressedVisits (around : List Tree) (mode : Mode) (depth : Depth) :
    ∀ t {a : Address} {v : Visit}, (a, v) ∈ addressedVisits d src keep around mode depth t ↔
      (Visit.enter around mode depth t).at? d src keep a = some v
  | .node tag children, a, v => by
      rw [addressedVisits, List.mem_cons, mem_addressedBelow _ _ _ _ children]
      cases a with
      | nil =>
          simp only [Prod.mk.injEq, true_and, reduceCtorEq, false_and, exists_false, or_false,
            Visit.at?, Option.some.injEq, eq_comm]
      | cons i rest =>
          simp only [Prod.mk.injEq, reduceCtorEq, false_and, false_or, Nat.zero_add,
            List.cons.injEq, Visit.at?, Visit.child?]
          constructor
          · rintro ⟨j, more, ⟨rfl, rfl⟩, met⟩
            exact met
          · intro met
            exact ⟨i, rest, ⟨rfl, rfl⟩, met⟩

theorem mem_addressedBelow (around : List Tree) (modes : List (Option Mode)) (depth : Depth)
    (first : Nat) :
    ∀ ts {a : Address} {v : Visit},
      (a, v) ∈ addressedBelow d src keep around modes depth first ts ↔
        ∃ i rest, a = (first + i) :: rest ∧
          (enter? keep around modes depth ts i).bind (·.at? d src keep rest) = some v
  | [], a, v => by simp [addressedBelow, enter?]
  | t :: ts, a, v => by
      have head : ∀ rest, (rest, v) ∈ (match modes.head?.join with
            | some mode => if keep mode then addressedVisits d src keep around mode depth t else []
            | none => []) ↔
          (enter? keep around modes depth (t :: ts) 0).bind (·.at? d src keep rest) = some v := by
        intro rest
        rw [enter?, ← List.head?_eq_getElem?, ← List.head?_eq_getElem?]
        cases modes.head?.join with
        | none => simp
        | some mode => cases kept : keep mode <;> simp [kept, mem_addressedVisits _ mode _ t]
      have tail : ∀ i, enter? keep around modes depth (t :: ts) (i + 1) =
          enter? keep around modes.tail depth ts i := by
        intro i
        simp [enter?]
      rw [addressedBelow, List.mem_append, mem_addressedBelow _ _ _ _ ts, List.mem_map]
      simp only [Prod.exists, Prod.mk.injEq]
      constructor
      · rintro (⟨rest, w, member, rfl, rfl⟩ | ⟨i, rest, rfl, met⟩)
        · exact ⟨0, rest, rfl, (head rest).mp member⟩
        · exact ⟨i + 1, rest, by rw [Nat.add_right_comm, Nat.add_assoc], by rw [tail]; exact met⟩
      · rintro ⟨i, rest, rfl, met⟩
        cases i with
        | zero => exact .inl ⟨rest, v, (head rest).mpr met, rfl, rfl⟩
        | succ i =>
            rw [tail] at met
            exact .inr ⟨i, rest, by rw [Nat.add_right_comm, Nat.add_assoc], met⟩

end

mutual

/-- Every address is met once, parents before children and siblings in order. -/
theorem pairwise_addressedVisits (around : List Tree) (mode : Mode) (depth : Depth) :
    ∀ t, ((addressedVisits d src keep around mode depth t).map Prod.fst).Pairwise (· < ·)
  | .node tag children => by
      rw [addressedVisits, List.map_cons, List.pairwise_cons]
      refine ⟨fun a member => ?_, pairwise_addressedBelow _ _ _ 0 children⟩
      obtain ⟨⟨_, v⟩, here, rfl⟩ := List.mem_map.mp member
      obtain ⟨i, rest, rfl, -⟩ := (mem_addressedBelow d src keep _ _ _ 0 children).mp here
      exact List.nil_lt_cons _ _

theorem pairwise_addressedBelow (around : List Tree) (modes : List (Option Mode)) (depth : Depth)
    (first : Nat) :
    ∀ ts, ((addressedBelow d src keep around modes depth first ts).map Prod.fst).Pairwise (· < ·)
  | [] => .nil
  | t :: ts => by
      rw [addressedBelow, List.map_append, List.pairwise_append, List.map_map]
      refine ⟨?_, pairwise_addressedBelow _ _ _ _ ts, fun a left b right => ?_⟩
      · split
        · next mode _ =>
            split
            · refine List.pairwise_map.mpr ((List.pairwise_map.mp
                (pairwise_addressedVisits around mode depth t)).imp fun before => ?_)
              exact List.cons_lt_cons_iff.mpr (.inr ⟨rfl, before⟩)
            · exact .nil
        · exact .nil
      · obtain ⟨x, -, rfl⟩ := List.mem_map.mp left
        obtain ⟨⟨_, v⟩, here, rfl⟩ := List.mem_map.mp right
        obtain ⟨i, rest, rfl, -⟩ := (mem_addressedBelow d src keep _ _ _ _ ts).mp here
        exact List.cons_lt_cons_iff.mpr (.inl (by omega))

end

theorem nodup_of_pairwise_lt {addresses : List Address} (ordered : addresses.Pairwise (· < ·)) :
    addresses.Nodup := by
  refine ordered.imp fun before same => ?_
  rw [same] at before
  exact List.lt_irrefl _ before

def addressedFile (root : Tree) : List (Address × Visit) :=
  addressedVisits d src (fun _ => true) [] .scope ⟨0, 0⟩ root

theorem map_addressedFile (root : Tree) :
    (addressedFile d src root).map Prod.snd = visitsOfFile d src root :=
  map_addressedVisits ..

theorem mem_visits {around : List Tree} {mode : Mode} {depth : Depth} {t : Tree} {v : Visit} :
    v ∈ visits d src keep around mode depth t ↔
      ∃ a, (Visit.enter around mode depth t).at? d src keep a = some v := by
  rw [← map_addressedVisits, List.mem_map]
  constructor
  · rintro ⟨⟨a, v⟩, member, rfl⟩
    exact ⟨a, (mem_addressedVisits ..).mp member⟩
  · rintro ⟨a, met⟩
    exact ⟨(a, v), (mem_addressedVisits ..).mpr met, rfl⟩

theorem mem_visitsOfFile {root : Tree} {v : Visit} :
    v ∈ visitsOfFile d src root ↔ ∃ a, (Visit.ofFile root).at? d src (fun _ => true) a = some v :=
  mem_visits ..

end LayerLint.Syntax
