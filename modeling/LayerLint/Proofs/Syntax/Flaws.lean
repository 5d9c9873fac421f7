import LayerLint.Proofs.Syntax.Leaves
import LayerLint.Proofs.Syntax.Place
import Mathlib.Logic.Function.Iterate

/-! The search for the first flaw of a tree. A cursor looks at a node, goes down only where the node
is marked as flawed, and otherwise goes on to the next sibling of the node or of the nearest node
around it that has one. It comes to an end, looks at no node twice, and stops at the flaw that comes
first in pre-order. -/

namespace LayerLint.Syntax

/-- The marks are right: a node is marked as flawed exactly if it or a node below it is a flaw. -/
def Tree.Flagged (root : Tree) : Prop :=
  ∀ t, root.Contains t → (t.tag.flawed = true ↔ ∃ u, t.Contains u ∧ u.isFlaw = true)

theorem Tree.Flagged.of_mem {t c : Tree} (flagged : t.Flagged) (child : c ∈ t.children) :
    c.Flagged := by
  intro u below
  exact flagged u (.trans (.of_mem child) below)

mutual

def nodesOf : Tree → List (Address × Tree)
  | .node tag children => ([], .node tag children) :: nodesFrom 0 children

def nodesFrom (first : Nat) : List Tree → List (Address × Tree)
  | [] => []
  | t :: ts => (nodesOf t).map (fun x => (first :: x.1, x.2)) ++ nodesFrom (first + 1) ts

end

theorem mem_nodesFrom {first : Nat} {ts : List Tree} {a : Address} {u : Tree} :
    (a, u) ∈ nodesFrom first ts ↔
      ∃ i rest c, a = (first + i) :: rest ∧ ts[i]? = some c ∧ (rest, u) ∈ nodesOf c := by
  induction ts generalizing first with
  | nil => simp [nodesFrom]
  | cons t ts ih =>
      rw [nodesFrom, List.mem_append, List.mem_map, ih]
      simp only [Prod.exists, Prod.mk.injEq]
      constructor
      · rintro (⟨rest, u, member, rfl, rfl⟩ | ⟨i, rest, c, rfl, child, member⟩)
        · exact ⟨0, rest, t, rfl, rfl, member⟩
        · exact ⟨i + 1, rest, c, by rw [Nat.add_right_comm, Nat.add_assoc], child, member⟩
      · rintro ⟨i, rest, c, rfl, child, member⟩
        cases i with
        | zero =>
            obtain rfl := Option.some.inj child
            exact .inl ⟨rest, u, member, rfl, rfl⟩
        | succ i =>
            exact .inr ⟨i, rest, c, by rw [Nat.add_right_comm, Nat.add_assoc], child, member⟩

theorem mem_nodesOf {t u : Tree} {a : Address} (around : List Tree) :
    (a, u) ∈ nodesOf t ↔ ((Spot.mk t around).at? a).map (·.tree) = some u := by
  induction a generalizing t around with
  | nil =>
      cases t
      simp [nodesOf, mem_nodesFrom, Spot.at?, eq_comm]
  | cons i a ih =>
      cases t with
      | node tag children =>
          rw [nodesOf, List.mem_cons, mem_nodesFrom, Spot.at?, Spot.child?]
          simp only [Prod.mk.injEq, reduceCtorEq, false_and, false_or, Nat.zero_add,
            List.cons.injEq]
          constructor
          · rintro ⟨_, _, c, ⟨rfl, rfl⟩, child, member⟩
            rw [Tree.children, child]
            exact (ih _).mp member
          · rw [Tree.children]
            intro there
            cases child : children[i]? with
            | none =>
                rw [child] at there
                cases there
            | some c =>
                rw [child] at there
                exact ⟨i, a, c, ⟨rfl, rfl⟩, child, (ih _).mpr there⟩

theorem contains_iff_mem_nodesOf {t u : Tree} : t.Contains u ↔ ∃ a, (a, u) ∈ nodesOf t := by
  constructor
  · intro inner
    induction inner using Relation.ReflTransGen.head_induction_on with
    | refl => exact ⟨[], (mem_nodesOf []).mpr rfl⟩
    | @head t c child _ ih =>
        obtain ⟨a, member⟩ := ih
        obtain ⟨i, here⟩ := List.mem_iff_getElem?.mp child
        refine ⟨i :: a, (mem_nodesOf []).mpr ?_⟩
        rw [Spot.at?, Spot.child?, here]
        exact (mem_nodesOf _).mp member
  · rintro ⟨a, member⟩
    obtain ⟨s, there, rfl⟩ := Option.map_eq_some_iff.mp ((mem_nodesOf []).mp member)
    exact Spot.contains_of_at? there

theorem Tree.exists_flaw_iff {t : Tree} :
    (∃ u, t.Contains u ∧ u.isFlaw = true) ↔ ∃ x ∈ nodesOf t, x.2.isFlaw = true := by
  simp only [contains_iff_mem_nodesOf, Prod.exists]
  constructor
  · rintro ⟨u, ⟨a, member⟩, flaw⟩
    exact ⟨a, u, member, flaw⟩
  · rintro ⟨a, u, member, flaw⟩
    exact ⟨u, ⟨a, member⟩, flaw⟩

theorem Tree.flagged_iff {root : Tree} :
    root.Flagged ↔
      ∀ x ∈ nodesOf root, (x.2.tag.flawed = true ↔ ∃ y ∈ nodesOf x.2, y.2.isFlaw = true) := by
  simp only [Flagged, exists_flaw_iff]
  constructor
  · intro flagged x member
    exact flagged x.2 (contains_iff_mem_nodesOf.mpr ⟨x.1, member⟩)
  · intro flagged t inner
    obtain ⟨a, member⟩ := contains_iff_mem_nodesOf.mp inner
    exact flagged (a, t) member

instance (root : Tree) : Decidable root.Flagged :=
  decidable_of_iff _ Tree.flagged_iff.symm

/-- The first flaw of a tree in pre-order. -/
def flawIn (t : Tree) : Option (Address × Tree) :=
  (nodesOf t).find? (·.2.isFlaw)

def flawFrom (first : Nat) (ts : List Tree) : Option (Address × Tree) :=
  (nodesFrom first ts).find? (·.2.isFlaw)

theorem flawFrom_cons (first : Nat) (t : Tree) (ts : List Tree) :
    flawFrom first (t :: ts) =
      ((flawIn t).map fun x => (first :: x.1, x.2)).or (flawFrom (first + 1) ts) := by
  rw [flawFrom, nodesFrom, List.find?_append, List.find?_map]
  rfl

theorem flawIn_of_isFlaw {t : Tree} (flaw : t.isFlaw = true) : flawIn t = some ([], t) := by
  cases t
  exact List.find?_cons_of_pos flaw

theorem flawIn_of_not_isFlaw {t : Tree} (sound : t.isFlaw = false) :
    flawIn t = flawFrom 0 t.children := by
  cases t
  exact List.find?_cons_of_neg (by simpa using sound)

theorem flawIn_eq_none_iff {t : Tree} :
    flawIn t = none ↔ ∀ u, t.Contains u → u.isFlaw = false := by
  have none := not_congr (Tree.exists_flaw_iff (t := t))
  simp only [not_exists, not_and, Bool.not_eq_true] at none
  simp only [flawIn, List.find?_eq_none, Bool.not_eq_true]
  exact none.symm

theorem Tree.Flagged.flawIn_eq_none {t : Tree} (flagged : t.Flagged)
    (unmarked : t.tag.flawed = false) : flawIn t = none := by
  rw [flawIn_eq_none_iff]
  intro u inner
  by_contra flaw
  have marked := (flagged t (.refl t)).mpr ⟨u, inner, by simpa using flaw⟩
  exact Bool.false_ne_true (unmarked.symm.trans marked)

mutual

theorem firstFlaw_eq : ∀ t : Tree, t.Flagged → firstFlaw t = (flawIn t).map Prod.snd
  | .node tag children, flagged => by
      rw [firstFlaw]
      split
      · next flaw => rw [flawIn_of_isFlaw flaw]; rfl
      · next sound =>
          rw [Bool.not_eq_true] at sound
          split
          · rw [flawIn_of_not_isFlaw sound]
            exact firstFlawOf_eq children fun c => flagged.of_mem
          · next unmarked => rw [flagged.flawIn_eq_none (eq_false_of_ne_true unmarked)]; rfl

theorem firstFlawOf_eq {first : Nat} : ∀ ts : List Tree, (∀ t ∈ ts, t.Flagged) →
    firstFlawOf ts = (flawFrom first ts).map Prod.snd
  | [], _ => rfl
  | t :: ts, flagged => by
      rw [firstFlawOf, flawFrom_cons, Option.map_or, Option.map_map,
        firstFlaw_eq t (flagged t List.mem_cons_self),
        firstFlawOf_eq ts fun u later => flagged u (List.mem_cons_of_mem t later)]
      rfl

end

/-! ### The cursor -/

/-- Where the search stands: at a node to look at, at a node that is done with all that lies below
it, or at its end. -/
inductive Search where
  | looking (a : Address)
  | leaving (a : Address)
  | ended (found : Option Address)

namespace Search

def step (root : Tree) : Search → Search
  | looking a =>
    match root.spot.at? a with
    | some s =>
      if s.tree.isFlaw then ended (some a)
      else if s.tree.tag.flawed then
        match firstChild? root a with
        | some b => looking b
        | none => leaving a
      else leaving a
    -- The cursor never stands outside the tree.
    | none => ended none
  | leaving a =>
    match nextSibling? root a with
    | some b => looking b
    | none =>
      match parent? a with
      | some b => leaving b
      | none => ended none
  | ended found => ended found

/-- How the search goes on after a node, given the address of the first flaw at or below it. -/
def onward (a : Address) : Option Address → Search
  | none => leaving a
  | some b => ended (some (a ++ b))

variable {root : Tree}

theorem iterate_trans {m n : Nat} {s s' s'' : Search} (first : (step root)^[m] s = s')
    (second : (step root)^[n] s' = s'') : (step root)^[m + n] s = s'' := by
  rw [Nat.add_comm, Function.iterate_add_apply, first, second]

theorem step_of_isFlaw {a : Address} {s : Spot} (there : root.spot.at? a = some s)
    (flaw : s.tree.isFlaw = true) : step root (looking a) = ended (some a) := by
  simp only [step, there, flaw, if_true]

theorem step_of_unmarked {a : Address} {s : Spot} (there : root.spot.at? a = some s)
    (sound : s.tree.isFlaw = false) (unmarked : s.tree.tag.flawed = false) :
    step root (looking a) = leaving a := by
  simp only [step, there, sound, unmarked, Bool.false_eq_true, if_false]

theorem step_of_marked {a : Address} {s : Spot} (there : root.spot.at? a = some s)
    (sound : s.tree.isFlaw = false) (marked : s.tree.tag.flawed = true) :
    step root (looking a) = if s.tree.children = [] then leaving a else looking (a ++ [0]) := by
  have down : firstChild? root a = s.tree.children[0]?.map fun _ => a ++ [0] := by
    rw [firstChild?, at?_child there, Option.map_map]
    rfl
  simp only [step, there, sound, marked, Bool.false_eq_true, if_false, if_true, down]
  cases s.tree.children with
  | nil => rfl
  | cons c cs => rfl

theorem step_leaving_concat (a : Address) (i : Nat) :
    step root (leaving (a ++ [i])) =
      if (root.spot.at? (a ++ [i + 1])).isSome then looking (a ++ [i + 1]) else leaving a := by
  simp only [step, nextSibling?_concat, parent?_concat]
  cases root.spot.at? (a ++ [i + 1]) with
  | none => rfl
  | some s => rfl

mutual

/-- From a node on, the search comes to the first flaw of the node, or leaves it. -/
theorem runs_node {around : List Tree} :
    ∀ t {a : Address}, root.spot.at? a = some ⟨t, around⟩ → t.Flagged →
      ∃ n, n + 1 ≤ 2 * (nodesOf t).length ∧
        (step root)^[n] (looking a) = onward a ((flawIn t).map Prod.fst)
  | .node tag children, a, there, flagged => by
      rw [nodesOf, List.length_cons]
      by_cases flaw : (Tree.node tag children).isFlaw = true
      · refine ⟨1, by omega, ?_⟩
        rw [flawIn_of_isFlaw flaw]
        simpa [onward] using step_of_isFlaw there flaw
      rw [Bool.not_eq_true] at flaw
      by_cases marked : tag.flawed = true
      · rw [flawIn_of_not_isFlaw flaw]
        cases children with
        | nil => exact ⟨1, by omega, step_of_marked there flaw marked⟩
        | cons c cs =>
            obtain ⟨n, bound, run⟩ := runs_siblings (c :: cs) (List.cons_ne_nil c cs)
              (fun i => by rw [Nat.zero_add]; exact at?_child there i)
              fun u child => flagged.of_mem child
            exact ⟨1 + n, by omega, iterate_trans (step_of_marked there flaw marked) run⟩
      · -- The children are passed over; by the marks there is no flaw among them.
        rw [Bool.not_eq_true] at marked
        refine ⟨1, by omega, ?_⟩
        rw [flagged.flawIn_eq_none marked]
        exact step_of_unmarked there flaw marked

/-- From one of the children of a node on, the search comes to the first flaw of the children from
there on, or leaves the node. -/
theorem runs_siblings {around : List Tree} {a : Address} :
    ∀ ts {first : Nat}, ts ≠ [] →
      (∀ i, root.spot.at? (a ++ [first + i]) = ts[i]?.map fun c => ⟨c, around⟩) →
      (∀ t ∈ ts, t.Flagged) →
      ∃ n, n ≤ 2 * (nodesFrom first ts).length ∧
        (step root)^[n] (looking (a ++ [first])) = onward a ((flawFrom first ts).map Prod.fst)
  | [], _, nonempty, _, _ => absurd rfl nonempty
  | t :: ts, first, _, children, flagged => by
      obtain ⟨n, bound, run⟩ := runs_node t (children 0) (flagged t List.mem_cons_self)
      rw [nodesFrom, List.length_append, List.length_map, flawFrom_cons]
      cases found : flawIn t with
      | some x =>
          refine ⟨n, by omega, run.trans ?_⟩
          simp [found, onward]
      | none =>
          -- No flaw in this child: one more step leads to the next child, or back to the node.
          rw [found] at run
          have leave := iterate_trans run (n := 1) (step_leaving_concat a first)
          rw [children 1] at leave
          cases ts with
          | nil => exact ⟨n + 1, by omega, leave⟩
          | cons u us =>
              obtain ⟨m, bound', run'⟩ := runs_siblings (u :: us) (List.cons_ne_nil u us)
                (fun i => by rw [Nat.add_assoc, Nat.add_comm 1 i]; exact children (i + 1))
                fun v later => flagged v (List.mem_cons_of_mem t later)
              exact ⟨n + 1 + m, by omega, iterate_trans leave run'⟩

end

/-- The search stands at a later place than the node: at a node that comes after it, or on the way
back from it. -/
def PastNode (a : Address) : Search → Prop
  | looking b => a < b
  | leaving b => b <+: a ∨ a < b
  | ended _ => True

end Search

theorem lt_concat (a : Address) (i : Nat) : a < a ++ [i] := by
  induction a with
  | nil => exact List.nil_lt_cons _ _
  | cons j a ih => exact List.cons_lt_cons_iff.mpr (.inr ⟨rfl, ih⟩)

theorem lt_concat_succ {a b : Address} {i : Nat} (below : b ++ [i] <+: a) : a < b ++ [i + 1] := by
  obtain ⟨rest, rfl⟩ := below
  induction b with
  | nil => exact List.cons_lt_cons_iff.mpr (.inl (Nat.lt_succ_self i))
  | cons j b ih => exact List.cons_lt_cons_iff.mpr (.inr ⟨rfl, ih⟩)

theorem prefix_or_lt_of_lt_concat {a b : Address} {i : Nat} (before : a < b ++ [i]) :
    b <+: a ∨ a < b := by
  induction b generalizing a with
  | nil => exact .inl List.nil_prefix
  | cons j b ih =>
      cases a with
      | nil => exact .inr (List.nil_lt_cons _ _)
      | cons k a =>
          rcases List.cons_lt_cons_iff.mp before with less | ⟨rfl, rest⟩
          · exact .inr (List.cons_lt_cons_iff.mpr (.inl less))
          · rcases ih rest with below | less
            · exact .inl (List.cons_prefix_cons.mpr ⟨rfl, below⟩)
            · exact .inr (List.cons_lt_cons_iff.mpr (.inr ⟨rfl, less⟩))

namespace Search

variable {root : Tree}

theorem step_looking_cases (root : Tree) (a : Address) :
    step root (looking a) = looking (a ++ [0]) ∨ step root (looking a) = leaving a ∨
      ∃ found, step root (looking a) = ended found := by
  cases there : root.spot.at? a with
  | none =>
      refine .inr (.inr ⟨none, ?_⟩)
      simp only [step, there]
  | some s =>
      by_cases flaw : s.tree.isFlaw = true
      · exact .inr (.inr ⟨_, step_of_isFlaw there flaw⟩)
      rw [Bool.not_eq_true] at flaw
      by_cases marked : s.tree.tag.flawed = true
      · rw [step_of_marked there flaw marked]
        split
        · exact .inr (.inl rfl)
        · exact .inl rfl
      · rw [Bool.not_eq_true] at marked
        exact .inr (.inl (step_of_unmarked there flaw marked))

theorem step_leaving_cases (root : Tree) (a : Address) :
    step root (leaving a) = ended none ∨ ∃ b i, a = b ++ [i] ∧
      (step root (leaving a) = looking (b ++ [i + 1]) ∨ step root (leaving a) = leaving b) := by
  rcases List.eq_nil_or_concat' a with rfl | ⟨b, i, rfl⟩
  · exact .inl rfl
  · refine .inr ⟨b, i, rfl, ?_⟩
    rw [step_leaving_concat]
    split
    · exact .inl rfl
    · exact .inr rfl

theorem pastNode_step_looking (a : Address) : PastNode a (step root (looking a)) := by
  rcases step_looking_cases root a with next | next | ⟨found, next⟩ <;> rw [next]
  · exact lt_concat a 0
  · exact .inl List.prefix_rfl
  · trivial

theorem PastNode.step {a : Address} {s : Search} (past : PastNode a s) :
    PastNode a (s.step root) := by
  cases s with
  | looking b =>
      rcases step_looking_cases root b with next | next | ⟨found, next⟩ <;> rw [next]
      · exact List.lt_trans past (lt_concat b 0)
      · exact .inr past
      · trivial
  | leaving b =>
      rcases step_leaving_cases root b with next | ⟨c, i, rfl, next | next⟩ <;> rw [next]
      · trivial
      · rcases past with below | before
        · exact lt_concat_succ below
        · exact List.lt_trans before (lt_concat_succ List.prefix_rfl)
      · rcases past with below | before
        · exact .inl ((List.prefix_append c [i]).trans below)
        · exact prefix_or_lt_of_lt_concat before
  | ended found => trivial

theorem pastNode_iterate (root : Tree) (a : Address) (n : Nat) :
    PastNode a ((Search.step root)^[n + 1] (looking a)) := by
  induction n with
  | zero => exact pastNode_step_looking a
  | succ n ih =>
      rw [Function.iterate_succ_apply']
      exact ih.step

/-- The search looks at nodes in pre-order, and at none of them twice. -/
theorem looks_in_order {i j : Nat} {s : Search} {a b : Address} (later : i < j)
    (first : (Search.step root)^[i] s = looking a)
    (second : (Search.step root)^[j] s = looking b) : a < b := by
  obtain ⟨n, rfl⟩ := Nat.exists_eq_add_of_lt later
  have past := pastNode_iterate root a n
  rw [Nat.add_assoc, Nat.add_comm, Function.iterate_add_apply, first] at second
  rw [second] at past
  exact past

end Search

/-- In a tree with right marks the search for a flaw comes to an end, after at most two steps for
each node, and looks at no node twice. It ends at the first flaw in pre-order, which is the one that
`firstFlaw` gives, and without one exactly if the tree has no flaw. -/
theorem firstFlaw_exact (root : Tree) (flagged : root.Flagged) :
    (∃ n ≤ 2 * (nodesOf root).length,
      (Search.step root)^[n] (.looking []) = .ended ((flawIn root).map Prod.fst)) ∧
    (∀ i j a b, i < j → (Search.step root)^[i] (.looking []) = .looking a →
      (Search.step root)^[j] (.looking []) = .looking b → a < b) ∧
    firstFlaw root = (flawIn root).map Prod.snd ∧
    (∀ a t, flawIn root = some (a, t) → (root.spot.at? a).map (·.tree) = some t ∧ t.isFlaw = true) ∧
    (firstFlaw root = none ↔ ∀ t, root.Contains t → t.isFlaw = false) := by
  refine ⟨?_, ?_, firstFlaw_eq root flagged, ?_, ?_⟩
  · have start : root.spot.at? [] = some ⟨root, []⟩ := rfl
    obtain ⟨n, bound, run⟩ := Search.runs_node root start flagged
    cases found : flawIn root with
    | none =>
        rw [found] at run
        exact ⟨n + 1, bound, Search.iterate_trans run (n := 1) rfl⟩
    | some x =>
        rw [found] at run
        exact ⟨n, by omega, run⟩
  · intro i j a b later first second
    exact Search.looks_in_order later first second
  · intro a t found
    have flaw := List.find?_some found
    exact ⟨(mem_nodesOf []).mp (List.mem_of_find?_eq_some found), flaw⟩
  · rw [firstFlaw_eq root flagged, Option.map_eq_none_iff]
    exact flawIn_eq_none_iff

/-- A missing brace deep in the tree comes before a fault that stands higher up. -/
theorem firstFlaw_exact_missing_brace :
    let place : Position := ⟨0, 0⟩
    let brace := Tree.absent (.token "\x7d") place
    let block := Tree.covering .block place [.leaf .identifier ⟨place, place⟩, brace]
    let root := Tree.covering .compilationUnit place
      [.leaf (.token ";") ⟨place, place⟩, block, .leaf .fault ⟨place, place⟩]
    root.Flagged ∧ flawIn root = some ([1, 1], brace) ∧ firstFlaw root = some brace := by
  intro place brace block root
  have flagged : root.Flagged := by decide
  have found : flawIn root = some ([1, 1], brace) := rfl
  refine ⟨flagged, found, ?_⟩
  rw [(firstFlaw_exact root flagged).2.2.1, found]
  rfl

end LayerLint.Syntax
