import LayerLint.Proofs.Syntax.Walk

/-! The tokens of a tree and the way to them. A cursor that goes down to first children, on to next
siblings and back up visits the tokens from left to right: each of them once, and no other node. -/

namespace LayerLint.Syntax

mutual

def addressedLeaves (around : List Tree) : Tree → List (Address × Spot)
  | .node tag [] => [([], ⟨.node tag [], around⟩)]
  | .node tag (t :: ts) => addressedLeavesFrom (.node tag (t :: ts) :: around) 0 (t :: ts)

/-- The tokens of several siblings with their addresses; `first` is the number of the first one. -/
def addressedLeavesFrom (around : List Tree) (first : Nat) : List Tree → List (Address × Spot)
  | [] => []
  | t :: ts =>
    (addressedLeaves around t).map (fun x => (first :: x.1, x.2)) ++
      addressedLeavesFrom around (first + 1) ts

end

mutual

theorem map_addressedLeaves (around : List Tree) :
    ∀ t, (addressedLeaves around t).map (·.2.tree) = leaves t
  | .node tag [] => rfl
  | .node tag (t :: ts) => by
      rw [addressedLeaves, map_addressedLeavesFrom, leaves, leavesOfAll]

theorem map_addressedLeavesFrom (around : List Tree) (first : Nat) :
    ∀ ts, (addressedLeavesFrom around first ts).map (·.2.tree) = leavesOfAll ts
  | [] => rfl
  | t :: ts => by
      rw [addressedLeavesFrom, leavesOfAll, List.map_append, map_addressedLeavesFrom around _ ts,
        List.map_map]
      exact congrArg (· ++ _) (map_addressedLeaves around t)

end

mutual

/-- The tokens are the nodes without children. -/
theorem mem_addressedLeaves {around : List Tree} :
    ∀ t {a : Address} {s : Spot}, (a, s) ∈ addressedLeaves around t ↔
      (Spot.mk t around).at? a = some s ∧ s.tree.children = []
  | .node tag [], a, s => by
      rw [addressedLeaves, List.mem_singleton, Prod.mk.injEq]
      constructor
      · rintro ⟨rfl, rfl⟩
        exact ⟨rfl, rfl⟩
      · rintro ⟨there, -⟩
        cases a with
        | nil => exact ⟨rfl, (Option.some.inj there).symm⟩
        | cons i a => cases there
  | .node tag (t :: ts), a, s => by
      rw [addressedLeaves, mem_addressedLeavesFrom (t :: ts)]
      constructor
      · rintro ⟨i, rest, rfl, c, child, there, token⟩
        rw [Nat.zero_add]
        refine ⟨Option.bind_eq_some_iff.mpr ⟨_, ?_, there⟩, token⟩
        exact Option.map_eq_some_iff.mpr ⟨c, child, rfl⟩
      · rintro ⟨there, token⟩
        cases a with
        | nil =>
            obtain rfl := Option.some.inj there
            cases token
        | cons i rest =>
            obtain ⟨next, below, there⟩ := Option.bind_eq_some_iff.mp there
            obtain ⟨c, child, rfl⟩ := Option.map_eq_some_iff.mp below
            exact ⟨i, rest, by rw [Nat.zero_add], c, child, there, token⟩

theorem mem_addressedLeavesFrom {around : List Tree} {first : Nat} :
    ∀ ts {a : Address} {s : Spot}, (a, s) ∈ addressedLeavesFrom around first ts ↔
      ∃ i rest, a = (first + i) :: rest ∧ ∃ c, ts[i]? = some c ∧
        (Spot.mk c around).at? rest = some s ∧ s.tree.children = []
  | [], a, s => by simp [addressedLeavesFrom]
  | t :: ts, a, s => by
      rw [addressedLeavesFrom, List.mem_append, List.mem_map, mem_addressedLeavesFrom ts]
      simp only [Prod.exists, Prod.mk.injEq]
      constructor
      · rintro (⟨rest, s, member, rfl, rfl⟩ | ⟨i, rest, rfl, c, child, there⟩)
        · exact ⟨0, rest, rfl, t, rfl, (mem_addressedLeaves t).mp member⟩
        · exact ⟨i + 1, rest, by rw [Nat.add_right_comm, Nat.add_assoc], c, child, there⟩
      · rintro ⟨i, rest, rfl, c, child, there⟩
        cases i with
        | zero =>
            obtain rfl := Option.some.inj child
            exact .inl ⟨rest, s, (mem_addressedLeaves t).mpr there, rfl, rfl⟩
        | succ i =>
            exact .inr ⟨i, rest, by rw [Nat.add_right_comm, Nat.add_assoc], c, child, there⟩

end

mutual

theorem pairwise_addressedLeaves (around : List Tree) :
    ∀ t, ((addressedLeaves around t).map Prod.fst).Pairwise (· < ·)
  | .node tag [] => List.pairwise_singleton _ _
  | .node tag (t :: ts) => by
      rw [addressedLeaves]
      exact pairwise_addressedLeavesFrom _ 0 (t :: ts)

theorem pairwise_addressedLeavesFrom (around : List Tree) (first : Nat) :
    ∀ ts, ((addressedLeavesFrom around first ts).map Prod.fst).Pairwise (· < ·)
  | [] => .nil
  | t :: ts => by
      rw [addressedLeavesFrom, List.map_append, List.pairwise_append, List.map_map]
      refine ⟨?_, pairwise_addressedLeavesFrom around _ ts, fun a left b right => ?_⟩
      · refine List.pairwise_map.mpr ((List.pairwise_map.mp
          (pairwise_addressedLeaves around t)).imp fun before => ?_)
        exact List.cons_lt_cons_iff.mpr (.inr ⟨rfl, before⟩)
      · obtain ⟨x, -, rfl⟩ := List.mem_map.mp left
        obtain ⟨⟨_, s⟩, here, rfl⟩ := List.mem_map.mp right
        obtain ⟨i, rest, rfl, -⟩ := (mem_addressedLeavesFrom ts).mp here
        exact List.cons_lt_cons_iff.mpr (.inl (by omega))

end

theorem addressedLeavesFrom_append (around : List Tree) (first : Nat) (ts us : List Tree) :
    addressedLeavesFrom around first (ts ++ us) =
      addressedLeavesFrom around first ts ++ addressedLeavesFrom around (first + ts.length) us := by
  induction ts generalizing first with
  | nil => rfl
  | cons t ts ih =>
      rw [List.cons_append, addressedLeavesFrom, addressedLeavesFrom, ih, List.append_assoc,
        List.length_cons, Nat.add_right_comm, Nat.add_assoc]

theorem addressedLeaves_of_token {around : List Tree} {t : Tree} (token : t.children = []) :
    addressedLeaves around t = [([], ⟨t, around⟩)] := by
  cases t
  obtain rfl := token
  rfl

theorem addressedLeaves_of_ne_nil {around : List Tree} {t : Tree} (more : t.children ≠ []) :
    addressedLeaves around t = addressedLeavesFrom (t :: around) 0 t.children := by
  cases t with
  | node tag children =>
      cases children with
      | nil => exact absurd rfl more
      | cons c cs => rfl

/-! ### The cursor -/

section

variable (root : Tree)

def firstChild? (a : Address) : Option Address :=
  (root.spot.at? (a ++ [0])).map fun _ => a ++ [0]

/-- The node after a node and its siblings before it, if there is one. -/
def nextSibling? (a : Address) : Option Address :=
  a.getLast?.bind fun i =>
    (root.spot.at? (a.dropLast ++ [i + 1])).map fun _ => a.dropLast ++ [i + 1]

/-- The node around a node; the cursor does not leave the tree. -/
def parent? (a : Address) : Option Address :=
  if a = [] then none else some a.dropLast

/-- Where the cursor goes after all that lies below a node: to the next sibling, or to that of the
nearest node around it that has one. It goes nowhere if there is none. -/
inductive GoesOn : Address → Option Address → Prop
  | sibling {a b : Address} (next : nextSibling? root a = some b) : GoesOn a (some b)
  | up {a b : Address} {c : Option Address} (rightmost : nextSibling? root a = none)
      (up : parent? a = some b) (on : GoesOn b c) : GoesOn a c
  | out {a : Address} (rightmost : nextSibling? root a = none) (top : parent? a = none) :
      GoesOn a none

/-- The nodes that the cursor visits from a node on: it goes down as far as it can, visits the node
there and goes on. -/
inductive Tours : Address → List Address → Prop
  | down {a b : Address} {visited : List Address} (child : firstChild? root a = some b)
      (tours : Tours b visited) : Tours a visited
  | next {a b : Address} {visited : List Address} (bottom : firstChild? root a = none)
      (on : GoesOn root a (some b)) (tours : Tours b visited) : Tours a (a :: visited)
  | last {a : Address} (bottom : firstChild? root a = none) (out : GoesOn root a none) :
      Tours a [a]

/-- What the cursor visits after a node and all below it. -/
def Resumes (a : Address) (visited : List Address) : Prop :=
  (GoesOn root a none ∧ visited = []) ∨ ∃ b, GoesOn root a (some b) ∧ Tours root b visited

end

variable {root : Tree}

theorem nextSibling?_concat (a : Address) (i : Nat) :
    nextSibling? root (a ++ [i]) =
      (root.spot.at? (a ++ [i + 1])).map fun _ => a ++ [i + 1] := by
  rw [nextSibling?, List.getLast?_concat, List.dropLast_concat, Option.bind_some]

theorem parent?_concat (a : Address) (i : Nat) : parent? (a ++ [i]) = some a := by
  rw [parent?, if_neg (by simp), List.dropLast_concat]

theorem at?_child {a : Address} {s : Spot} (there : root.spot.at? a = some s) (i : Nat) :
    root.spot.at? (a ++ [i]) = s.tree.children[i]?.map fun c => ⟨c, s.tree :: s.around⟩ := by
  rw [Spot.at?_concat, there]
  rfl

mutual

/-- The cursor visits the tokens of a node and then what comes after the node. -/
theorem tours_node {around : List Tree} {rest : List Address} :
    ∀ t {a : Address}, root.spot.at? a = some ⟨t, around⟩ → Resumes root a rest →
      Tours root a ((addressedLeaves around t).map (a ++ ·.1) ++ rest)
  | .node tag [], a, there, resumes => by
      have bottom : firstChild? root a = none := by
        rw [firstChild?, at?_child there]
        rfl
      simp only [addressedLeaves, List.map_cons, List.map_nil, List.append_nil,
        List.singleton_append]
      rcases resumes with ⟨out, rfl⟩ | ⟨b, on, tours⟩
      · exact .last bottom out
      · exact .next bottom on tours
  | .node tag (t :: ts), a, there, resumes => by
      have child : firstChild? root a = some (a ++ [0]) := by
        rw [firstChild?, at?_child there]
        rfl
      rw [addressedLeaves]
      refine .down child (tours_siblings (t :: ts) (List.cons_ne_nil t ts) (fun i => ?_) resumes)
      rw [Nat.zero_add]
      exact at?_child there i

/-- The cursor visits the tokens of a node's children from one of them on, and then what comes after
the node. -/
theorem tours_siblings {around : List Tree} {rest : List Address} {a : Address} :
    ∀ ts {first : Nat}, ts ≠ [] →
      (∀ i, root.spot.at? (a ++ [first + i]) = ts[i]?.map fun c => ⟨c, around⟩) →
      Resumes root a rest →
      Tours root (a ++ [first])
        ((addressedLeavesFrom around first ts).map (a ++ ·.1) ++ rest)
  | [], _, nonempty, _, _ => absurd rfl nonempty
  | t :: ts, first, _, children, resumes => by
      have here : root.spot.at? (a ++ [first]) = some ⟨t, around⟩ := children 0
      have after : nextSibling? root (a ++ [first]) = ts[0]?.map fun _ => a ++ [first + 1] := by
        rw [nextSibling?_concat, children 1, Option.map_map]
        rfl
      have next : Resumes root (a ++ [first])
          ((addressedLeavesFrom around (first + 1) ts).map (a ++ ·.1) ++ rest) := by
        cases ts with
        | nil =>
            -- The last child: the cursor goes back to the node and on from there.
            have above := parent?_concat a first
            rcases resumes with ⟨out, rfl⟩ | ⟨b, on, tours⟩
            · exact .inl ⟨.up after above out, rfl⟩
            · exact .inr ⟨b, .up after above on, tours⟩
        | cons u us =>
            refine .inr ⟨_, .sibling after, tours_siblings (u :: us) (List.cons_ne_nil u us)
              (fun i => ?_) resumes⟩
            rw [Nat.add_assoc, Nat.add_comm 1 i]
            exact children (i + 1)
      have tours := tours_node t here next
      simpa only [addressedLeavesFrom, List.map_append, List.map_map, List.append_assoc,
        Function.comp_def, List.cons_append, List.nil_append] using tours

end

theorem GoesOn.unique {a : Address} {b c : Option Address} (left : GoesOn root a b)
    (right : GoesOn root a c) : b = c := by
  induction left with
  | sibling next =>
      cases right with
      | sibling next' => exact next.symm.trans next'
      | up rightmost _ _ => cases next.symm.trans rightmost
      | out rightmost _ => cases next.symm.trans rightmost
  | up rightmost up _ ih =>
      cases right with
      | sibling next => cases next.symm.trans rightmost
      | up _ up' on =>
          obtain rfl := Option.some.inj (up.symm.trans up')
          exact ih on
      | out _ top => cases up.symm.trans top
  | out rightmost top =>
      cases right with
      | sibling next => cases next.symm.trans rightmost
      | up _ up _ => cases up.symm.trans top
      | out _ _ => rfl

theorem Tours.unique {a : Address} {visited visited' : List Address} (left : Tours root a visited)
    (right : Tours root a visited') : visited = visited' := by
  induction left generalizing visited' with
  | down child _ ih =>
      cases right with
      | down child' tours =>
          obtain rfl := Option.some.inj (child.symm.trans child')
          exact ih tours
      | next bottom _ _ => cases child.symm.trans bottom
      | last bottom _ => cases child.symm.trans bottom
  | next bottom on _ ih =>
      cases right with
      | down child _ => cases child.symm.trans bottom
      | next _ on' tours =>
          obtain rfl := Option.some.inj (on.unique on')
          rw [ih tours]
      | last _ out => cases on.unique out
  | last bottom out =>
      cases right with
      | down child _ => cases child.symm.trans bottom
      | next _ on _ => cases on.unique out
      | last _ _ => rfl

/-- From the root the cursor visits the tokens of the tree and comes to an end. -/
theorem tours_root_iff {t : Tree} {visited : List Address} :
    Tours t [] visited ↔ visited = (addressedLeaves [] t).map Prod.fst := by
  have alone : nextSibling? t [] = none := rfl
  have tours : Tours t [] ((addressedLeaves [] t).map Prod.fst) := by
    have visits : Tours t [] ((addressedLeaves [] t).map ([] ++ ·.1) ++ []) :=
      tours_node t rfl (.inl ⟨.out alone rfl, rfl⟩)
    simpa only [List.append_nil, List.nil_append] using visits
  constructor
  · intro tour
    exact tour.unique tours
  · rintro rfl
    exact tours

end LayerLint.Syntax
