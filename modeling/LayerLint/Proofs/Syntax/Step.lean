import LayerLint.Proofs.Syntax.Walk
import Mathlib.Data.List.Induction

/-! What one step of the walk does, mode by mode. Everything that is said of whole walks rests on
this. -/

namespace LayerLint

open Syntax

/-! ### Calls and literals -/

/-- A literal is no call. -/
theorem Dialect.call?_of_literal {d : Dialect} {t : Tree} {kind : LiteralKind}
    (literal : d.literalKind? t.kind = some kind) (src : Source) (around : List Tree) :
    d.call? src around t = none := by
  unfold call?
  split
  · next is => simp [is, literalKind?] at literal
  · next is => simp [is, literalKind?] at literal
  · next is => simp [is, literalKind?] at literal
  · next is => simp [is, literalKind?] at literal
  · rfl

/-- Which call a node is depends on the three nearest nodes around it only. -/
theorem Dialect.call?_append {around : List Tree} (enough : 3 ≤ around.length)
    (d : Dialect) (src : Source) (outer : List Tree) (t : Tree) :
    d.call? src (around ++ outer) t = d.call? src around t := by
  have member : ∀ function, invokedMember (t :: (around ++ outer)) function =
      invokedMember (t :: around) function := by
    intro function
    have near : (t :: (around ++ outer)).take 4 = (t :: around).take 4 := by
      rw [List.take_succ_cons, List.take_succ_cons, List.take_append_of_le_length enough]
    simp only [invokedMember, near]
  simp only [call?, member]

namespace Syntax

theorem markFirst_join_iff {p : Tree → Bool} {mode : Tree → Mode} {ts : List Tree} {i : Nat}
    {c : Tree} (child : ts[i]? = some c) {m : Mode} :
    (markFirst p mode ts)[i]?.join = some m ↔ ts.findIdx? p = some i ∧ m = mode c := by
  induction ts generalizing i with
  | nil => cases child
  | cons t ts ih =>
      rw [markFirst, List.findIdx?_cons]
      cases i with
      | zero =>
          obtain rfl := Option.some.inj child
          cases p t with
          | true => simp [@eq_comm _ m]
          | false => simp
      | succ i =>
          rw [List.getElem?_cons_succ] at child
          cases p t with
          | true =>
              rw [if_pos rfl, List.getElem?_cons_succ, List.getElem?_map, child]
              simp
          | false => simp [ih child]

variable (d : Dialect) (src : Source)

def Spot.call? (s : Spot) : Option Dialect.CallShape :=
  d.call? src s.around s.tree

/-- The innermost call in whose arguments a child stands, given the one for the node itself. -/
def Spot.calleeBelow (s : Spot) (callee : Option String) (i : Nat) : Option String :=
  match s.call? d src with
  | some call => if call.argumentsIndex? s.tree = some i then some call.callee else callee
  | none => callee

/-! ### Steps -/

/-- How the walk goes from a node to its child with a number: what is asked of the child in each
mode, and the mode in which it is then met. -/
inductive Leads (s : Spot) (i : Nat) (c : Tree) : Mode → Mode → Prop
  | scope (named : c.isNamed = true) (plain : d.importName? src c = none)
      (noType : d.declaresType c.kind = false) (code : d.isComment c.kind = false) :
      Leads s i c .scope .scope
  | importing (named : c.isNamed = true) (imports : (d.importName? src c).isSome = true) :
      Leads s i c .scope .importing
  | declaration (named : c.isNamed = true) (plain : d.importName? src c = none)
      (type : d.declaresType c.kind = true) : Leads s i c .scope .type
  | typeBody (body : s.tree.children.findIdx? (·.label == some .body) = some i) :
      Leads s i c .type .members
  | nested (named : c.isNamed = true) (type : d.declaresType c.kind = true) :
      Leads s i c .members .type
  | group (named : c.isNamed = true) (noType : d.declaresType c.kind = false)
      (group : d.groupsMembers c.kind = true) : Leads s i c .members .members
  | method (named : c.isNamed = true) (noType : d.declaresType c.kind = false)
      (noGroup : d.groupsMembers c.kind = false) (method : d.declaresMethod c.kind = true)
      (body : (d.methodBody? c).isSome = true) : Leads s i c .members .method
  | methodBody {mode : Mode} (body : s.tree.children.findIdx? (d.isMethodBody s.tree) = some i)
      (is : mode = bodyMode d none c) : Leads s i c .method mode
  | inner {callee : Option String} {mode : Mode} (noLiteral : d.literalKind? s.tree.kind = none)
      (named : c.isNamed = true) (is : mode = bodyMode d (s.calleeBelow d src callee i) c) :
      Leads s i c (.body callee) mode

variable {d src}

section

variable {s : Spot} {i : Nat} {c : Tree} {m m' : Mode}

theorem scopeMode_eq_some_iff : scopeMode d src c = some m' ↔ Leads d src s i c .scope m' := by
  unfold scopeMode
  constructor
  · intro met
    split at met
    · cases met
    · next named =>
        rw [Bool.not_eq_true', Bool.not_eq_false] at named
        split at met
        · next imports =>
            obtain rfl := Option.some.inj met
            exact .importing named imports
        · next plain =>
            rw [Option.not_isSome_iff_eq_none] at plain
            split at met
            · next type =>
                obtain rfl := Option.some.inj met
                exact .declaration named plain type
            · next noType =>
                split at met
                · cases met
                · next code =>
                    obtain rfl := Option.some.inj met
                    exact .scope named plain (Bool.eq_false_iff.mpr noType)
                      (Bool.eq_false_iff.mpr code)
  · intro leads
    cases leads with
    | scope named plain noType code => simp [named, plain, noType, code]
    | importing named imports => simp [named, imports]
    | declaration named plain type => simp [named, plain, type]

theorem memberMode_eq_some_iff : memberMode d c = some m' ↔ Leads d src s i c .members m' := by
  unfold memberMode
  constructor
  · intro met
    split at met
    · cases met
    · next named =>
        rw [Bool.not_eq_true', Bool.not_eq_false] at named
        split at met
        · next type =>
            obtain rfl := Option.some.inj met
            exact .nested named type
        · next noType =>
            rw [Bool.not_eq_true] at noType
            split at met
            · next group =>
                obtain rfl := Option.some.inj met
                exact .group named noType group
            · next noGroup =>
                rw [Bool.not_eq_true] at noGroup
                split at met
                · next method =>
                    obtain rfl := Option.some.inj met
                    rw [Bool.and_eq_true] at method
                    exact .method named noType noGroup method.1 method.2
                · cases met
  · intro leads
    cases leads with
    | nested named type => simp [named, type]
    | group named noType group => simp [named, noType, group]
    | method named noType noGroup method body => simp [named, noType, noGroup, method, body]

theorem innerMode_eq_some_iff {callee : Option String} :
    innerMode d callee c = some m' ↔ c.isNamed = true ∧ m' = bodyMode d callee c := by
  unfold innerMode
  cases c.isNamed <;> simp [eq_comm]

/-- A call has all its named children walked, and so has every other node but a literal. -/
theorem childModes_body_join {callee : Option String} (child : s.tree.children[i]? = some c) :
    (childModes d src s.around s.tree (.body callee))[i]?.join =
      if d.literalKind? s.tree.kind = none then innerMode d (s.calleeBelow d src callee i) c
      else none := by
  simp only [childModes, Spot.calleeBelow, Spot.call?]
  cases literal : d.literalKind? s.tree.kind with
  | some kind => simp [Dialect.call?_of_literal literal]
  | none =>
      cases d.call? src s.around s.tree with
      | none => simp [child]
      | some call => simp [child]

theorem childModes_join_iff (child : s.tree.children[i]? = some c) :
    (childModes d src s.around s.tree m)[i]?.join = some m' ↔ Leads d src s i c m m' := by
  cases m with
  | scope =>
      rw [childModes, List.getElem?_map, child]
      exact scopeMode_eq_some_iff
  | importing =>
      simp only [childModes, List.getElem?_nil, Option.join_none, reduceCtorEq, false_iff]
      rintro ⟨⟩
  | type =>
      rw [childModes, markFirst_join_iff child]
      constructor
      · rintro ⟨body, rfl⟩
        exact .typeBody body
      · rintro ⟨⟩
        exact ⟨‹_›, rfl⟩
  | members =>
      rw [childModes, List.getElem?_map, child]
      exact memberMode_eq_some_iff
  | method =>
      rw [childModes, markFirst_join_iff child]
      constructor
      · rintro ⟨body, rfl⟩
        exact .methodBody body rfl
      · rintro ⟨⟩
        exact ⟨‹_›, ‹_›⟩
  | body callee =>
      rw [childModes_body_join child]
      constructor
      · intro met
        split at met
        · next noLiteral =>
            obtain ⟨named, is⟩ := innerMode_eq_some_iff.mp met
            exact .inner noLiteral named is
        · cases met
      · rintro ⟨⟩
        next noLiteral named is => rw [if_pos noLiteral, innerMode_eq_some_iff.mpr ⟨named, is⟩]

end

namespace Visit

variable {keep : Mode → Bool}

/-- A step of the walk. -/
theorem child?_eq_some_iff {v w : Visit} {i : Nat} :
    v.child? d src keep i = some w ↔
      ∃ c mode, v.tree.children[i]? = some c ∧ Leads d src v.spot i c v.mode mode ∧
        keep mode = true ∧ w = .enter (v.tree :: v.around) mode v.depth c := by
  unfold child? enter?
  cases child : v.tree.children[i]? with
  | none => simp
  | some c =>
      rw [Option.bind_some, Option.bind_eq_some_iff]
      constructor
      · rintro ⟨mode, met, kept⟩
        split at kept
        · next followed =>
            exact ⟨c, mode, rfl, (childModes_join_iff (s := v.spot) child).mp met, followed,
              (Option.some.inj kept).symm⟩
        · cases kept
      · rintro ⟨_, mode, ⟨⟩, leads, kept, rfl⟩
        exact ⟨mode, (childModes_join_iff (s := v.spot) child).mpr leads, if_pos kept⟩

/-- The node visited at an address is the node at the address. -/
theorem spot_of_at? {v w : Visit} {a : Address} (met : v.at? d src keep a = some w) :
    v.spot.at? a = some w.spot := by
  induction a generalizing v with
  | nil => exact congrArg (some ∘ spot) (Option.some.inj met)
  | cons i a ih =>
      obtain ⟨next, step, rest⟩ := Option.bind_eq_some_iff.mp met
      obtain ⟨c, mode, child, -, -, rfl⟩ := child?_eq_some_iff.mp step
      have here : v.spot.child? i = some (enter (v.tree :: v.around) mode v.depth c).spot := by
        rw [Spot.child?, spot, child]
        rfl
      rw [Spot.at?, here]
      exact ih rest

end Visit

/-! ### What is not followed -/

section

variable {keep : Mode → Bool} {around : List Tree} {depth : Depth}

theorem visitsBelow_of_dropped {modes : List (Option Mode)}
    (dropped : ∀ mode, some mode ∈ modes → keep mode = false) (ts : List Tree) :
    visitsBelow d src keep around modes depth ts = [] := by
  induction ts generalizing modes with
  | nil => rw [visitsBelow]
  | cons t ts ih =>
      rw [visitsBelow_cons, ih fun mode there => dropped mode (List.mem_of_mem_tail there)]
      cases modes with
      | nil => rfl
      | cons mode modes =>
          cases mode with
          | none => rfl
          | some mode => simp [visitsAs, dropped mode List.mem_cons_self]

theorem visitsBelow_none (ts us : List Tree) :
    visitsBelow d src keep around (us.map fun _ => none) depth ts = [] :=
  visitsBelow_of_dropped (by simp) ts

theorem exists_of_mem_markFirst {p : Tree → Bool} {mode : Tree → Mode} {m : Mode}
    {ts : List Tree} (there : some m ∈ markFirst p mode ts) :
    ∃ t ∈ ts, p t = true ∧ m = mode t := by
  induction ts with
  | nil => cases there
  | cons t ts ih =>
      rw [markFirst] at there
      split at there
      · next first =>
          refine ⟨t, List.mem_cons_self, first, ?_⟩
          simpa using there
      · obtain ⟨u, member, rest⟩ := ih (by simpa using there)
        exact ⟨u, List.mem_cons_of_mem t member, rest⟩

theorem visits_importing (t : Tree) :
    visits d src keep around .importing depth t = [⟨t, around, .importing, depth⟩] := by
  cases t with
  | node tag children =>
      rw [visits, childModes, visitsBelow_of_dropped fun _ there => absurd there List.not_mem_nil]
      rfl

end

/-! ### What lies further out -/

def Visit.under (outer : List Tree) (v : Visit) : Visit :=
  { v with around := v.around ++ outer }

theorem childModes_append {around : List Tree} {mode : Mode}
    (near : 3 ≤ around.length ∨ mode.inBody = false) (outer : List Tree) (t : Tree) :
    childModes d src (around ++ outer) t mode = childModes d src around t mode := by
  cases mode with
  | body callee =>
      have enough : 3 ≤ around.length := near.resolve_right nofun
      simp only [childModes, Dialect.call?_append enough]
  | scope => rfl
  | importing => rfl
  | type => rfl
  | members => rfl
  | method => rfl

section

variable {keep : Mode → Bool}

-- Outside method bodies a step depends on the node alone.
mutual

theorem visits_append {around : List Tree} {mode : Mode}
    (near : 3 ≤ around.length ∨ mode.inBody = false ∧ ∀ m, keep m = true → m.inBody = false)
    (outer : List Tree) (depth : Depth) :
    ∀ t, visits d src keep (around ++ outer) mode depth t =
      (visits d src keep around mode depth t).map (Visit.under outer)
  | .node tag children => by
      rw [visits, visits, List.map_cons, childModes_append (near.imp_right And.left),
        ← List.cons_append, visitsBelow_append _ outer _ _ children]
      · rfl
      · exact near.imp Nat.le_succ_of_le And.right

theorem visitsBelow_append {around : List Tree}
    (near : 3 ≤ around.length ∨ ∀ m, keep m = true → m.inBody = false)
    (outer : List Tree) (modes : List (Option Mode)) (depth : Depth) :
    ∀ ts, visitsBelow d src keep (around ++ outer) modes depth ts =
      (visitsBelow d src keep around modes depth ts).map (Visit.under outer)
  | [] => rfl
  | t :: ts => by
      rw [visitsBelow, visitsBelow, List.map_append, visitsBelow_append near outer _ _ ts]
      refine congrArg (· ++ _) ?_
      split
      · next mode _ =>
          split
          · next kept =>
              exact visits_append (near.imp_right fun outside => ⟨outside mode kept, outside⟩)
                outer depth t
          · rfl
      · rfl

end

end

/-! ### Where the walk comes to -/

variable (d src) in
/-- A walk that starts at a node in a mode, and follows some modes only, comes to the node at an
address in a mode. -/
inductive Comes (keep : Mode → Bool) (origin : Spot) (first : Mode) : Address → Mode → Spot → Prop
  | start : Comes keep origin first [] first origin
  | step {a : Address} {m m' : Mode} {s : Spot} {i : Nat} {c : Tree}
      (here : Comes keep origin first a m s) (child : s.tree.children[i]? = some c)
      (leads : Leads d src s i c m m') (kept : keep m' = true) :
      Comes keep origin first (a ++ [i]) m' ⟨c, s.tree :: s.around⟩

variable (d src) in
/-- The walk through a file comes to the node at an address in a mode. -/
abbrev Met (root : Tree) (a : Address) (m : Mode) (s : Spot) : Prop :=
  Comes d src (fun _ => true) root.spot .scope a m s

section

variable {keep : Mode → Bool} {origin s : Spot} {first m : Mode} {a : Address}

theorem comes_iff (depth : Depth) :
    Comes d src keep origin first a m s ↔
      ∃ v, (Visit.enter origin.around first depth origin.tree).at? d src keep a = some v ∧
        v.mode = m ∧ v.spot = s := by
  constructor
  · intro comes
    induction comes with
    | start => exact ⟨_, rfl, rfl, rfl⟩
    | step here child leads kept ih =>
        obtain ⟨v, met, rfl, rfl⟩ := ih
        refine ⟨.enter (v.tree :: v.around) _ v.depth _, ?_, rfl, rfl⟩
        rw [Visit.at?_concat, met, Option.bind_some, Visit.child?_eq_some_iff]
        exact ⟨_, _, child, leads, kept, rfl⟩
  · rintro ⟨v, met, rfl, rfl⟩
    induction a using List.reverseRecOn generalizing v with
    | nil =>
        obtain rfl := Option.some.inj met
        exact .start
    | append_singleton a i ih =>
        rw [Visit.at?_concat] at met
        obtain ⟨w, before, step⟩ := Option.bind_eq_some_iff.mp met
        obtain ⟨c, mode, child, leads, kept, rfl⟩ := Visit.child?_eq_some_iff.mp step
        exact .step (ih w before) child leads kept

theorem exists_mem_visitsOfFile_iff {root : Tree} :
    (∃ v ∈ visitsOfFile d src root, v.mode = m ∧ v.spot = s) ↔ ∃ a, Met d src root a m s := by
  simp only [Met, comes_iff ⟨0, 0⟩, mem_visitsOfFile]
  constructor
  · rintro ⟨v, ⟨a, met⟩, is⟩
    exact ⟨a, v, met, is⟩
  · rintro ⟨a, v, met, is⟩
    exact ⟨v, ⟨a, met⟩, is⟩

namespace Comes

theorem at? (comes : Comes d src keep origin first a m s) : origin.at? a = some s := by
  obtain ⟨v, met, -, rfl⟩ := (comes_iff ⟨0, 0⟩).mp comes
  exact Visit.spot_of_at? met

theorem unique {m' : Mode} {s' : Spot} (comes : Comes d src keep origin first a m s)
    (again : Comes d src keep origin first a m' s') : m = m' ∧ s = s' := by
  obtain ⟨v, met, rfl, rfl⟩ := (comes_iff ⟨0, 0⟩).mp comes
  obtain ⟨w, same, rfl, rfl⟩ := (comes_iff ⟨0, 0⟩).mp again
  obtain rfl := Option.some.inj (met.symm.trans same)
  exact ⟨rfl, rfl⟩

/-- The walk comes to a node below another one by a step from that one. -/
theorem of_append {rest : Address} {i : Nat}
    (comes : Comes d src keep origin first (a ++ i :: rest) m s) :
    ∃ above spot c m', Comes d src keep origin first a above spot ∧
      spot.tree.children[i]? = some c ∧ Leads d src spot i c above m' := by
  obtain ⟨v, met, -, -⟩ := (comes_iff ⟨0, 0⟩).mp comes
  rw [Visit.at?_append] at met
  obtain ⟨w, before, below⟩ := Option.bind_eq_some_iff.mp met
  obtain ⟨u, step, -⟩ := Option.bind_eq_some_iff.mp below
  obtain ⟨c, mode, child, leads, -, -⟩ := Visit.child?_eq_some_iff.mp step
  exact ⟨w.mode, w.spot, c, mode, (comes_iff ⟨0, 0⟩).mpr ⟨w, before, rfl, rfl⟩, child, leads⟩

/-- A walk from a node that the walk through a file comes to is a part of that walk. -/
theorem met {root : Tree} {b : Address} (comes : Comes d src keep origin first a m s)
    (there : Met d src root b first origin) : Met d src root (b ++ a) m s := by
  induction comes with
  | start =>
      rw [List.append_nil]
      exact there
  | step here child leads kept ih =>
      rw [← List.append_assoc]
      exact ih.step child leads rfl

end Comes

variable (d src keep origin first m) in
def metIn : List (Address × Visit) :=
  (addressedVisits d src keep origin.around first ⟨0, 0⟩ origin.tree).filter (·.2.mode == m)

variable (d src keep origin first m) in
def spotsIn : List (Address × Spot) :=
  (metIn d src keep origin first m).map fun x => (x.1, x.2.spot)

theorem comes_of_mem_metIn {v : Visit} (there : (a, v) ∈ metIn d src keep origin first m) :
    Comes d src keep origin first a m v.spot := by
  obtain ⟨member, mode⟩ := List.mem_filter.mp there
  exact (comes_iff ⟨0, 0⟩).mpr ⟨v, (mem_addressedVisits ..).mp member, eq_of_beq mode, rfl⟩

theorem mem_spotsIn :
    (a, s) ∈ spotsIn d src keep origin first m ↔ Comes d src keep origin first a m s := by
  rw [spotsIn, List.mem_map]
  constructor
  · rintro ⟨⟨b, v⟩, there, same⟩
    obtain ⟨rfl, rfl⟩ := Prod.mk.inj same
    exact comes_of_mem_metIn there
  · intro comes
    obtain ⟨v, met, mode, rfl⟩ := (comes_iff ⟨0, 0⟩).mp comes
    have member := (mem_addressedVisits ..).mpr met
    exact ⟨(a, v), List.mem_filter.mpr ⟨member, beq_of_eq mode⟩, rfl⟩

variable (d src keep origin first m) in
theorem pairwise_spotsIn :
    ((spotsIn d src keep origin first m).map Prod.fst).Pairwise (· < ·) := by
  rw [spotsIn, List.map_map]
  exact (pairwise_addressedVisits ..).sublist (List.filter_sublist.map Prod.fst)

end

end Syntax

end LayerLint
