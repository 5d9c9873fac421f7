import LayerLint.Proofs.Extract.Declarations
import LayerLint.Proofs.Syntax.Ownership
import Mathlib.Data.List.Forall2
import Mathlib.Data.List.Sort

/-! The facts of a method are those of the nodes that it owns: one call for each node that is a
call, one branch for each branching or looping statement, and one literal for each literal that
stands in the arguments of a call, with the callee of the innermost such call. -/

namespace LayerLint

open Syntax Text

/-! ### Facts in the order of their places -/

/-- The entries list the nodes at certain addresses, one entry each, in the order of their keys. -/
def Lists {α : Type} (node : Address → Prop) (entry : Address → Nat → α → Prop)
    (entries : List α) : Prop :=
  ∃ items : List (Address × Nat × α), (items.map Prod.fst).Nodup ∧
    (∀ a, a ∈ items.map Prod.fst ↔ node a) ∧ (∀ x ∈ items, entry x.1 x.2.1 x.2.2) ∧
    items.Pairwise (fun x y => x.2.1 ≤ y.2.1) ∧ entries = items.map (·.2.2)

theorem inOrder_eq {α : Type} (items : List (Nat × α)) :
    inOrder items = (items.insertionSort fun x y => x.1 ≤ y.1).map Prod.snd := by
  have insert : ∀ (item : Nat × α) rest, insertInOrder item rest =
      rest.orderedInsert (fun x y => x.1 ≤ y.1) item := by
    intro item rest
    induction rest with
    | nil => rfl
    | cons next rest ih => rw [insertInOrder, ih, List.orderedInsert_cons]
  have inserts : insertInOrder (α := α) = List.orderedInsert fun x y => x.1 ≤ y.1 :=
    funext fun item => funext (insert item)
  rw [inOrder, inserts]
  rfl

theorem addresses_sublist {β : Type} (met : List (Address × Visit)) (f : Visit → Option β) :
    ((met.filterMap fun x => (f x.2).map (x.1, ·)).map Prod.fst).Sublist (met.map Prod.fst) := by
  induction met with
  | nil => exact .slnil
  | cons x met ih =>
      cases is : f x.2 with
      | none =>
          rw [List.filterMap_cons_none (by rw [is]; rfl)]
          exact ih.cons _
      | some y =>
          rw [List.filterMap_cons_some (by rw [is]; rfl)]
          exact ih.cons_cons _

/-- What the nodes met contribute, put in order, lists those that contribute something. -/
theorem lists_inOrder {α : Type} {met : List (Address × Visit)}
    (distinct : (met.map Prod.fst).Nodup) {f : Visit → Option (Nat × α)}
    {node : Address → Prop} {entry : Address → Nat → α → Prop}
    (nodes : ∀ a, node a ↔ ∃ v, (a, v) ∈ met ∧ (f v).isSome = true)
    (entries : ∀ a v k x, (a, v) ∈ met → f v = some (k, x) → entry a k x) :
    Lists node entry (inOrder ((met.map Prod.snd).filterMap f)) := by
  let items : List (Address × Nat × α) := met.filterMap fun x => (f x.2).map (x.1, ·)
  let before (x y : Address × Nat × α) : Prop := x.2.1 ≤ y.2.1
  have perm := List.perm_insertionSort before items
  have member : ∀ a k x, (a, k, x) ∈ items ↔ ∃ v, (a, v) ∈ met ∧ f v = some (k, x) := by
    intro a k x
    simp only [items, List.mem_filterMap, Prod.exists, Option.map_eq_some_iff, Prod.mk.injEq]
    constructor
    · rintro ⟨b, v, there, k', x', is, rfl, rfl, rfl⟩
      exact ⟨v, there, is⟩
    · rintro ⟨v, there, is⟩
      exact ⟨a, v, there, k, x, is, rfl, rfl, rfl⟩
  refine ⟨items.insertionSort before, ?_, fun a => ?_, ?_, ?_, ?_⟩
  · exact (perm.map Prod.fst).nodup_iff.mpr (distinct.sublist (addresses_sublist met f))
  · rw [(perm.map Prod.fst).mem_iff, nodes, List.mem_map]
    constructor
    · rintro ⟨⟨b, k, x⟩, there, rfl⟩
      obtain ⟨v, visited, is⟩ := (member b k x).mp there
      exact ⟨v, visited, by rw [is]; rfl⟩
    · rintro ⟨v, visited, some⟩
      obtain ⟨⟨k, x⟩, is⟩ := Option.isSome_iff_exists.mp some
      exact ⟨(a, k, x), (member a k x).mpr ⟨v, visited, is⟩, rfl⟩
  · rintro ⟨a, k, x⟩ there
    obtain ⟨v, visited, is⟩ := (member a k x).mp (perm.mem_iff.mp there)
    exact entries a v k x visited is
  · exact List.pairwise_insertionSort before items
  · -- Sorting looks at the keys alone, so the addresses may be dropped before it or after it.
    have values : items.map Prod.snd = (met.map Prod.snd).filterMap f := by
      rw [List.map_filterMap, List.filterMap_map]
      refine List.filterMap_congr fun x _ => ?_
      rw [Option.map_map]
      exact Option.map_id'
    have sorted : (items.insertionSort before).map Prod.snd =
        (items.map Prod.snd).insertionSort fun x y => x.1 ≤ y.1 :=
      List.map_insertionSort before _ Prod.snd items fun _ _ _ _ => .rfl
    rw [inOrder_eq, ← values, ← sorted, List.map_map]
    rfl

/-! ### What a node contributes -/

section

variable (d : Dialect) (src : Source)

def callItem? (v : Visit) : Option (Nat × Call) :=
  (d.call? src v.around v.tree).map fun c =>
    (c.place.start.offset, ⟨(c.receiver.map (receiverHint src)).getD "", c.callee, c.place.line⟩)

def literalItem? (v : Visit) : Option (Nat × Literal) :=
  (literalAt? d src v).bind fun (kind, callee, value) =>
    value.map fun value => (v.tree.start.offset, ⟨kind, value, callee, v.tree.line⟩)

def branchItem? (v : Visit) : Option (Nat × Branch) :=
  (d.construct? v.tree.kind).map fun name => (v.tree.line, ⟨name, v.tree.line⟩)

theorem filterMap_factsAt (v : Visit) :
    (factsAt d src v).filterMap Fact.call? = (callItem? d src v).toList ∧
      (factsAt d src v).filterMap Fact.literal? = (literalItem? d src v).toList ∧
      ((factsAt d src v).filterMap Fact.branch?).map (fun b => (b.line, b)) =
        (branchItem? d v).toList := by
  unfold factsAt callItem? literalItem? branchItem?
  cases d.construct? v.tree.kind <;> cases d.call? src v.around v.tree <;>
    rcases literalAt? d src v with _ | ⟨kind, callee, _ | value⟩ <;> exact ⟨rfl, rfl, rfl⟩

theorem items_of_facts (met : List Visit) :
    let facts := met.flatMap (factsAt d src)
    facts.filterMap Fact.call? = met.filterMap (callItem? d src) ∧
      facts.filterMap Fact.literal? = met.filterMap (literalItem? d src) ∧
      (facts.filterMap Fact.branch?).map (fun b => (b.line, b)) =
        met.filterMap (branchItem? d) := by
  simp only [List.filterMap_flatMap, List.map_flatMap, filterMap_factsAt]
  exact ⟨(List.filterMap_eq_flatMap_toList ..).symm, (List.filterMap_eq_flatMap_toList ..).symm,
    (List.filterMap_eq_flatMap_toList ..).symm⟩

end

variable {d : Dialect} {src : Source}

theorem literalItem?_eq_some_iff {v : Visit} {offset : Nat} {l : Literal} :
    literalItem? d src v = some (offset, l) ↔
      v.mode = .body (some l.callee) ∧ d.literalKind? v.tree.kind = some l.kind ∧
        literalValue? src v.tree l.kind = some l.value ∧ offset = v.tree.start.offset ∧
        l.line = v.tree.line := by
  unfold literalItem?
  rw [Option.bind_eq_some_iff]
  constructor
  · rintro ⟨⟨kind, callee, value⟩, is, entry⟩
    obtain ⟨value, rfl, same⟩ := Option.map_eq_some_iff.mp entry
    obtain ⟨rfl, rfl⟩ := Prod.mk.inj same
    obtain ⟨mode, literal, cut⟩ := literalAt?_eq_some_iff.mp is
    exact ⟨mode, literal, cut.symm, rfl, rfl⟩
  · rintro ⟨mode, literal, cut, rfl, line⟩
    refine ⟨(l.kind, l.callee, some l.value),
      literalAt?_eq_some_iff.mpr ⟨mode, literal, cut.symm⟩, ?_⟩
    simp only [Option.map_some, ← line]

/-! ### The facts of a method -/

section

variable (d src) (body : Spot)

def ListsCalls (calls : List Call) : Prop :=
  Lists (fun a => ∃ s, Owned d body a s ∧ (s.call? d src).isSome = true)
    (fun a offset entry => ∃ s call, Owned d body a s ∧ s.call? d src = some call ∧
      offset = call.place.start.offset ∧
      entry = ⟨(call.receiver.map (receiverHint src)).getD "", call.callee, call.place.line⟩)
    calls

/-- One literal for each string or number in the arguments of a call, with the callee of the
innermost such call. -/
def ListsLiterals (literals : List Literal) : Prop :=
  Lists
    (fun a => ∃ s, Owned d body a s ∧ (d.literalKind? s.tree.kind).isSome = true ∧
      ∃ b callee, ArgumentOf d src body a b callee)
    (fun a offset entry => ∃ s b, Owned d body a s ∧ Innermost d src body a b entry.callee ∧
      d.literalKind? s.tree.kind = some entry.kind ∧
      literalValue? src s.tree entry.kind = some entry.value ∧
      offset = s.tree.start.offset ∧ entry.line = s.tree.line)
    literals

def ListsBranches (branches : List Branch) : Prop :=
  Lists (fun a => ∃ s, Owned d body a s ∧ (d.construct? s.tree.kind).isSome = true)
    (fun a line entry => ∃ s, Owned d body a s ∧
      d.construct? s.tree.kind = some entry.construct ∧ entry.line = s.tree.line ∧
      line = entry.line)
    branches

/-- The facts of a method are those of the nodes that it owns, given its body. -/
structure Attributed (m : Method) : Prop where
  calls : ListsCalls d src body m.calls
  literals : ListsLiterals d src body m.literals
  branches : ListsBranches d body m.branches

end

theorem Dialect.call?_of_declaresType {t : Tree} (type : d.declaresType t.kind = true)
    (around : List Tree) : d.call? src around t = none := by
  unfold call?
  split
  · next is => simp [is, declaresType] at type
  · next is => simp [is, declaresType] at type
  · next is => simp [is, declaresType] at type
  · next is => simp [is, declaresType] at type
  · rfl

variable (d src) in
def addressedBody (body : Spot) : List (Address × Visit) :=
  addressedVisits d src Mode.inBody body.around (bodyMode d none body.tree) ⟨0, 0⟩ body.tree

section

variable {body : Spot} {a : Address}

theorem owned_of_mem_addressedBody {v : Visit} (there : (a, v) ∈ addressedBody d src body)
    (noType : d.declaresType v.tree.kind = false) :
    Owned d body a v.spot ∧
      ∃ callee, v.mode = .body callee ∧ InnermostCallee d src body a callee := by
  have comes := (comes_iff ⟨0, 0⟩).mpr ⟨v, (mem_addressedVisits ..).mp there, rfl, rfl⟩
  rcases comes.inBody with ⟨-, type⟩ | ⟨callee, mode, owned, innermost⟩
  · exact absurd (noType.symm.trans type) nofun
  · exact ⟨owned, callee, mode, innermost⟩

variable (src) in
theorem exists_mem_addressedBody {s : Spot} (owned : Owned d body a s) :
    ∃ v, (a, v) ∈ addressedBody d src body ∧ v.spot = s ∧
      ∃ callee, v.mode = .body callee ∧ InnermostCallee d src body a callee := by
  obtain ⟨callee, comes⟩ := owned.comes src
  rcases comes.inBody with ⟨other, -⟩ | ⟨same, mode, -, innermost⟩
  · cases other
  · obtain rfl := Mode.body.inj mode
    obtain ⟨v, met, mode, is⟩ := (comes_iff ⟨0, 0⟩).mp comes
    exact ⟨v, (mem_addressedVisits ..).mpr met, is, callee, mode, innermost⟩

/-- What the nodes of a body contribute, put in order, lists owned nodes if type declarations
contribute nothing. -/
theorem lists_addressedBody {α : Type} {f : Visit → Option (Nat × α)}
    (node : Address → Spot → Prop) {entry : Address → Nat → α → Prop}
    (plain : ∀ v, (f v).isSome = true → d.declaresType v.tree.kind = false)
    (nodes : ∀ a v callee, Owned d body a v.spot → v.mode = .body callee →
      InnermostCallee d src body a callee → ((f v).isSome = true ↔ node a v.spot))
    (entries : ∀ a v callee k x, Owned d body a v.spot → v.mode = .body callee →
      InnermostCallee d src body a callee → f v = some (k, x) → entry a k x) :
    Lists (fun a => ∃ s, Owned d body a s ∧ node a s) entry
      (inOrder (((addressedBody d src body).map Prod.snd).filterMap f)) := by
  have distinct := nodup_of_pairwise_lt (pairwise_addressedVisits d src Mode.inBody body.around
    (bodyMode d none body.tree) ⟨0, 0⟩ body.tree)
  refine lists_inOrder distinct (fun a => ?_) fun a v k x there is => ?_
  · constructor
    · rintro ⟨s, owned, has⟩
      obtain ⟨v, there, rfl, callee, mode, innermost⟩ := exists_mem_addressedBody src owned
      exact ⟨v, there, (nodes a v callee owned mode innermost).mpr has⟩
    · rintro ⟨v, there, some⟩
      obtain ⟨owned, callee, mode, innermost⟩ := owned_of_mem_addressedBody there (plain v some)
      exact ⟨v.spot, owned, (nodes a v callee owned mode innermost).mp some⟩
  · obtain ⟨owned, callee, mode, innermost⟩ :=
      owned_of_mem_addressedBody there (plain v (Option.isSome_of_eq_some is))
    exact entries a v callee k x owned mode innermost is

theorem listsCalls : ListsCalls d src body
    (inOrder (((addressedBody d src body).map Prod.snd).filterMap (callItem? d src))) := by
  refine lists_addressedBody (fun _ s => (s.call? d src).isSome = true) ?_ ?_ ?_
  · intro v some
    rw [callItem?, Option.isSome_map] at some
    refine Bool.eq_false_iff.mpr fun type => ?_
    rw [Dialect.call?_of_declaresType type] at some
    cases some
  · intro a v callee owned mode innermost
    rw [callItem?, Option.isSome_map]
    rfl
  · intro a v callee offset entry owned mode innermost is
    obtain ⟨call, found, same⟩ := Option.map_eq_some_iff.mp is
    obtain ⟨rfl, rfl⟩ := Prod.mk.inj same
    exact ⟨v.spot, call, owned, found, rfl, rfl⟩

theorem listsBranches : ListsBranches d body
    (inOrder (((addressedBody d src body).map Prod.snd).filterMap (branchItem? d))) := by
  refine lists_addressedBody (fun _ s => (d.construct? s.tree.kind).isSome = true) ?_ ?_ ?_
  · intro v some
    rw [branchItem?, Option.isSome_map] at some
    refine Bool.eq_false_iff.mpr fun type => ?_
    rw [(Dialect.plain_of_declaresType type).2.1] at some
    cases some
  · intro a v callee owned mode innermost
    rw [branchItem?, Option.isSome_map]
    rfl
  · intro a v callee line entry owned mode innermost is
    obtain ⟨name, found, same⟩ := Option.map_eq_some_iff.mp is
    obtain ⟨rfl, rfl⟩ := Prod.mk.inj same
    exact ⟨v.spot, owned, found, rfl, rfl⟩

theorem listsLiterals
    (values : ∀ a s kind b callee, Owned d body a s → d.literalKind? s.tree.kind = some kind →
      ArgumentOf d src body a b callee → ∃ value, literalValue? src s.tree kind = some value) :
    ListsLiterals d src body
      (inOrder (((addressedBody d src body).map Prod.snd).filterMap (literalItem? d src))) := by
  refine lists_addressedBody (fun a s => (d.literalKind? s.tree.kind).isSome = true ∧
    ∃ b callee, ArgumentOf d src body a b callee) ?_ ?_ ?_
  · intro v some
    obtain ⟨⟨offset, l⟩, is⟩ := Option.isSome_iff_exists.mp some
    refine Bool.eq_false_iff.mpr fun type => ?_
    have literal := (literalItem?_eq_some_iff.mp is).2.1
    rw [(Dialect.plain_of_declaresType type).2.2] at literal
    cases literal
  · intro a v callee owned mode innermost
    constructor
    · intro some
      obtain ⟨⟨offset, l⟩, is⟩ := Option.isSome_iff_exists.mp some
      obtain ⟨same, literal, -⟩ := literalItem?_eq_some_iff.mp is
      obtain rfl := Mode.body.inj (mode.symm.trans same)
      obtain ⟨b, argument, -⟩ := innermost
      exact ⟨Option.isSome_of_eq_some literal, b, _, argument⟩
    · rintro ⟨is, b, other, argument⟩
      obtain ⟨kind, literal⟩ := Option.isSome_iff_exists.mp is
      cases callee with
      | none => exact absurd argument (innermost b other)
      | some callee =>
          obtain ⟨value, cut⟩ := values a v.spot kind b other owned literal argument
          have entry : literalItem? d src v =
              some (v.tree.start.offset, ⟨kind, value, callee, v.tree.line⟩) :=
            literalItem?_eq_some_iff.mpr ⟨mode, literal, cut, rfl, rfl⟩
          exact Option.isSome_of_eq_some entry
  · intro a v callee offset entry owned mode innermost is
    obtain ⟨same, literal, cut, offset, line⟩ := literalItem?_eq_some_iff.mp is
    obtain rfl := Mode.body.inj (mode.symm.trans same)
    obtain ⟨b, argument⟩ := innermost
    exact ⟨v.spot, b, owned, argument, literal, cut, offset, line⟩

end

theorem attributed_methodModel {v : Visit} {m : Method} {body : Tree}
    (model : methodModel d src v = some m) (is : d.methodBody? v.tree = some body)
    (values : ∀ a s kind b callee, Owned d ⟨body, v.tree :: v.around⟩ a s →
      d.literalKind? s.tree.kind = some kind →
      ArgumentOf d src ⟨body, v.tree :: v.around⟩ a b callee →
      ∃ value, literalValue? src s.tree kind = some value) :
    Attributed d src ⟨body, v.tree :: v.around⟩ m := by
  have met : (addressedBody d src ⟨body, v.tree :: v.around⟩).map Prod.snd =
      bodyVisits d src (v.tree :: v.around) body := map_addressedVisits ..
  obtain ⟨calls, literals, branches⟩ :=
    items_of_facts d src (bodyVisits d src (v.tree :: v.around) body)
  rw [methodModel, is, Option.map_some] at model
  obtain rfl := Option.some.inj model
  refine ⟨?_, ?_, ?_⟩
  · dsimp only [methodOf]
    rw [calls, ← met]
    exact listsCalls
  · dsimp only [methodOf]
    rw [literals, ← met]
    exact listsLiterals values
  · dsimp only [methodOf]
    rw [branches, ← met]
    exact listsBranches

/-- In a walk that nothing stops, every literal argument has a value. -/
theorem exists_literalValue {maxNesting : Nat} {root : Tree} {s : Spot} {method : Address}
    {body : Tree} (passes : ∀ v ∈ visitsOfFile d src root, v.Passes d src maxNesting)
    (met : Met d src root method .method s) (is : d.methodBody? s.tree = some body)
    {a b : Address} {t : Spot} {kind : LiteralKind} {callee : String}
    (owned : Owned d ⟨body, s.tree :: s.around⟩ a t)
    (literal : d.literalKind? t.tree.kind = some kind)
    (argument : ArgumentOf d src ⟨body, s.tree :: s.around⟩ a b callee) :
    ∃ value, literalValue? src t.tree kind = some value := by
  obtain ⟨i, first⟩ := met.methodBody is
  obtain ⟨inner, comes⟩ := owned.comes src
  -- The walk through the body is a part of the walk through the file.
  obtain ⟨v, there, mode, rfl⟩ := exists_mem_visitsOfFile_iff.mpr ⟨_, comes.met first⟩
  rcases comes.inBody with ⟨other, -⟩ | ⟨same, is, -, innermost⟩
  · cases other
  · obtain rfl := Mode.body.inj is
    cases inner with
    | none => exact absurd argument (innermost b callee)
    | some inner =>
        cases kind with
        | number => exact ⟨_, rfl⟩
        | string =>
            refine Option.ne_none_iff_exists'.mp fun uncut => (passes v there).2 ?_
            exact ⟨⟨inner, mode⟩, literal, (unquote_eq_none_iff _).mp uncut⟩

/-! ### The methods of a type -/

theorem factsAt_under {v : Visit} (enough : 3 ≤ v.around.length) (outer : List Tree) :
    factsAt d src (v.under outer) = factsAt d src v := by
  simp only [factsAt, literalAt?, Visit.under, Dialect.call?_append enough]

/-- The model of a method does not depend on what lies around its type. -/
theorem methodModel_under {v : Visit} (enough : 2 ≤ v.around.length) (outer : List Tree) :
    methodModel d src (v.under outer) = methodModel d src v := by
  have facts (body : Tree) :
      (bodyVisits d src (v.tree :: (v.around ++ outer)) body).flatMap (factsAt d src) =
        (bodyVisits d src (v.tree :: v.around) body).flatMap (factsAt d src) := by
    have far : 3 ≤ (v.tree :: v.around).length := Nat.succ_le_succ enough
    rw [bodyVisits, ← List.cons_append, visits_append (.inl far), List.flatMap_map]
    refine List.flatMap_congr fun w there => factsAt_under ?_ outer
    obtain ⟨a, met⟩ := (mem_visits ..).mp there
    have longer := Spot.length_around_of_at? (Visit.spot_of_at? met)
    exact Nat.le_trans far (longer ▸ Nat.le_add_right _ _)
  simp only [methodModel, Visit.under, facts]

variable (d src) in
def methodsIn (met : List Visit) : List Method :=
  (met.filter (·.mode == .method)).filterMap (methodModel d src)

/-- The methods of a type are those met among its members, whatever lies around the type. -/
theorem methods_classModel (imports : List Import) (type : Spot) :
    (classModel d src imports type.tree).methods =
      methodsIn d src (visits d src Mode.ofMember type.around .type ⟨0, 0⟩ type.tree) := by
  have outside : ∀ m : Mode, m.ofMember = true → m.inBody = false := by
    intro m
    cases m <;> simp [Mode.ofMember, Mode.inBody]
  have under : visits d src Mode.ofMember ([] ++ type.around) .type ⟨0, 0⟩ type.tree =
      (visits d src Mode.ofMember [] .type ⟨0, 0⟩ type.tree).map (Visit.under type.around) :=
    visits_append (.inr ⟨rfl, outside⟩) type.around ⟨0, 0⟩ type.tree
  rw [List.nil_append] at under
  rw [methodsIn, under, List.filter_map, List.filterMap_map]
  refine List.filterMap_congr fun v there => (methodModel_under ?_ _).symm
  -- A method stands in the body of its type at least.
  obtain ⟨member, mode⟩ := List.mem_filter.mp there
  obtain ⟨a, visited⟩ := (mem_visits ..).mp member
  have comes : Comes d src Mode.ofMember ⟨type.tree, []⟩ .type a .method v.spot :=
    (comes_iff ⟨0, 0⟩).mpr ⟨v, visited, eq_of_beq mode, rfl⟩
  have deep := (comes_method_iff.mp comes).two_le_length
  have around := Spot.length_around_of_at? comes.at?
  rw [List.length_nil, Nat.zero_add] at around
  exact around ▸ deep

theorem forall₂_filterMap {α β : Type} {R : α → β → Prop} {f : α → Option β} {xs : List α}
    (related : ∀ x ∈ xs, ∃ y, f x = some y ∧ R x y) : List.Forall₂ R xs (xs.filterMap f) := by
  induction xs with
  | nil => exact .nil
  | cons x xs ih =>
      obtain ⟨y, is, here⟩ := related x List.mem_cons_self
      rw [List.filterMap_cons_some is]
      exact .cons here (ih fun z there => related z (List.mem_cons_of_mem x there))

variable (d src) in
def Syntax.Spot.method? (s : Spot) : Option Method :=
  methodModel d src ⟨s.tree, s.around, .method, ⟨0, 0⟩⟩

variable (d src) in
/-- The models stand for the methods of a type, one for each and in their order. -/
def ListsMethods (type : Spot) (models : List Method) : Prop :=
  ∃ methods : List (Address × Spot), (methods.map Prod.fst).Pairwise (· < ·) ∧
    (∀ b s, (b, s) ∈ methods ↔ HasMethod d type b s) ∧
    List.Forall₂ (fun x m => x.2.method? d src = some m) methods models

theorem listsMethods_classModel (imports : List Import) (type : Spot) :
    ListsMethods d src type (classModel d src imports type.tree).methods := by
  refine ⟨spotsIn d src Mode.ofMember type .type .method, pairwise_spotsIn .., fun b s => ?_, ?_⟩
  · rw [mem_spotsIn, comes_method_iff]
  · rw [methods_classModel, methodsIn, ← map_addressedVisits, List.filter_map, List.filterMap_map,
      spotsIn, List.forall₂_map_left_iff]
    refine forall₂_filterMap ?_
    rintro ⟨b, v⟩ there
    have method := comes_method_iff.mp (comes_of_mem_metIn there)
    obtain ⟨body, is⟩ := Option.isSome_iff_exists.mp method.isSome_methodBody
    obtain ⟨m, model⟩ : ∃ m, v.spot.method? d src = some m :=
      ⟨_, Option.map_eq_some_iff.mpr ⟨body, is, rfl⟩⟩
    exact ⟨m, model, model⟩

theorem attributed_of_hasMethod {maxNesting : Nat} {root : Tree} {type s : Spot} {a b : Address}
    {m : Method} (passes : ∀ v ∈ visitsOfFile d src root, v.Passes d src maxNesting)
    (met : Met d src root a .type type) (has : HasMethod d type b s)
    (model : s.method? d src = some m) :
    ∃ body, d.methodBody? s.tree = some body ∧ Attributed d src ⟨body, s.tree :: s.around⟩ m := by
  have comes : Comes d src Mode.ofMember type .type b .method s := comes_method_iff.mpr has
  obtain ⟨body, is⟩ := Option.isSome_iff_exists.mp has.isSome_methodBody
  exact ⟨body, is, attributed_methodModel model is
    fun _ _ _ _ _ => exists_literalValue passes (comes.met met) is⟩

variable (d src) in
/-- The models stand for the methods of a type, one for each and in their order, and have the facts
of the nodes that these own. -/
def ModelsMethods (type : Spot) (models : List Method) : Prop :=
  ∃ methods : List (Address × Spot), (methods.map Prod.fst).Pairwise (· < ·) ∧
    (∀ b s, (b, s) ∈ methods ↔ HasMethod d type b s) ∧
    List.Forall₂ (fun x m => ∃ body, d.methodBody? x.2.tree = some body ∧
      Attributed d src ⟨body, x.2.tree :: x.2.around⟩ m) methods models

theorem modelsMethods_classModel {maxNesting : Nat} {root : Tree} {type : Spot} {a : Address}
    (passes : ∀ v ∈ visitsOfFile d src root, v.Passes d src maxNesting)
    (met : Met d src root a .type type) (imports : List Import) :
    ModelsMethods d src type (classModel d src imports type.tree).methods := by
  obtain ⟨methods, ordered, member, models⟩ := listsMethods_classModel imports type
  refine ⟨methods, ordered, member, ?_⟩
  have all := (List.forall₂_and_left methods _).mpr
    ⟨fun x there => (member x.1 x.2).mp there, models⟩
  exact all.imp fun x m is => attributed_of_hasMethod passes met is.1 is.2

/-- Facts belong to the methods whose nodes they are. For every tree that the walk yields models of,
the methods of each model are those of a type declaration, one for each method with a body. Each has
one call for each call that it owns, one branch for each branch and one literal for each literal
argument, in the order of the source. -/
theorem classesOf_attributes_facts {maxNesting : Nat} {root : Tree} {classes : List ClassModel}
    (walk : classesOf d src maxNesting root = .models classes) :
    ∃ types : List (Address × Spot), (types.map Prod.fst).Pairwise (· < ·) ∧
      (∀ x ∈ types, Declares d root x.1 x.2) ∧
      List.Forall₂ (fun x c => ModelsMethods d src x.2 c.methods) types classes := by
  have passes := (classesOf_eq_models_iff.mp walk).1
  rw [classesOf_eq_typesMet passes] at walk
  obtain rfl := Extraction.models.inj walk
  refine ⟨typesMet d src root, pairwise_spotsIn ..,
    fun x there => (met_type_iff.mp (mem_spotsIn.mp there)).1, ?_⟩
  rw [List.forall₂_map_right_iff, List.forall₂_same]
  intro x there
  exact modelsMethods_classModel passes (mem_spotsIn.mp there) _

/-- In the tree of `class A{void m(){f(g(1),2);}}` the first literal belongs to `g`, and the second
one to `f` again. -/
theorem classesOf_attributes_nested_arguments :
    let src := Source.ofString "class A\x7bvoid m()\x7bf(g(1),2);\x7d\x7d"
    let inner := Tree.onFirstLine .methodInvocation none 19 23
      [.onFirstLine .identifier (some .name) 19 20 [],
        .onFirstLine .argumentList (some .arguments) 20 23
          [.onFirstLine .decimalInteger none 21 22 []]]
    let outer := Tree.onFirstLine .methodInvocation none 17 26
      [.onFirstLine .identifier (some .name) 17 18 [],
        .onFirstLine .argumentList (some .arguments) 18 26
          [inner, .onFirstLine .decimalInteger none 24 25 []]]
    let method := Tree.onFirstLine .methodDeclaration none 8 28
      [.onFirstLine .identifier (some .name) 13 14 [],
        .onFirstLine .block (some .body) 16 28 [outer]]
    let root := Tree.onFirstLine .compilationUnit none 0 29
      [.onFirstLine .classDeclaration none 0 29
        [.onFirstLine .identifier (some .name) 6 7 [],
          .onFirstLine .classBody (some .body) 7 29 [method]]]
    let classes : List ClassModel := [⟨"A", 1, [], [⟨"m", 1, 1, 1, [],
      [⟨"", "f", 1⟩, ⟨"", "g", 1⟩], [⟨.number, "1", "g", 1⟩, ⟨.number, "2", "f", 1⟩], []⟩]⟩]
    classesOf .java src 256 root = .models classes ∧
      ∃ types : List (Address × Spot), (types.map Prod.fst).Pairwise (· < ·) ∧
        (∀ x ∈ types, Declares .java root x.1 x.2) ∧
        List.Forall₂ (fun x c => ModelsMethods .java src x.2 c.methods) types classes := by
  intro src inner outer method root classes
  have walk : classesOf .java src 256 root = .models classes := by decide +kernel
  exact ⟨walk, classesOf_attributes_facts walk⟩

end LayerLint
