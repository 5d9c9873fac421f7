import LayerLint.Proofs.Syntax.Step

/-! Which methods a type has, which nodes a method owns, and in whose arguments they stand. All of
this is said of the tree alone; the walk through the members of a type comes to its methods, and the
walk through the body of a method to the nodes that it owns. -/

namespace LayerLint

open Syntax

namespace Dialect

variable {d : Dialect} {kind : Kind}

theorem kind_of_groupsMembers (group : d.groupsMembers kind = true) :
    kind.isNamed = true ∧ d.declaresType kind = false := by
  unfold groupsMembers at group
  split at group
  · exact ⟨rfl, rfl⟩
  · cases group

theorem kind_of_declaresMethod (method : d.declaresMethod kind = true) :
    kind.isNamed = true ∧ d.declaresType kind = false ∧ d.groupsMembers kind = false := by
  unfold declaresMethod at method
  split at method
  · cases d <;> exact ⟨rfl, rfl, rfl⟩
  · cases d <;> exact ⟨rfl, rfl, rfl⟩
  · exact ⟨rfl, rfl, rfl⟩
  · cases method

end Dialect

namespace Syntax

variable (d : Dialect) (src : Source)

/-! ### The methods of a type -/

/-- The nodes that hold the members of a type: its body and the groups of members below it. -/
inductive Holds (type : Spot) : Address → Spot → Prop
  | body {i : Nat} {c : Tree}
      (body : type.tree.children.findIdx? (·.label == some .body) = some i)
      (child : type.tree.children[i]? = some c) : Holds type [i] ⟨c, type.tree :: type.around⟩
  | group {a : Address} {s : Spot} {i : Nat} {c : Tree} (above : Holds type a s)
      (child : s.tree.children[i]? = some c) (group : d.groupsMembers c.kind = true) :
      Holds type (a ++ [i]) ⟨c, s.tree :: s.around⟩

/-- A method with a body is declared among the members of a type. -/
inductive HasMethod (type : Spot) : Address → Spot → Prop
  | intro {a : Address} {s : Spot} {i : Nat} {c : Tree} (above : Holds d type a s)
      (child : s.tree.children[i]? = some c) (method : d.declaresMethod c.kind = true)
      (body : (d.methodBody? c).isSome = true) :
      HasMethod type (a ++ [i]) ⟨c, s.tree :: s.around⟩

section

variable {d src} {type s : Spot} {a : Address}

/-- The walk through the members of a type meets the type, what holds its members, and its
methods. -/
theorem Comes.ofMember {m : Mode} (comes : Comes d src Mode.ofMember type .type a m s) :
    (m = .type ∧ a = [] ∧ s = type) ∨ (m = .members ∧ Holds d type a s) ∨
      (m = .method ∧ HasMethod d type a s) := by
  induction comes with
  | start => exact .inl ⟨rfl, rfl, rfl⟩
  | step here child leads kept ih =>
      rcases ih with ⟨rfl, rfl, rfl⟩ | ⟨rfl, above⟩ | ⟨rfl, -⟩
      · cases leads with
        | typeBody body => exact .inr (.inl ⟨rfl, .body body child⟩)
      · cases leads with
        | nested named type => cases kept
        | group named noType group => exact .inr (.inl ⟨rfl, .group above child group⟩)
        | method named noType noGroup method body =>
            exact .inr (.inr ⟨rfl, .intro above child method body⟩)
      · -- The body of a method is left to the walk through bodies.
        cases leads with
        | methodBody body is =>
            rw [is, bodyMode] at kept
            split at kept <;> cases kept

theorem Holds.comes (holds : Holds d type a s) :
    Comes d src Mode.ofMember type .type a .members s := by
  induction holds with
  | body body child => exact Comes.start.step child (.typeBody body) rfl
  | group above child group ih =>
      have ⟨named, noType⟩ := Dialect.kind_of_groupsMembers group
      exact ih.step child (.group named noType group) rfl

theorem comes_method_iff :
    Comes d src Mode.ofMember type .type a .method s ↔ HasMethod d type a s := by
  constructor
  · intro comes
    rcases comes.ofMember with ⟨other, -⟩ | ⟨other, -⟩ | ⟨-, method⟩
    · cases other
    · cases other
    · exact method
  · rintro ⟨above, child, method, body⟩
    have ⟨named, noType, noGroup⟩ := Dialect.kind_of_declaresMethod method
    exact above.comes.step child (.method named noType noGroup method body) rfl

theorem Holds.one_le_length (holds : Holds d type a s) : 1 ≤ a.length := by
  cases holds with
  | body body child => exact Nat.le_refl 1
  | group above child group => rw [List.length_append]; exact Nat.le_add_left 1 _

theorem HasMethod.two_le_length (method : HasMethod d type a s) : 2 ≤ a.length := by
  obtain ⟨above, -, -, -⟩ := method
  rw [List.length_append]
  exact Nat.succ_le_succ above.one_le_length

theorem HasMethod.isSome_methodBody (method : HasMethod d type a s) :
    (d.methodBody? s.tree).isSome = true := by
  obtain ⟨-, -, -, body⟩ := method
  exact body

end

/-! ### The nodes of a method -/

/-- The nodes that a method owns: those reached from its body through named children, not through a
type declaration and not below a literal. -/
inductive Owned (body : Spot) : Address → Spot → Prop
  | body (noType : d.declaresType body.tree.kind = false) : Owned body [] body
  | child {a : Address} {s : Spot} {i : Nat} {c : Tree} (above : Owned body a s)
      (child : s.tree.children[i]? = some c) (named : c.isNamed = true)
      (noType : d.declaresType c.kind = false) (noLiteral : d.literalKind? s.tree.kind = none) :
      Owned body (a ++ [i]) ⟨c, s.tree :: s.around⟩

/-- The node at `a` stands in the arguments of the call at `b`, which the method owns too. -/
def ArgumentOf (body : Spot) (a b : Address) (callee : String) : Prop :=
  ∃ i rest s call, a = b ++ i :: rest ∧ Owned d body b s ∧ s.call? d src = some call ∧
    call.argumentsIndex? s.tree = some i ∧ call.callee = callee

/-- Of the calls in whose arguments the node at `a` stands, the one at `b` is the innermost. -/
def Innermost (body : Spot) (a b : Address) (callee : String) : Prop :=
  ArgumentOf d src body a b callee ∧
    ∀ b' callee', ArgumentOf d src body a b' callee' → b'.length ≤ b.length

variable {d src} {body s : Spot} {a b : Address}

theorem Owned.at? (owned : Owned d body a s) : body.at? a = some s := by
  induction owned with
  | body noType => rfl
  | child above child named noType noLiteral ih =>
      rw [Spot.at?_concat, ih, Option.bind_some, Spot.child?, child]
      rfl

theorem Owned.unique {s' : Spot} (owned : Owned d body a s) (again : Owned d body a s') :
    s = s' :=
  Option.some.inj (owned.at?.symm.trans again.at?)

theorem ArgumentOf.length_lt {callee : String} (argument : ArgumentOf d src body a b callee) :
    b.length < a.length := by
  obtain ⟨i, rest, s, call, rfl, -⟩ := argument
  rw [List.length_append, List.length_cons]
  omega

/-- A child stands in the arguments of the call that its parent is, if it is the child that holds
them, and otherwise in those that its parent stands in. -/
theorem argumentOf_concat_iff {i : Nat} {callee : String} (above : Owned d body a s) :
    ArgumentOf d src body (a ++ [i]) b callee ↔
      (b = a ∧ ∃ call, s.call? d src = some call ∧ call.argumentsIndex? s.tree = some i ∧
        call.callee = callee) ∨ ArgumentOf d src body a b callee := by
  constructor
  · rintro ⟨j, rest, t, call, split, owned, is, index, callee⟩
    rcases rest.eq_nil_or_concat with rfl | ⟨rest, k, rfl⟩
    · obtain ⟨rfl, same⟩ := List.append_inj' split rfl
      obtain rfl := List.singleton_inj.mp same
      obtain rfl := above.unique owned
      exact .inl ⟨rfl, call, is, index, callee⟩
    · rw [List.concat_eq_append, ← List.cons_append, ← List.append_assoc] at split
      obtain ⟨rfl, -⟩ := List.append_inj' split rfl
      exact .inr ⟨j, rest, t, call, rfl, owned, is, index, callee⟩
  · rintro (⟨rfl, call, is, index, callee⟩ | ⟨j, rest, t, call, rfl, owned, is, index, callee⟩)
    · exact ⟨i, [], s, call, rfl, above, is, index, callee⟩
    · refine ⟨j, rest ++ [i], t, call, ?_, owned, is, index, callee⟩
      rw [List.append_assoc, List.cons_append]

variable (d src body) in
/-- The callee of the innermost call in whose arguments a node stands, if there is one. -/
def InnermostCallee (a : Address) : Option String → Prop
  | some callee => ∃ b, Innermost d src body a b callee
  | none => ∀ b callee, ¬ ArgumentOf d src body a b callee

theorem innermostCallee_nil : InnermostCallee d src body [] none := by
  intro b callee argument
  exact Nat.not_lt_zero _ argument.length_lt

theorem InnermostCallee.concat {callee : Option String} (above : Owned d body a s)
    (innermost : InnermostCallee d src body a callee) (i : Nat) :
    InnermostCallee d src body (a ++ [i]) (s.calleeBelow d src callee i) := by
  by_cases own : ∃ call, s.call? d src = some call ∧ call.argumentsIndex? s.tree = some i
  · obtain ⟨call, is, index⟩ := own
    have nearest : ArgumentOf d src body (a ++ [i]) a call.callee :=
      (argumentOf_concat_iff above).mpr (.inl ⟨rfl, call, is, index, rfl⟩)
    have below : s.calleeBelow d src callee i = some call.callee := by
      rw [Spot.calleeBelow, is]
      exact if_pos index
    rw [below]
    -- No call around the child lies deeper than its parent.
    refine ⟨a, nearest, fun b callee other => ?_⟩
    have shorter := other.length_lt
    rw [List.length_append, List.length_singleton] at shorter
    exact Nat.le_of_lt_succ shorter
  · have below : s.calleeBelow d src callee i = callee := by
      unfold Spot.calleeBelow
      split
      · next call is => exact if_neg fun index => own ⟨call, is, index⟩
      · rfl
    have same : ∀ b x, ArgumentOf d src body (a ++ [i]) b x ↔ ArgumentOf d src body a b x := by
      intro b x
      rw [argumentOf_concat_iff above, or_iff_right]
      rintro ⟨-, call, is, index, -⟩
      exact own ⟨call, is, index⟩
    rw [below]
    cases callee with
    | none => simpa only [InnermostCallee, same] using innermost
    | some callee => simpa only [InnermostCallee, Innermost, same] using innermost

theorem bodyMode_of_noType {t : Tree} {callee : Option String}
    (noType : d.declaresType t.kind = false) : bodyMode d callee t = .body callee :=
  if_neg (Bool.eq_false_iff.mp noType)

/-- The walk through the body of a method meets the nodes that the method owns, each with its
innermost callee. -/
theorem Comes.inBody {m : Mode}
    (comes : Comes d src Mode.inBody body (bodyMode d none body.tree) a m s) :
    m = .type ∧ d.declaresType s.tree.kind = true ∨
      ∃ callee, m = .body callee ∧ Owned d body a s ∧ InnermostCallee d src body a callee := by
  induction comes with
  | start =>
      cases type : d.declaresType body.tree.kind with
      | true => exact .inl ⟨if_pos type, rfl⟩
      | false =>
          exact .inr ⟨none, bodyMode_of_noType type, .body type, innermostCallee_nil⟩
  | @step a m m' s i c here child leads kept ih =>
      rcases ih with ⟨rfl, -⟩ | ⟨callee, rfl, above, innermost⟩
      · -- A type declared in the body is met, but not entered.
        cases leads with
        | typeBody body => cases kept
      · cases leads with
        | inner noLiteral named is =>
            cases type : d.declaresType c.kind with
            | true =>
                rw [bodyMode, if_pos type] at is
                exact .inl ⟨is, rfl⟩
            | false =>
                rw [bodyMode_of_noType type] at is
                exact .inr ⟨_, is, .child above child named type noLiteral,
                  innermost.concat above i⟩

variable (src) in
theorem Owned.comes (owned : Owned d body a s) :
    ∃ callee, Comes d src Mode.inBody body (bodyMode d none body.tree) a (.body callee) s := by
  induction owned with
  | body noType =>
      rw [bodyMode_of_noType noType]
      exact ⟨none, .start⟩
  | @child a s i c above child named noType noLiteral ih =>
      obtain ⟨callee, here⟩ := ih
      refine ⟨s.calleeBelow d src callee i, here.step child (.inner noLiteral named ?_) rfl⟩
      exact (bodyMode_of_noType noType).symm

theorem Met.methodBody {root : Tree} {body : Tree} (method : Met d src root a .method s)
    (is : d.methodBody? s.tree = some body) :
    ∃ i, Met d src root (a ++ [i]) (bodyMode d none body) ⟨body, s.tree :: s.around⟩ := by
  obtain ⟨found, i, bound, rfl, before⟩ := List.find?_eq_some_iff_getElem.mp is
  refine ⟨i, method.step (List.getElem?_eq_getElem bound) (.methodBody ?_ rfl) rfl⟩
  exact List.findIdx?_eq_some_iff_getElem.mpr ⟨bound, found, by simpa using before⟩

end Syntax

end LayerLint
