import LayerLint.Extract
import LayerLint.Proofs.Syntax.Walk
import Mathlib.Logic.Relation

/-! The root name of an expression, found without a bound on the links to it. What a node is built
on is one of its parts, whatever comments and directives stand beside it. The receiver of a call is
looked up in the same way for at most 64 nodes, but from parentheses and casts it goes to the last
node in them, also if that is a comment or a directive. -/

namespace LayerLint.Syntax

open Text

/-! ### Resolution -/

/-- The named children, without the comments and directives that may stand anywhere. -/
def Tree.parts (t : Tree) : List Tree :=
  t.namedChildren.filter (!isExtra ·)

section

variable (src : Source)

/-- The expression that a node is built on, and whose root it has. An object that stands for the
class itself is none. -/
def innerExpression? (t : Tree) : Option Tree :=
  match t.kind with
  | .fieldAccess | .methodInvocation => (t.child? .object).filter (!isSelf src ·)
  | .memberAccess => (t.child? .expression).filter (!isSelf src ·)
  | .invocation => t.child? .function
  | .arrayAccess => t.child? .array
  | .elementAccess => t.child? .expression
  | .conditionalAccess => (t.child? .condition).or t.parts.head?
  | .parenthesizedExpression | .castExpression => t.parts.getLast?
  | _ => none

/-- The simple name of a member, if it is the member of anything. -/
def memberName (t : Tree) (owner member : Label) : String :=
  if (t.child? owner).isSome then ((t.child? member).map fun m => simpleName (m.text src)).getD ""
  else ""

/-- The root name of a node that is built on no other expression. -/
def ownName (t : Tree) : String :=
  match t.kind with
  | .identifier => t.text src
  | .genericName | .typeIdentifier => simpleName (t.text src)
  | .fieldAccess => memberName src t .object .field
  | .memberAccess => memberName src t .expression .name
  | .methodInvocation => ((t.child? .name).map (·.text src)).getD ""
  | _ => ""

end

/-- The root name of an expression, empty when there is none, and the number of links to it. -/
structure Resolution where
  name : String
  links : Nat
  deriving DecidableEq, Repr

def Resolution.within (limit : Nat) (r : Resolution) : String :=
  if r.links ≤ limit then r.name else ""

variable {src : Source} {t u c : Tree} {n : Nat}

theorem Tree.sizeOf_lt_of_mem (child : c ∈ t.children) : sizeOf c < sizeOf t := by
  cases t with
  | node tag children =>
      have smaller : sizeOf c < sizeOf children := List.sizeOf_lt_of_mem child
      simp only [node.sizeOf_spec]
      omega

theorem mem_children_of_innerExpression? (inner : innerExpression? src t = some u) :
    u ∈ t.children := by
  have labelled {l : Label} (is : t.child? l = some u) : u ∈ t.children :=
    List.mem_of_find?_eq_some is
  have part (is : u ∈ t.parts) : u ∈ t.children :=
    List.mem_of_mem_filter (List.mem_of_mem_filter is)
  unfold innerExpression? at inner
  split at inner
  · exact labelled (Option.filter_eq_some_iff.mp inner).1
  · exact labelled (Option.filter_eq_some_iff.mp inner).1
  · exact labelled (Option.filter_eq_some_iff.mp inner).1
  · exact labelled inner
  · exact labelled inner
  · exact labelled inner
  · rcases Option.or_eq_some_iff.mp inner with is | ⟨-, first⟩
    · exact labelled is
    · exact part (List.mem_of_head? first)
  · exact part (List.mem_of_getLast? inner)
  · exact part (List.mem_of_getLast? inner)
  · cases inner

variable (src) in
/-- The root name of an expression, through all the expressions that it is built on. -/
def resolve (t : Tree) : Resolution :=
  match _inner : innerExpression? src t with
  | some u => { resolve u with links := (resolve u).links + 1 }
  | none => ⟨ownName src t, 0⟩
termination_by sizeOf t
decreasing_by all_goals exact t.sizeOf_lt_of_mem (mem_children_of_innerExpression? _inner)

theorem resolve_of_inner (inner : innerExpression? src t = some u) :
    resolve src t = ⟨(resolve src u).name, (resolve src u).links + 1⟩ := by
  rw [resolve]
  split
  · next w is =>
      obtain rfl := Option.some.inj (inner.symm.trans is)
      rfl
  · next is => cases inner.symm.trans is

theorem resolve_of_none (alone : innerExpression? src t = none) :
    resolve src t = ⟨ownName src t, 0⟩ := by
  rw [resolve]
  split
  · next w is => cases alone.symm.trans is
  · rfl

/-! ### One link -/

variable (src t) in
/-- Where a link goes, next to where the resolution goes. They part only where the link leads to a
comment or a directive. -/
def Along : Prop :=
  (∃ c, link src t = .follow c ∧ isExtra c = true) ∨
    (∃ u, innerExpression? src t = some u ∧ link src t = .follow u) ∨
    (innerExpression? src t = none ∧
      (link src t = .found (ownName src t) ∨ link src t = .lost ∧ ownName src t = ""))

theorem along_of_ofTree? {o : Option Tree} (inner : innerExpression? src t = o)
    (goes : link src t = .ofTree? o) (unnamed : ownName src t = "") : Along src t := by
  cases o with
  | none => exact .inr (.inr ⟨inner, .inr ⟨goes, unnamed⟩⟩)
  | some u => exact .inr (.inl ⟨u, inner, goes⟩)

theorem along_of_accessLink {owner member : Label}
    (inner : innerExpression? src t = (t.child? owner).filter (!isSelf src ·))
    (goes : link src t = accessLink src t owner member)
    (named : ownName src t = memberName src t owner member) : Along src t := by
  unfold accessLink at goes
  unfold memberName at named
  cases owned : t.child? owner with
  | none =>
      simp only [owned, Option.filter_none, Option.isSome_none] at inner goes named
      exact .inr (.inr ⟨inner, .inr ⟨goes, named⟩⟩)
  | some o =>
      simp only [owned, Option.filter_some, Option.isSome_some] at inner goes named
      cases self : isSelf src o with
      | true =>
          simp only [self, Bool.not_true, if_true] at inner goes named
          exact .inr (.inr ⟨inner, .inl (goes.trans (by rw [named]))⟩)
      | false =>
          simp only [self, Bool.not_false, if_true] at inner goes
          exact .inr (.inl ⟨o, inner, goes⟩)

/-- The last node in a pair of parentheses or in a cast is its last part, or an extra. -/
theorem along_of_getLast? (inner : innerExpression? src t = t.parts.getLast?)
    (goes : link src t = .ofTree? t.namedChildren.getLast?) (unnamed : ownName src t = "") :
    Along src t := by
  cases last : t.namedChildren.getLast? with
  | none =>
      have empty : t.parts = [] := by rw [Tree.parts, List.getLast?_eq_none_iff.mp last]; rfl
      rw [empty] at inner
      rw [last] at goes
      exact along_of_ofTree? inner goes unnamed
  | some c =>
      rw [last] at goes
      cases extra : isExtra c with
      | true => exact .inl ⟨c, goes, extra⟩
      | false =>
          obtain ⟨before, all⟩ := List.getLast?_eq_some_iff.mp last
          have here : t.parts.getLast? = some c := by
            rw [Tree.parts, all, List.filter_append]
            simp [extra]
          exact along_of_ofTree? (inner.trans here) goes unnamed

/-- A conditional access without a labelled condition is on the first node in it. -/
theorem along_of_condition
    (inner : innerExpression? src t = (t.child? .condition).or t.parts.head?)
    (goes : link src t = .ofTree? ((t.child? .condition).or t.namedChildren.head?))
    (unnamed : ownName src t = "") : Along src t := by
  cases condition : t.child? .condition with
  | some o =>
      rw [condition] at inner goes
      exact along_of_ofTree? inner goes unnamed
  | none =>
      rw [condition, Option.none_or] at inner goes
      rw [Tree.parts] at inner
      cases named : t.namedChildren with
      | nil =>
          rw [named] at inner goes
          exact along_of_ofTree? inner goes unnamed
      | cons c cs =>
          rw [named] at inner goes
          cases extra : isExtra c with
          | true => exact .inl ⟨c, goes, extra⟩
          | false =>
              rw [List.filter_cons_of_pos (by rw [extra]; rfl)] at inner
              exact along_of_ofTree? inner goes unnamed

variable (src t) in
theorem along : Along src t := by
  have alone (inner : innerExpression? src t = none) (goes : link src t = .found (ownName src t)) :
      Along src t := .inr (.inr ⟨inner, .inl goes⟩)
  fun_cases link src t with
  | case1 is => exact alone (by rw [innerExpression?, is]) (by rw [link, ownName, is])
  | case2 is => exact alone (by rw [innerExpression?, is]) (by rw [link, ownName, is])
  | case3 is => exact alone (by rw [innerExpression?, is]) (by rw [link, ownName, is])
  | case4 is =>
      exact along_of_accessLink (by rw [innerExpression?, is]) (by rw [link, is])
        (by rw [ownName, is])
  | case5 is =>
      exact along_of_accessLink (by rw [innerExpression?, is]) (by rw [link, is])
        (by rw [ownName, is])
  | case6 is o other =>
      exact .inr (.inl ⟨o, by rw [innerExpression?, is, other], by rw [link, is, other]⟩)
  | case7 is none =>
      exact alone (by rw [innerExpression?, is, none]) (by rw [link, ownName, is, none])
  | case8 is =>
      exact along_of_ofTree? (by rw [innerExpression?, is]) (by rw [link, is])
        (by rw [ownName, is])
  | case9 is =>
      exact along_of_ofTree? (by rw [innerExpression?, is]) (by rw [link, is])
        (by rw [ownName, is])
  | case10 is =>
      exact along_of_ofTree? (by rw [innerExpression?, is]) (by rw [link, is])
        (by rw [ownName, is])
  | case11 is =>
      exact along_of_condition (by rw [innerExpression?, is]) (by rw [link, is])
        (by rw [ownName, is])
  | case12 is =>
      exact along_of_getLast? (by rw [innerExpression?, is]) (by rw [link, is])
        (by rw [ownName, is])
  | case13 is =>
      exact along_of_getLast? (by rw [innerExpression?, is]) (by rw [link, is])
        (by rw [ownName, is])
  | case14 =>
      have inner : innerExpression? src t = none := by
        unfold innerExpression?
        split <;> simp_all only [imp_false, not_true_eq_false]
      have goes : link src t = .lost := by
        unfold link
        split <;> simp_all only [imp_false, not_true_eq_false]
      have unnamed : ownName src t = "" := by
        unfold ownName
        split <;> simp_all only [imp_false, not_true_eq_false]
      exact .inr (.inr ⟨inner, .inr ⟨goes, unnamed⟩⟩)

/-! ### Chains -/

variable (src) in
/-- The chain from a node leads to a comment or a directive. -/
inductive RunsIntoExtra : Tree → Prop
  | here {t c : Tree} (follows : link src t = .follow c) (extra : isExtra c = true) :
      RunsIntoExtra t
  | later {t c : Tree} (follows : link src t = .follow c) (runs : RunsIntoExtra c) :
      RunsIntoExtra t

variable (src) in
def BuiltOn : Tree → Tree → Prop :=
  Relation.ReflTransGen fun t u => innerExpression? src t = some u

theorem hintWithin_extra (extra : isExtra t = true) : hintWithin src n t = "" := by
  cases n with
  | zero => rfl
  | succ n =>
      unfold isExtra at extra
      rw [hintWithin, link]
      split at extra
      · next is => rw [is]
      · next is => rw [is]
      · next is => rw [is]
      · next is => rw [is]
      · cases extra

theorem RunsIntoExtra.hintWithin_eq (runs : RunsIntoExtra src t) (n : Nat) :
    hintWithin src n t = "" := by
  induction runs generalizing n with
  | here follows extra =>
      cases n with
      | zero => rfl
      | succ n =>
          rw [hintWithin, follows]
          exact hintWithin_extra extra
  | later follows runs ih =>
      cases n with
      | zero => rfl
      | succ n =>
          rw [hintWithin, follows]
          exact ih n

variable (n) in
/-- Within `n` nodes a chain has fewer than `n` links. -/
theorem hintWithin_eq_resolve (clear : ¬ RunsIntoExtra src t) :
    hintWithin src n t = if (resolve src t).links < n then (resolve src t).name else "" := by
  induction n generalizing t with
  | zero => rfl
  | succ n ih =>
      rw [hintWithin]
      rcases along src t with ⟨c, follows, extra⟩ | ⟨u, inner, follows⟩ | ⟨alone, goes⟩
      · exact absurd (.here follows extra) clear
      · rw [follows, resolve_of_inner inner]
        simpa using ih fun runs => clear (.later follows runs)
      · rw [resolve_of_none alone, if_pos (Nat.succ_pos n)]
        rcases goes with found | ⟨lost, unnamed⟩
        · rw [found]
        · rw [lost, unnamed]

theorem receiverHint_eq_resolve (clear : ¬ RunsIntoExtra src t) :
    receiverHint src t = (resolve src t).within 63 := by
  rw [receiverHint, hintWithin_eq_resolve _ clear, chainLimit, Resolution.within]
  simp only [Nat.lt_succ_iff]

theorem BuiltOn.resolve_eq (built : BuiltOn src t u) :
    (resolve src t).name = (resolve src u).name ∧
      (resolve src u).links ≤ (resolve src t).links := by
  induction built with
  | refl => exact ⟨rfl, Nat.le_refl _⟩
  | tail built inner ih =>
      rw [resolve_of_inner inner] at ih
      exact ⟨ih.1, Nat.le_trans (Nat.le_succ _) ih.2⟩

theorem BuiltOn.clear (built : BuiltOn src t u) (clear : ¬ RunsIntoExtra src t) :
    ¬ RunsIntoExtra src u := by
  induction built with
  | refl => exact clear
  | @tail v w built inner ih =>
      intro runs
      rcases along src v with ⟨c, follows, extra⟩ | ⟨u, is, follows⟩ | ⟨alone, -⟩
      · exact ih (.here follows extra)
      · obtain rfl := Option.some.inj (inner.symm.trans is)
        exact ih (.later follows runs)
      · cases inner.symm.trans alone

/-- The receiver of a call is what the resolution finds within 63 links, except where the chain runs
into a comment or a directive on the way to a name. It is empty if there are more links, and
it is the receiver of every expression that a chain within the bound is built on. -/
theorem receiverHint_eq_resolve_iff (src : Source) (t : Tree) :
    (receiverHint src t = (resolve src t).within 63 ↔
        ¬ (RunsIntoExtra src t ∧ (resolve src t).within 63 ≠ "")) ∧
      (63 < (resolve src t).links → receiverHint src t = "") ∧
      ∀ u, BuiltOn src t u → (resolve src t).links ≤ 63 → ¬ RunsIntoExtra src t →
        receiverHint src t = receiverHint src u := by
  have same : receiverHint src t = (resolve src t).within 63 ↔
      ¬ (RunsIntoExtra src t ∧ (resolve src t).within 63 ≠ "") := by
    by_cases runs : RunsIntoExtra src t
    · have empty : receiverHint src t = "" := runs.hintWithin_eq chainLimit
      simp only [empty, runs, true_and, ne_eq, not_not, eq_comm]
    · exact iff_of_true (receiverHint_eq_resolve runs) fun both => runs both.1
  refine ⟨same, fun far => ?_, fun u built near clear => ?_⟩
  · have empty : (resolve src t).within 63 = "" := if_neg (Nat.not_le.mpr far)
    exact (same.mpr fun both => both.2 empty).trans empty
  · obtain ⟨name, fewer⟩ := built.resolve_eq
    calc receiverHint src t = (resolve src t).within 63 := receiverHint_eq_resolve clear
      _ = (resolve src t).name := if_pos near
      _ = (resolve src u).name := name
      _ = (resolve src u).within 63 := (if_pos (Nat.le_trans fewer near)).symm
      _ = receiverHint src u := (receiverHint_eq_resolve (built.clear clear)).symm

/-- `(a).b` has the root of the `a` in it. -/
theorem receiverHint_eq_of_builtOn_parentheses :
    let src := Source.ofString "(a).b"
    let a := Tree.onFirstLine .identifier none 1 2 []
    let group := Tree.onFirstLine .parenthesizedExpression (some .object) 0 3
      [.onFirstLine (.token "(") none 0 1 [], a, .onFirstLine (.token ")") none 2 3 []]
    let access := Tree.onFirstLine .fieldAccess none 0 5
      [group, .onFirstLine (.token ".") none 3 4 [], .onFirstLine .identifier (some .field) 4 5 []]
    resolve src access = ⟨"a", 2⟩ ∧ receiverHint src access = "a" ∧
      receiverHint src access = receiverHint src a := by
  intro src a group access
  have found : resolve src access = ⟨"a", 2⟩ := by decide +kernel
  have hint : receiverHint src access = "a" := by decide +kernel
  have other : isSelf src group = false := by decide +kernel
  have outer : innerExpression? src access = some group := by
    rw [show innerExpression? src access = (some group).filter (!isSelf src ·) from rfl,
      Option.filter_some, other]
    rfl
  have inner : innerExpression? src group = some a := rfl
  have general := receiverHint_eq_resolve_iff src access
  rw [found] at general
  have clear : ¬ RunsIntoExtra src access := fun runs => general.1.mp hint ⟨runs, by decide⟩
  exact ⟨found, hint, general.2.2 a (.head outer (.single inner)) (by decide) clear⟩

/-- With a comment behind it, the name in parentheses is not found. -/
theorem receiverHint_empty_before_comment :
    let src := Source.ofString "class A \x7b void m() \x7b (x /* c */).f(); \x7d \x7d"
    let root := Dialect.java.parse src
    firstFlaw root = none ∧
      ((root.spot.at? [0, 2, 1, 3, 1, 0, 0]).map fun s =>
        (s.tree.text src, resolve src s.tree, receiverHint src s.tree)) =
          some ("(x /* c */)", ⟨"x", 1⟩, "") := by
  decide +kernel

end LayerLint.Syntax
