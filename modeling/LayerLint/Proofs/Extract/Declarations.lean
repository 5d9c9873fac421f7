import LayerLint.Proofs.Extract.Outcome
import Mathlib.Data.List.Nodup
import Mathlib.Data.List.Perm.Subperm

/-! Which type declarations have models. The walk looks for types in files and namespaces, among the
members of types and in the bodies of methods, and goes past all else: a type declared in the
initializer of a field, in an initializer block or in an accessor has no model. -/

namespace LayerLint

open Syntax

namespace Dialect

variable {d : Dialect} {src : Source} {t : Tree}

theorem kind_of_importName? (imports : (d.importName? src t).isSome = true) :
    d = .java ∧ t.kind = .importDeclaration ∨ d = .csharp ∧ t.kind = .usingDirective := by
  cases d with
  | java =>
      by_cases kind : t.kind = .importDeclaration
      · exact .inl ⟨rfl, kind⟩
      · simp [importName?, kind] at imports
  | csharp =>
      by_cases kind : t.kind = .usingDirective
      · exact .inr ⟨rfl, kind⟩
      · simp [importName?, kind] at imports

theorem declaresType_of_importName? (imports : (d.importName? src t).isSome = true) :
    d.declaresType t.kind = false := by
  rcases kind_of_importName? imports with ⟨rfl, kind⟩ | ⟨rfl, kind⟩ <;> rw [kind] <;> rfl

theorem isComment_of_importName? (imports : (d.importName? src t).isSome = true) :
    d.isComment t.kind = false := by
  rcases kind_of_importName? imports with ⟨rfl, kind⟩ | ⟨rfl, kind⟩ <;> rw [kind] <;> rfl

theorem isNamed_of_importName? (imports : (d.importName? src t).isSome = true) :
    t.isNamed = true := by
  unfold Tree.isNamed
  rcases kind_of_importName? imports with ⟨-, kind⟩ | ⟨-, kind⟩ <;> rw [kind] <;> rfl

/-- A type declaration is neither a comment nor a branch nor a literal. -/
theorem plain_of_declaresType {kind : Kind} (type : d.declaresType kind = true) :
    d.isComment kind = false ∧ d.construct? kind = none ∧ d.literalKind? kind = none := by
  unfold declaresType at type
  split at type
  case h_12 => cases type
  all_goals exact ⟨rfl, rfl, rfl⟩

end Dialect

namespace Syntax

variable (d : Dialect) (src : Source)

/-! ### What the walk goes past -/

/-- Why the walk goes past a child of a node that it meets in a mode. -/
inductive PassesOver (s : Spot) (i : Nat) (c : Tree) : Mode → Prop
  | token {m : Mode} (unnamed : c.isNamed = false) (noBody : m ≠ .type ∧ m ≠ .method) :
      PassesOver s i c m
  | comment (comment : d.isComment c.kind = true) : PassesOver s i c .scope
  | importing : PassesOver s i c .importing
  | besideTypeBody (other : s.tree.children.findIdx? (·.label == some .body) ≠ some i) :
      PassesOver s i c .type
  | member (noType : d.declaresType c.kind = false) (noGroup : d.groupsMembers c.kind = false)
      (noMethod : d.declaresMethod c.kind = false ∨ d.methodBody? c = none) :
      PassesOver s i c .members
  | besideMethodBody (other : s.tree.children.findIdx? (d.isMethodBody s.tree) ≠ some i) :
      PassesOver s i c .method
  | literal {callee : Option String} (literal : d.literalKind? s.tree.kind ≠ none) :
      PassesOver s i c (.body callee)

variable {d src} {s : Spot} {i : Nat} {c : Tree} {m : Mode}

theorem Leads.isNamed {m' : Mode} (leads : Leads d src s i c m m') :
    (m = .type ∨ m = .method) ∨ c.isNamed = true := by
  cases leads with
  | typeBody body => exact .inl (.inl rfl)
  | methodBody body is => exact .inl (.inr rfl)
  | scope named | importing named | declaration named | nested named | group named
  | method named | inner _ named => exact .inr named

theorem PassesOver.not_leads (past : PassesOver d s i c m) {m' : Mode} :
    ¬ Leads d src s i c m m' := by
  intro leads
  cases past with
  | token unnamed noBody =>
      rcases leads.isNamed with (type | method) | named
      · exact noBody.1 type
      · exact noBody.2 method
      · exact Bool.false_ne_true (unnamed.symm.trans named)
  | comment comment =>
      have code : d.isComment c.kind = false := by
        cases leads with
        | scope named plain noType code => exact code
        | importing named imports => exact Dialect.isComment_of_importName? imports
        | declaration named plain type => exact (Dialect.plain_of_declaresType type).1
      exact Bool.false_ne_true (code.symm.trans comment)
  | importing => cases leads
  | besideTypeBody other =>
      cases leads with
      | typeBody body => exact other body
  | member noType noGroup noMethod =>
      cases leads with
      | nested named type => exact Bool.false_ne_true (noType.symm.trans type)
      | group named noType group => exact Bool.false_ne_true (noGroup.symm.trans group)
      | method named noType noGroup method body =>
          rcases noMethod with noMethod | noBody
          · exact Bool.false_ne_true (noMethod.symm.trans method)
          · rw [noBody] at body
            cases body
  | besideMethodBody other =>
      cases leads with
      | methodBody body is => exact other body
  | literal literal =>
      cases leads with
      | inner noLiteral named is => exact literal noLiteral

variable (d src s i c m) in
/-- At each child the walk goes on, or goes past it for a reason. -/
theorem leads_or_passesOver : (∃ m', Leads d src s i c m m') ∨ PassesOver d s i c m := by
  cases m with
  | scope =>
      cases named : c.isNamed with
      | false => exact .inr (.token named (by simp))
      | true =>
          cases plain : d.importName? src c with
          | some name => exact .inl ⟨_, .importing named (by rw [plain]; rfl)⟩
          | none =>
              cases type : d.declaresType c.kind with
              | true => exact .inl ⟨_, .declaration named plain type⟩
              | false =>
                  cases comment : d.isComment c.kind with
                  | true => exact .inr (.comment comment)
                  | false => exact .inl ⟨_, .scope named plain type comment⟩
  | importing => exact .inr .importing
  | type =>
      by_cases body : s.tree.children.findIdx? (·.label == some .body) = some i
      · exact .inl ⟨_, .typeBody body⟩
      · exact .inr (.besideTypeBody body)
  | members =>
      cases named : c.isNamed with
      | false => exact .inr (.token named (by simp))
      | true =>
          cases type : d.declaresType c.kind with
          | true => exact .inl ⟨_, .nested named type⟩
          | false =>
              cases group : d.groupsMembers c.kind with
              | true => exact .inl ⟨_, .group named type group⟩
              | false =>
                  cases method : d.declaresMethod c.kind with
                  | false => exact .inr (.member type group (.inl method))
                  | true =>
                      cases body : d.methodBody? c with
                      | none => exact .inr (.member type group (.inr body))
                      | some _ =>
                        exact .inl ⟨_, .method named type group method (by rw [body]; rfl)⟩
  | method =>
      by_cases body : s.tree.children.findIdx? (d.isMethodBody s.tree) = some i
      · exact .inl ⟨_, .methodBody body rfl⟩
      · exact .inr (.besideMethodBody body)
  | body callee =>
      cases named : c.isNamed with
      | false => exact .inr (.token named (by simp))
      | true =>
          by_cases literal : d.literalKind? s.tree.kind = none
          · exact .inl ⟨_, .inner literal named rfl⟩
          · exact .inr (.literal literal)

/-! ### Declared types and the types met -/

variable (d) in
def Declares (root : Tree) (a : Address) (s : Spot) : Prop :=
  root.spot.at? a = some s ∧ d.declaresType s.tree.kind = true

variable (d src) in
/-- The walk goes past the node at an address or past a node around it. -/
inductive GoesPast (root : Tree) : Address → Prop
  | of_child {a : Address} {m : Mode} {s : Spot} {i : Nat} {c : Tree}
      (here : Met d src root a m s) (child : s.tree.children[i]? = some c)
      (past : PassesOver d s i c m) (rest : Address) : GoesPast root (a ++ i :: rest)

variable (d src) in
/-- Where a type declaration is missed. A file and the body of a type are taken for what they stand
for, whatever they declare; all else that is missed is gone past. -/
inductive Missed (root : Tree) : Address → Prop
  | file : Missed root []
  | typeBody {a : Address} {s : Spot} {i : Nat} (type : Met d src root a .type s)
      (body : s.tree.children.findIdx? (·.label == some .body) = some i) : Missed root (a ++ [i])
  | past {a : Address} (past : GoesPast d src root a) : Missed root a

variable {root : Tree} {a : Address}

theorem Leads.declares {m' : Mode} (leads : Leads d src s i c m m') :
    m' = .type ∧ d.declaresType c.kind = true ∨
      m' ≠ .type ∧ (d.declaresType c.kind = false ∨ m = .type) := by
  have ofBody (callee : Option String) :
      bodyMode d callee c = .type ∧ d.declaresType c.kind = true ∨
      bodyMode d callee c ≠ .type ∧ d.declaresType c.kind = false := by
    cases type : d.declaresType c.kind <;> simp [bodyMode, type]
  cases leads with
  | scope named plain noType code => exact .inr ⟨nofun, .inl noType⟩
  | importing named imports =>
      exact .inr ⟨nofun, .inl (Dialect.declaresType_of_importName? imports)⟩
  | declaration named plain type => exact .inl ⟨rfl, type⟩
  | typeBody body => exact .inr ⟨nofun, .inr rfl⟩
  | nested named type => exact .inl ⟨rfl, type⟩
  | group named noType group => exact .inr ⟨nofun, .inl noType⟩
  | method named noType noGroup method body => exact .inr ⟨nofun, .inl noType⟩
  | methodBody body is =>
      rw [is]
      exact (ofBody none).imp_right fun other => ⟨other.1, .inl other.2⟩
  | inner noLiteral named is =>
      rw [is]
      exact (ofBody _).imp_right fun other => ⟨other.1, .inl other.2⟩

theorem GoesPast.append (past : GoesPast d src root a) (b : Address) :
    GoesPast d src root (a ++ b) := by
  obtain ⟨here, child, reason, rest⟩ := past
  rw [List.append_assoc, List.cons_append]
  exact .of_child here child reason (rest ++ b)

theorem GoesPast.not_met (past : GoesPast d src root a) : ¬ Met d src root a m s := by
  obtain ⟨here, child, reason, rest⟩ := past
  intro comes
  obtain ⟨above, spot, c, m', there, same, leads⟩ := comes.of_append
  obtain ⟨rfl, rfl⟩ := here.unique there
  obtain rfl := Option.some.inj (child.symm.trans same)
  exact reason.not_leads leads

variable (d src) in
/-- The walk comes to every node or goes past it. -/
theorem met_or_goesPast (node : root.spot.at? a = some s) :
    (∃ m, Met d src root a m s) ∨ GoesPast d src root a := by
  induction a using List.reverseRecOn generalizing s with
  | nil =>
      obtain rfl := Option.some.inj node
      exact .inl ⟨_, .start⟩
  | append_singleton a i ih =>
      rw [Spot.at?_concat] at node
      obtain ⟨above, there, below⟩ := Option.bind_eq_some_iff.mp node
      obtain ⟨c, child, rfl⟩ := Option.map_eq_some_iff.mp below
      rcases ih there with ⟨m, comes⟩ | past
      · rcases leads_or_passesOver d src above i c m with ⟨m', leads⟩ | reason
        · exact .inl ⟨m', comes.step child leads rfl⟩
        · exact .inr (.of_child comes child reason [])
      · exact .inr (past.append [i])

/-- The types met are the declared types that are not missed. -/
theorem met_type_iff :
    Met d src root a .type s ↔ Declares d root a s ∧ ¬ Missed d src root a := by
  constructor
  · intro comes
    refine ⟨⟨comes.at?, ?_⟩, fun missed => ?_⟩
    · cases comes with
      | step here child leads kept =>
          rcases leads.declares with ⟨-, type⟩ | ⟨other, -⟩
          · exact type
          · exact absurd rfl other
    · cases missed with
      | file => exact absurd (comes.unique .start).1 nofun
      | typeBody type body =>
          obtain ⟨above, spot, c, m', there, child, leads⟩ := comes.of_append
          obtain ⟨rfl, rfl⟩ := type.unique there
          exact absurd (comes.unique (type.step child (.typeBody body) rfl)).1 nofun
      | past past => exact past.not_met comes
  · rintro ⟨⟨node, type⟩, met⟩
    rcases met_or_goesPast d src node with ⟨m, comes⟩ | past
    · cases comes with
      | start => exact absurd .file met
      | step here child leads kept =>
          rcases leads.declares with ⟨rfl, -⟩ | ⟨-, noType | rfl⟩
          · exact here.step child leads rfl
          · exact absurd (type.symm.trans noType) nofun
          · cases leads with
            | typeBody body => exact absurd (.typeBody here body) met
    · exact absurd (.past past) met

/-! ### One model for each type met -/

variable (d src root) in
def typesMet : List (Address × Spot) :=
  spotsIn d src (fun _ => true) root.spot .scope .type

variable (d src root) in
theorem map_typesMet : (typesMet d src root).map (·.2.tree) =
    ((visitsOfFile d src root).filter (·.mode == .type)).map Visit.tree := by
  rw [typesMet, spotsIn, List.map_map, ← map_addressedFile, List.filter_map, List.map_map]
  rfl

end Syntax

variable {d : Dialect} {src : Source} {maxNesting : Nat} {root : Tree}

theorem classesOf_eq_typesMet (passes : ∀ v ∈ visitsOfFile d src root, v.Passes d src maxNesting) :
    classesOf d src maxNesting root = .models ((typesMet d src root).map fun x =>
      classModel d src (importsOf d src root) x.2.tree) := by
  have models := map_typesMet d src root
  rw [classesOf_eq_models_iff]
  refine ⟨passes, ?_⟩
  calc (typesMet d src root).map (fun x => classModel d src (importsOf d src root) x.2.tree)
      = ((typesMet d src root).map (·.2.tree)).map (classModel d src (importsOf d src root)) := by
        rw [List.map_map]; rfl
    _ = _ := by rw [models, List.map_map]; rfl

variable (d src maxNesting root) in
def CollectsEvery : Prop :=
  ∃ types : List (Address × Spot), types.Nodup ∧ (∀ a s, (a, s) ∈ types ↔ Declares d root a s) ∧
    ∃ classes, classesOf d src maxNesting root = .models classes ∧
      classes.Perm (types.map fun x => classModel d src (importsOf d src root) x.2.tree)

/-- Every type declaration of a tree has one model, except those that are missed. The models stand
in the order of the declarations, and they cover the tree exactly if no declaration is missed. -/
theorem classesOf_collects_types
    (passes : ∀ v ∈ visitsOfFile d src root, v.Passes d src maxNesting) :
    (∃ types : List (Address × Spot), (types.map Prod.fst).Pairwise (· < ·) ∧
      (∀ a s, (a, s) ∈ types ↔ Declares d root a s ∧ ¬ Missed d src root a) ∧
      classesOf d src maxNesting root = .models (types.map fun x =>
        classModel d src (importsOf d src root) x.2.tree)) ∧
    (CollectsEvery d src maxNesting root ↔ ∀ a s, Declares d root a s → ¬ Missed d src root a) := by
  have member : ∀ a s, (a, s) ∈ typesMet d src root ↔
      Declares d root a s ∧ ¬ Missed d src root a := fun a s => mem_spotsIn.trans met_type_iff
  have models := classesOf_eq_typesMet passes
  have ordered : ((typesMet d src root).map Prod.fst).Pairwise (· < ·) := pairwise_spotsIn ..
  have nodup := List.Nodup.of_map Prod.fst (nodup_of_pairwise_lt ordered)
  refine ⟨⟨_, ordered, member, models⟩, ?_, fun all => ?_⟩
  · rintro ⟨types, distinct, declared, classes, collected, same⟩ a s declares
    rw [models] at collected
    obtain rfl := Extraction.models.inj collected
    -- As many types are met as are declared, and all types met are declared.
    have few : types.length ≤ (typesMet d src root).length := by
      simpa using same.length_eq.ge
    have sub : typesMet d src root ⊆ types := by
      rintro ⟨b, t⟩ met
      exact (declared b t).mpr ((member b t).mp met).1
    have perm := (List.subperm_of_subset nodup sub).perm_of_length_le few
    exact ((member a s).mp (perm.mem_iff.mpr ((declared a s).mpr declares))).2
  · refine ⟨_, nodup, fun a s => ?_, _, models, .refl _⟩
    rw [member]
    exact ⟨And.left, fun declares => ⟨declares, all a s declares⟩⟩

/-- The class `B` in the tree of `class A{{class B{}}}` is missed, as it stands in an initializer
block. -/
theorem classesOf_misses_type_in_initializer_block :
    let src := Source.ofString "class A\x7b\x7bclass B\x7b\x7d\x7d\x7d"
    let inner := Tree.onFirstLine .classDeclaration none 9 18
      [.onFirstLine .identifier (some .name) 15 16 [],
        .onFirstLine .classBody (some .body) 16 18 []]
    let root := Tree.onFirstLine .compilationUnit none 0 20
      [.onFirstLine .classDeclaration none 0 20
        [.onFirstLine .identifier (some .name) 6 7 [],
          .onFirstLine .classBody (some .body) 7 20 [.onFirstLine .block none 8 19 [inner]]]]
    (∀ v ∈ visitsOfFile .java src root, v.Passes .java src 256) ∧
      ¬ CollectsEvery .java src 256 root := by
  intro src inner root
  have passes := (classesOf_eq_models_iff.mp
    (show classesOf .java src 256 root = .models [⟨"A", 1, [], []⟩] by decide +kernel)).1
  refine ⟨passes, fun every => ?_⟩
  have met := (classesOf_collects_types passes).2.mp every [0, 1, 0, 0] _ ⟨rfl, rfl⟩
  have classA : Met .java src root [0] .type _ :=
    Comes.start.step rfl (.declaration rfl rfl rfl) rfl
  have body : Met .java src root [0, 1] .members _ := classA.step rfl (.typeBody rfl) rfl
  exact met (.past (.of_child body rfl (.member rfl rfl (.inl rfl)) [0]))

/-- A type declared in an initializer block has no model. -/
theorem extract_misses_type_in_initializer_block :
    let text := "class A \x7b \x7b class B \x7b \x7d \x7d \x7d"
    let root := Dialect.java.parse (.ofString text)
    firstFlaw root = none ∧
      ([[0], [0, 2, 1, 1]].map fun a => (root.spot.at? a).map (·.tree.kind)) =
        [some .classDeclaration, some .classDeclaration] ∧
      extract .java {} text = .models [⟨"A", 1, [], []⟩] := by
  decide +kernel

end LayerLint
