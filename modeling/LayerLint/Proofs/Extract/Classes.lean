import LayerLint.Proofs.Extract.Slots

/-! The classes of a file, their imports and their methods. There is one class for each type that is
met, in the order of the text and with the imports of the whole file, and it has the methods that
are declared directly among the members of the type. The pass that reserves slots for the types puts
each method into the slot of its type. -/

namespace LayerLint

open Syntax

/-- A node of a file or a namespace that may hold imports and types: no import itself, no type, no
comment and no token. -/
def Dialect.isScope (d : Dialect) (src : Source) (t : Tree) : Bool :=
  t.isNamed && (d.importName? src t).isNone && !d.declaresType t.kind && !d.isComment t.kind

namespace Syntax

/-! ### The imports of a file -/

section

variable (d : Dialect) (src : Source) (root : Tree)

/-- From the file to the node at an address there are only scopes. -/
def ThroughScopes (a : Address) : Prop :=
  ∀ b, b <+: a → b ≠ [] → ∀ s, root.spot.at? b = some s → d.isScope src s.tree = true

/-- An import stands at the level of the file or of a namespace. -/
inductive Imports : Address → Spot → Prop
  | intro {a : Address} {s : Spot} {i : Nat} {c : Tree} (node : root.spot.at? a = some s)
      (scopes : ThroughScopes d src root a) (child : s.tree.children[i]? = some c)
      (imports : (d.importName? src c).isSome = true) : Imports (a ++ [i]) ⟨c, s.tree :: s.around⟩

end

variable {d : Dialect} {src : Source} {root : Tree} {a b e : Address} {s t type : Spot} {i : Nat}
  {c : Tree} {m m' : Mode}

theorem bodyMode_ne (callee : Option String) :
    bodyMode d callee c ≠ .scope ∧ bodyMode d callee c ≠ .importing := by
  unfold bodyMode
  split
  · exact ⟨nofun, nofun⟩
  · exact ⟨nofun, nofun⟩

/-- Scopes and imports are met from scopes only. -/
theorem Leads.atFileLevel (leads : Leads d src s i c m m') :
    (m' = .scope → m = .scope ∧ d.isScope src c = true) ∧
      (m' = .importing → m = .scope ∧ (d.importName? src c).isSome = true) := by
  cases leads with
  | scope named plain noType code =>
      exact ⟨fun _ => ⟨rfl, by simp [Dialect.isScope, named, plain, noType, code]⟩, nofun⟩
  | importing named imports => exact ⟨nofun, fun _ => ⟨rfl, imports⟩⟩
  | declaration | typeBody | nested | group | method => exact ⟨nofun, nofun⟩
  | methodBody body is =>
      rw [is]
      exact ⟨fun other => absurd other (bodyMode_ne _).1,
        fun other => absurd other (bodyMode_ne _).2⟩
  | inner noLiteral named is =>
      rw [is]
      exact ⟨fun other => absurd other (bodyMode_ne _).1,
        fun other => absurd other (bodyMode_ne _).2⟩

theorem leads_scope (scope : d.isScope src c = true) : Leads d src s i c .scope .scope := by
  simp only [Dialect.isScope, Bool.and_eq_true, Bool.not_eq_true',
    Option.isNone_iff_eq_none] at scope
  exact .scope scope.1.1.1 scope.1.1.2 scope.1.2 scope.2

theorem ThroughScopes.of_concat (scopes : ThroughScopes d src root (a ++ [i])) :
    ThroughScopes d src root a :=
  fun b before => scopes b (before.trans (List.prefix_append a [i]))

theorem ThroughScopes.concat (scopes : ThroughScopes d src root a)
    (node : root.spot.at? (a ++ [i]) = some s) (scope : d.isScope src s.tree = true) :
    ThroughScopes d src root (a ++ [i]) := by
  intro b before inner t there
  rcases List.prefix_concat_iff.mp before with rfl | above
  · obtain rfl := Option.some.inj (node.symm.trans there)
    exact scope
  · exact scopes b above inner t there

theorem met_scope_iff :
    Met d src root a .scope s ↔ root.spot.at? a = some s ∧ ThroughScopes d src root a := by
  constructor
  · intro comes
    refine ⟨comes.at?, ?_⟩
    generalize mode : Mode.scope = m at comes
    induction comes with
    | start => exact fun b before inner => absurd (List.prefix_nil.mp before) inner
    | step here child leads kept ih =>
        obtain ⟨rfl, scope⟩ := leads.atFileLevel.1 mode.symm
        exact (ih rfl).concat (here.step child leads kept).at? scope
  · rintro ⟨node, scopes⟩
    induction a using List.reverseRecOn generalizing s with
    | nil =>
        obtain rfl := Option.some.inj node
        exact .start
    | append_singleton a i ih =>
        have scope := scopes _ (List.prefix_refl _) (by simp) s node
        rw [Spot.at?_concat] at node
        obtain ⟨above, there, below⟩ := Option.bind_eq_some_iff.mp node
        obtain ⟨c, child, rfl⟩ := Option.map_eq_some_iff.mp below
        exact (ih there scopes.of_concat).step child (leads_scope scope) rfl

theorem met_importing_iff : Met d src root a .importing s ↔ Imports d src root a s := by
  constructor
  · intro comes
    cases comes with
    | step here child leads kept =>
        obtain ⟨rfl, imports⟩ := leads.atFileLevel.2 rfl
        obtain ⟨node, scopes⟩ := met_scope_iff.mp here
        exact .intro node scopes child imports
  · rintro ⟨node, scopes, child, imports⟩
    have named := Dialect.isNamed_of_importName? imports
    exact (met_scope_iff.mpr ⟨node, scopes⟩).step child (.importing named imports) rfl

/-! ### The type of a method -/

theorem Comes.of_isPrefix {keep : Mode → Bool} {origin : Spot} {first : Mode}
    (comes : Comes d src keep origin first b m s) (before : e <+: b) :
    ∃ m' t, Comes d src keep origin first e m' t := by
  obtain ⟨rest, rfl⟩ := before
  cases rest with
  | nil =>
      rw [List.append_nil] at comes
      exact ⟨m, s, comes⟩
  | cons i rest =>
      obtain ⟨m', t, -, -, there, -, -⟩ := comes.of_append
      exact ⟨m', t, there⟩

/-- Between a type and a method of it the walk meets no other type. -/
theorem HasMethod.eq_nil_of_type (method : HasMethod d type b s) (before : e <+: b)
    (here : Met d src root a .type type) (inner : Met d src root (a ++ e) .type t) : e = [] := by
  have last : Comes d src Mode.ofMember type .type b .method s := comes_method_iff.mpr method
  obtain ⟨m', w, comes⟩ := last.of_isPrefix before
  rcases comes.ofMember with ⟨-, start, -⟩ | ⟨rfl, -⟩ | ⟨rfl, -⟩
  · exact start
  · exact absurd (inner.unique (comes.met here)).1 nofun
  · exact absurd (inner.unique (comes.met here)).1 nofun

end Syntax

/-! ### The models of a file -/

section

variable (d : Dialect) (src : Source)

/-- The entries stand for the imports of a file, one for each and in their order. -/
def ListsImports (root : Tree) (imports : List Import) : Prop :=
  ∃ directives : List (Address × Spot), (directives.map Prod.fst).Pairwise (· < ·) ∧
    (∀ a s, (a, s) ∈ directives ↔ Imports d src root a s) ∧
    List.Forall₂ (fun x entry => d.importName? src x.2.tree = some entry.name ∧
      entry.line = x.2.tree.line) directives imports

/-- A class is the model of a type declaration in a file with some imports. -/
structure ModelsType (imports : List Import) (type : Spot) (c : ClassModel) : Prop where
  name : c.name = ((type.tree.child? .name).map (·.text src)).getD ""
  line : c.line = ((type.tree.child? .name).getD type.tree).line
  imports : c.imports = imports
  methods : ListsMethods d src type c.methods

end

variable {d : Dialect} {src : Source} {maxNesting : Nat} {root : Tree} {classes : List ClassModel}

theorem listsImports_importsOf : ListsImports d src root (importsOf d src root) := by
  let directives := spotsIn d src (fun _ => true) root.spot .scope .importing
  let entry (x : Address × Spot) : Option Import :=
    (d.importName? src x.2.tree).map fun name => ⟨name, x.2.tree.line⟩
  have listed : importsOf d src root = directives.filterMap entry := by
    rw [importsOf, ← map_addressedFile, List.filter_map, List.filterMap_map]
    simp only [directives, spotsIn, List.filterMap_map]
    rfl
  refine ⟨directives, pairwise_spotsIn .., fun a s => mem_spotsIn.trans met_importing_iff, ?_⟩
  rw [listed]
  refine forall₂_filterMap ?_
  rintro ⟨a, s⟩ there
  obtain ⟨-, -, -, imports⟩ := met_importing_iff.mp (mem_spotsIn.mp there)
  obtain ⟨name, is⟩ := Option.isSome_iff_exists.mp imports
  exact ⟨_, Option.map_eq_some_iff.mpr ⟨name, is, rfl⟩, is, rfl⟩

theorem exists_declarations (walk : classesOf d src maxNesting root = .models classes) :
    ∃ (types : List (Address × Spot)) (imports : List Import),
      (types.map Prod.fst).Pairwise (· < ·) ∧
      (∀ a s, (a, s) ∈ types ↔ Declares d root a s ∧ ¬ Missed d src root a) ∧
      types.Pairwise (fun x y => ¬ y.1 <+: x.1) ∧
      ListsImports d src root imports ∧
      List.Forall₂ (fun x c => ModelsType d src imports x.2 c) types classes ∧
      ∀ x ∈ types, ∀ y ∈ types, ∀ b s, HasMethod d x.2 b s →
        x.1 <+: y.1 → y.1 <+: x.1 ++ b → y = x := by
  have passes := (classesOf_eq_models_iff.mp walk).1
  rw [classesOf_eq_typesMet passes] at walk
  obtain rfl := Extraction.models.inj walk
  have ordered : ((typesMet d src root).map Prod.fst).Pairwise (· < ·) := pairwise_spotsIn ..
  refine ⟨typesMet d src root, importsOf d src root, ordered,
    fun a s => mem_spotsIn.trans met_type_iff, ?_, listsImports_importsOf, ?_, ?_⟩
  · exact (List.pairwise_map.mp ordered).imp fun before within => within.le before
  · rw [List.forall₂_map_right_iff, List.forall₂_same]
    intro x there
    exact ⟨rfl, rfl, rfl, listsMethods_classModel _ _⟩
  · rintro ⟨a, type⟩ there ⟨a', other⟩ inner b s method ⟨e, rfl⟩ within
    have here := mem_spotsIn.mp there
    have nested := mem_spotsIn.mp inner
    have before : e <+: b := (List.prefix_append_right_inj a).mp within
    obtain rfl := method.eq_nil_of_type before here nested
    rw [List.append_nil] at nested ⊢
    rw [(nested.unique here).2]

/-- The pass with slots ends as the walk does, and if it yields classes, these stand for the types
that are not missed, in the order of the text, so that a type comes before those nested in it. All
have the imports of the file, whether these stand before them or after them. Each has the methods
declared among its members, and between a type and a method of it there is no other type. -/
theorem walkFile_lists_declarations (d : Dialect) (src : Source) (maxNesting : Nat) (root : Tree) :
    walkFile d src maxNesting root = classesOf d src maxNesting root ∧
    ∀ classes, walkFile d src maxNesting root = .models classes →
      ∃ (types : List (Address × Spot)) (imports : List Import),
        (types.map Prod.fst).Pairwise (· < ·) ∧
        (∀ a s, (a, s) ∈ types ↔ Declares d root a s ∧ ¬ Missed d src root a) ∧
        types.Pairwise (fun x y => ¬ y.1 <+: x.1) ∧
        ListsImports d src root imports ∧
        List.Forall₂ (fun x c => ModelsType d src imports x.2 c) types classes ∧
        ∀ x ∈ types, ∀ y ∈ types, ∀ b s, HasMethod d x.2 b s →
          x.1 <+: y.1 → y.1 <+: x.1 ++ b → y = x := by
  have same := walkFile_eq_classesOf d src maxNesting root
  exact ⟨same, fun classes walk => exists_declarations (same ▸ walk)⟩

/-- The classes of a text with a nested type, a local type and an import behind them. The first
class gets its method when the slots of the other two are taken. -/
theorem walkFile_lists_nested_and_local :
    let src := Source.ofString
      "class A\x7bclass B\x7b\x7dvoid m()\x7bclass C\x7bvoid n()\x7b\x7d\x7d\x7d\x7dimport p.Q;"
    let root := Dialect.java.parse src
    let imports : List Import := [⟨"p.Q", 1⟩]
    let classes : List ClassModel := [⟨"A", 1, imports, [⟨"m", 1, 1, 1, [], [], [], []⟩]⟩,
      ⟨"B", 1, imports, []⟩, ⟨"C", 1, imports, [⟨"n", 1, 1, 0, [], [], [], []⟩]⟩]
    walkFile .java src 256 root = .models classes ∧
      ∃ types : List (Address × Spot), (types.map Prod.fst).Pairwise (· < ·) ∧
        (∀ a s, (a, s) ∈ types ↔ Declares .java root a s ∧ ¬ Missed .java src root a) ∧
        types.Pairwise (fun x y => ¬ y.1 <+: x.1) ∧ ListsImports .java src root imports ∧
        List.Forall₂ (fun x c => ModelsType .java src imports x.2 c) types classes ∧
        ∀ x ∈ types, ∀ y ∈ types, ∀ b s, HasMethod .java x.2 b s →
          x.1 <+: y.1 → y.1 <+: x.1 ++ b → y = x := by
  intro src root imports classes
  obtain ⟨-, lists⟩ := walkFile_lists_declarations .java src 256 root
  have walk : walkFile .java src 256 root = .models classes := by decide +kernel
  obtain ⟨types, others, ordered, declared, nested, listed, models, own⟩ := lists classes walk
  -- The first class has the imports that are listed.
  obtain ⟨x, rest, first, -⟩ := List.forall₂_cons_right_iff.mp models
  obtain rfl : others = imports := first.imports.symm
  exact ⟨walk, types, ordered, declared, nested, listed, models, own⟩

end LayerLint
