import LayerLint.Proofs.Extract.Classes
import LayerLint.Proofs.Syntax.Place

/-! The lines in the models of a file. In a tree in place they are lines of the text, and what is
said of a method lies between its first line and its last one. -/

namespace LayerLint

open Syntax

/-! ### The lines of a model -/

namespace Method

def factLines (m : Method) : List Nat :=
  m.calls.map (·.line) ++ m.literals.map (·.line) ++ m.branches.map (·.line)

def lines (m : Method) : List Nat :=
  m.firstLine :: m.lastLine :: (m.annotations.map (·.line) ++ m.factLines)

/-- The lines of a method fit together. -/
structure LinesAgree (m : Method) : Prop where
  first_le_last : m.firstLine ≤ m.lastLine
  inside : ∀ line ∈ m.factLines, m.firstLine ≤ line ∧ line ≤ m.lastLine
  calls : (m.calls.map (·.line)).Pairwise (· ≤ ·)
  literals : (m.literals.map (·.line)).Pairwise (· ≤ ·)
  branches : (m.branches.map (·.line)).Pairwise (· ≤ ·)
  bodyLines_le : m.bodyLines ≤ m.lastLine - m.firstLine + 1

end Method

def ClassModel.lines (c : ClassModel) : List Nat :=
  c.line :: (c.imports.map (·.line) ++ c.methods.flatMap Method.lines)

/-- Whether the name of a method, if it has one, starts before its body. -/
def Dialect.namesBeforeBody (d : Dialect) (t : Tree) : Bool :=
  !d.declaresMethod t.kind ||
    match t.child? .name, d.methodBody? t with
    | some name, some body => decide (name.start.offset ≤ body.start.offset)
    | _, _ => true

/-! ### Where lines come from -/

namespace Syntax

variable {d : Dialect} {src : Source} {t u member body : Tree}

theorem Tree.contains_getD (t : Tree) (l : Label) : t.Contains ((t.child? l).getD t) := by
  cases child : t.child? l with
  | none => exact .refl t
  | some c => exact .of_child? child

theorem contains_methodBody (is : d.methodBody? member = some body) : member.Contains body :=
  .of_mem (List.mem_of_find?_eq_some is)

mutual

theorem contains_of_mem_leaves : ∀ t, u ∈ leaves t → t.Contains u
  | .node tag [], leaf => by
      rw [leaves, List.mem_singleton] at leaf
      rw [leaf]
      exact .refl _
  | .node tag (t :: ts), leaf => by
      rw [leaves, List.mem_append] at leaf
      rcases leaf with first | later
      · exact .trans (.of_mem List.mem_cons_self) (contains_of_mem_leaves t first)
      · obtain ⟨c, child, inner⟩ := exists_of_mem_leavesOfAll ts later
        exact .trans (.of_mem (List.mem_cons_of_mem t child)) inner

theorem exists_of_mem_leavesOfAll : ∀ ts, u ∈ leavesOfAll ts → ∃ c ∈ ts, c.Contains u
  | [], leaf => by cases leaf
  | t :: ts, leaf => by
      rw [leavesOfAll, List.mem_append] at leaf
      rcases leaf with first | later
      · exact ⟨t, List.mem_cons_self, contains_of_mem_leaves t first⟩
      · obtain ⟨c, child, inner⟩ := exists_of_mem_leavesOfAll ts later
        exact ⟨c, List.mem_cons_of_mem t child, inner⟩

end

theorem exists_of_mem_annotations {use : AnnotationUse} (there : use ∈ d.annotations src member) :
    ∃ a, member.Contains a ∧ use.line = a.line := by
  unfold Dialect.annotations at there
  split at there
  · split at there
    · next modifiers is =>
        obtain ⟨a, among, named⟩ := List.mem_filterMap.mp there
        obtain ⟨name, -, rfl⟩ := Option.map_eq_some_iff.mp named
        have outer := Tree.Contains.of_namedChild (List.mem_of_find?_eq_some is)
        exact ⟨a, outer.trans (.of_namedChild (List.mem_of_mem_filter among)), rfl⟩
    · cases there
  · obtain ⟨a, among, named⟩ := List.mem_filterMap.mp there
    obtain ⟨name, -, rfl⟩ := Option.map_eq_some_iff.mp named
    obtain ⟨group, groups, among⟩ := List.mem_flatMap.mp among
    have outer := Tree.Contains.of_namedChild (List.mem_of_mem_filter groups)
    exact ⟨a, outer.trans (.of_namedChild (List.mem_of_mem_filter among)), rfl⟩

theorem contains_invokedMember {around : List Tree} {name : Tree} {receiver : Option Tree}
    (is : Dialect.invokedMember around t = some (name, receiver)) : t.Contains name := by
  unfold Dialect.invokedMember at is
  split at is
  · obtain ⟨child, here, same⟩ := Option.map_eq_some_iff.mp is
    obtain ⟨rfl, -⟩ := Prod.mk.inj same
    exact .of_child? here
  · obtain ⟨rfl, -⟩ := Prod.mk.inj (Option.some.inj is)
    exact .refl t
  · obtain ⟨rfl, -⟩ := Prod.mk.inj (Option.some.inj is)
    exact .refl t
  · obtain ⟨binding, found, rest⟩ := Option.bind_eq_some_iff.mp is
    obtain ⟨child, here, same⟩ := Option.bind_eq_some_iff.mp rest
    obtain ⟨rfl, -⟩ := Prod.mk.inj (Option.some.inj same)
    exact .trans (.of_namedChild (List.mem_of_find?_eq_some found)) (.of_child? here)
  · obtain ⟨child, here, same⟩ := Option.map_eq_some_iff.mp is
    obtain ⟨rfl, -⟩ := Prod.mk.inj same
    exact .of_child? here
  · cases is

/-- The place of a call lies in the node that is the call. -/
theorem contains_place {around : List Tree} {call : Dialect.CallShape}
    (is : d.call? src around t = some call) : t.Contains call.place := by
  unfold Dialect.call? at is
  split at is
  · obtain ⟨name, child, rfl⟩ := Option.map_eq_some_iff.mp is
    exact .of_child? child
  · obtain rfl := Option.some.inj is
    exact .refl t
  · obtain ⟨type, child, rfl⟩ := Option.map_eq_some_iff.mp is
    exact .of_child? child
  · obtain ⟨function, child, rest⟩ := Option.bind_eq_some_iff.mp is
    obtain ⟨⟨name, receiver⟩, member, same⟩ := Option.bind_eq_some_iff.mp rest
    obtain rfl := Option.some.inj same
    exact .trans (.of_child? child) (contains_invokedMember member)
  · cases is

end Syntax

/-! ### Counting lines -/

theorem nodup_eraseDups (ns : List Nat) : ns.eraseDups.Nodup := by
  induction count : ns.length using Nat.strong_induction_on generalizing ns with
  | _ k ih =>
      cases ns with
      | nil => exact List.nodup_nil
      | cons n ns =>
          rw [List.eraseDups_cons, List.nodup_cons]
          constructor
          · intro again
            have other := (List.mem_filter.mp (List.mem_eraseDups.mp again)).2
            simp at other
          · refine ih _ ?_ _ rfl
            rw [← count]
            exact Nat.lt_succ_of_le (List.length_filter_le _ ns)

theorem countDistinct_le {ns : List Nat} {low high : Nat}
    (bounds : ∀ n ∈ ns, low ≤ n ∧ n ≤ high) : countDistinct ns ≤ high - low + 1 := by
  have inside : ns.eraseDups ⊆ List.range' low (high - low + 1) := by
    intro n there
    have := bounds n (List.mem_eraseDups.mp there)
    rw [List.mem_range'_1]
    omega
  have fewer := (nodup_eraseDups ns).length_le_of_subset inside
  rwa [List.length_range'] at fewer

theorem Lists.lines {α : Type} {node : Address → Prop} {entry : Address → Nat → α → Prop}
    {entries : List α} {line : α → Nat} {low high : Nat} (lists : Lists node entry entries)
    (bounds : ∀ a key x, entry a key x → low ≤ line x ∧ line x ≤ high)
    (mono : ∀ a key x b key' y, entry a key x → entry b key' y → key ≤ key' → line x ≤ line y) :
    (∀ n ∈ entries.map line, low ≤ n ∧ n ≤ high) ∧ (entries.map line).Pairwise (· ≤ ·) := by
  obtain ⟨items, -, -, is, ordered, rfl⟩ := lists
  constructor
  · intro n there
    simp only [List.mem_map] at there
    obtain ⟨-, ⟨x, member, rfl⟩, rfl⟩ := there
    exact bounds _ _ _ (is x member)
  · rw [List.map_map, List.pairwise_map]
    refine ordered.imp_of_mem fun {x y} here there before => ?_
    exact mono _ _ _ _ _ _ (is x here) (is y there) before

/-! ### The lines of a method -/

section

variable {d : Dialect} {src : Source} {s : Spot} {body u : Tree} {m : Method}

theorem firstLine_le_line (placed : s.tree.inPlace src = true)
    (method : d.declaresMethod s.tree.kind = true) (named : d.namesBeforeBody s.tree = true)
    (is : d.methodBody? s.tree = some body) :
    ((s.tree.child? .name).getD s.tree).line ≤ body.line := by
  have inner := contains_methodBody is
  have first := (s.tree.contains_getD .name).inPlace placed
  refine Tree.line_le_of_start_le first (inner.inPlace placed) ?_
  unfold Dialect.namesBeforeBody at named
  rw [method, is] at named
  cases name : s.tree.child? .name with
  | none => exact (inner.bounds placed).1
  | some c =>
      rw [name] at named
      simpa using named

theorem lastLine_eq (model : s.method? d src = some m) (is : d.methodBody? s.tree = some body) :
    m.firstLine = ((s.tree.child? .name).getD s.tree).line ∧
      (∃ last, s.tree.Contains last ∧ last.Contains body ∧ m.lastLine = last.stop.row + 1) ∧
      m.bodyLines = countDistinct (codeRows d body) ∧
      m.annotations = d.annotations src s.tree := by
  rw [Spot.method?, methodModel, is, Option.map_some] at model
  obtain rfl := Option.some.inj model
  refine ⟨rfl, ⟨_, ?_, ?_, rfl⟩, rfl, rfl⟩
  · split
    · exact .refl _
    · exact contains_methodBody is
  · split
    · exact contains_methodBody is
    · exact .refl _

theorem linesAgree_of_attributed (placed : s.tree.inPlace src = true)
    (method : d.declaresMethod s.tree.kind = true) (named : d.namesBeforeBody s.tree = true)
    (model : s.method? d src = some m) (is : d.methodBody? s.tree = some body)
    (facts : Attributed d src ⟨body, s.tree :: s.around⟩ m) : m.LinesAgree := by
  obtain ⟨first, ⟨last, outer, inner, stop⟩, count, -⟩ := lastLine_eq model is
  have low := firstLine_le_line placed method named is
  have bodyPlaced := (contains_methodBody is).inPlace placed
  have inside {u : Tree} (below : body.Contains u) :
      m.firstLine ≤ u.line ∧ u.line ≤ m.lastLine := by
    have after := (below.rows bodyPlaced).1
    have before := ((inner.trans below).rows (outer.inPlace placed)).2
    simp only [first, stop, Tree.line] at low ⊢
    omega
  have ordered {u v : Tree} (here : body.Contains u) (there : body.Contains v)
      (before : u.start.offset ≤ v.start.offset) : u.line ≤ v.line :=
    Tree.line_le_of_start_le (here.inPlace bodyPlaced) (there.inPlace bodyPlaced) before
  have owns {a : Address} {t : Spot} (owned : Owned d ⟨body, s.tree :: s.around⟩ a t) :
      body.Contains t.tree := Spot.contains_of_at? owned.at?
  have calls : (∀ n ∈ m.calls.map (·.line), m.firstLine ≤ n ∧ n ≤ m.lastLine) ∧
      (m.calls.map (·.line)).Pairwise (· ≤ ·) := by
    refine facts.calls.lines ?_ ?_
    · rintro a offset _ ⟨t, call, owned, shape, -, rfl⟩
      exact inside ((owns owned).trans (contains_place shape))
    · rintro a offset _ b offset' _ ⟨t, call, owned, shape, rfl, rfl⟩
        ⟨t', call', owned', shape', rfl, rfl⟩ before
      exact ordered ((owns owned).trans (contains_place shape))
        ((owns owned').trans (contains_place shape')) before
  have literals : (∀ n ∈ m.literals.map (·.line), m.firstLine ≤ n ∧ n ≤ m.lastLine) ∧
      (m.literals.map (·.line)).Pairwise (· ≤ ·) := by
    refine facts.literals.lines ?_ ?_
    · rintro a offset _ ⟨t, b, owned, -, -, -, -, line⟩
      rw [line]
      exact inside (owns owned)
    · rintro a offset _ b offset' _ ⟨t, -, owned, -, -, -, rfl, line⟩
        ⟨t', -, owned', -, -, -, rfl, line'⟩ before
      rw [line, line']
      exact ordered (owns owned) (owns owned') before
  have branches : (∀ n ∈ m.branches.map (·.line), m.firstLine ≤ n ∧ n ≤ m.lastLine) ∧
      (m.branches.map (·.line)).Pairwise (· ≤ ·) := by
    refine facts.branches.lines ?_ ?_
    · rintro a key _ ⟨t, owned, -, line, -⟩
      rw [line]
      exact inside (owns owned)
    · -- Branches are ordered by their lines themselves.
      rintro a key _ b key' _ ⟨t, -, -, -, rfl⟩ ⟨t', -, -, -, rfl⟩ before
      exact before
  have whole := inside (.refl body)
  refine ⟨Nat.le_trans whole.1 whole.2, fun n there => ?_, calls.2, literals.2, branches.2, ?_⟩
  · simp only [Method.factLines, List.mem_append] at there
    rcases there with (call | literal) | branch
    · exact calls.1 n call
    · exact literals.1 n literal
    · exact branches.1 n branch
  · rw [count]
    have rows : countDistinct (codeRows d body) ≤ m.lastLine - 1 - (m.firstLine - 1) + 1 := by
      refine countDistinct_le fun n there => ?_
      obtain ⟨leaf, among, rfl⟩ := List.mem_map.mp there
      have := inside (contains_of_mem_leaves body (List.mem_of_mem_filter among))
      simp only [Tree.line] at this
      omega
    have positive : 1 ≤ m.firstLine := by rw [first]; exact Nat.succ_pos _
    omega

theorem lines_of_linesAgree (placed : s.tree.inPlace src = true)
    (model : s.method? d src = some m) (is : d.methodBody? s.tree = some body)
    (agree : m.LinesAgree) : ∀ n ∈ m.lines, 1 ≤ n ∧ n ≤ src.lineCount := by
  obtain ⟨first, ⟨last, outer, -, stop⟩, -, uses⟩ := lastLine_eq model is
  have low : 1 ≤ m.firstLine := by
    rw [first]
    exact Nat.succ_pos _
  have high : m.lastLine ≤ src.lineCount := by
    rw [stop]
    exact Source.row_lt_lineCount (Tree.placed_of_inPlace (outer.inPlace placed)).2.1
  have between := agree.first_le_last
  intro n there
  simp only [Method.lines, List.mem_cons, List.mem_append, List.mem_map] at there
  rcases there with rfl | rfl | ⟨use, there, rfl⟩ | fact
  · omega
  · omega
  · rw [uses] at there
    obtain ⟨a, below, line⟩ := exists_of_mem_annotations there
    rw [line]
    exact ⟨Nat.succ_pos _, Tree.line_le_lineCount (below.inPlace placed)⟩
  · have := agree.inside n fact
    omega

end

/-! ### The lines of a file -/

variable {d : Dialect} {src : Source} {maxNesting : Nat} {root : Tree} {classes : List ClassModel}

theorem exists_of_forall₂ {α β : Type} {R : α → β → Prop} {xs : List α} {ys : List β}
    (related : List.Forall₂ R xs ys) {y : β} (there : y ∈ ys) : ∃ x ∈ xs, R x y := by
  induction related with
  | nil => cases there
  | cons here rest ih =>
      rcases List.mem_cons.mp there with rfl | later
      · exact ⟨_, List.mem_cons_self, here⟩
      · obtain ⟨x, among, is⟩ := ih later
        exact ⟨x, List.mem_cons_of_mem _ among, is⟩

theorem lines_of_listsImports {imports : List Import} (placed : root.inPlace src = true)
    (listed : ListsImports d src root imports) :
    ∀ n ∈ imports.map (·.line), 1 ≤ n ∧ n ≤ src.lineCount := by
  obtain ⟨directives, -, member, related⟩ := listed
  intro n there
  obtain ⟨entry, among, rfl⟩ := List.mem_map.mp there
  obtain ⟨⟨a, s⟩, directive, -, line⟩ := exists_of_forall₂ related among
  have node := (met_importing_iff.mpr ((member a s).mp directive)).at?
  rw [line]
  exact ⟨Nat.succ_pos _, Tree.line_le_lineCount ((Spot.contains_of_at? node).inPlace placed)⟩

theorem lines_of_listsMethods {type : Spot} {a : Address} {methods : List Method}
    (placed : root.inPlace src = true) (named : root.everywhere d.namesBeforeBody = true)
    (passes : ∀ v ∈ visitsOfFile d src root, v.Passes d src maxNesting)
    (met : Met d src root a .type type) (listed : ListsMethods d src type methods) :
    ∀ m ∈ methods, (∀ n ∈ m.lines, 1 ≤ n ∧ n ≤ src.lineCount) ∧ m.LinesAgree := by
  obtain ⟨members, -, member, related⟩ := listed
  intro m there
  obtain ⟨⟨b, s⟩, among, model⟩ := exists_of_forall₂ related there
  have has := (member b s).mp among
  have comes : Comes d src Mode.ofMember type .type b .method s := comes_method_iff.mpr has
  have inner := Spot.contains_of_at? (comes.met met).at?
  have here := inner.inPlace placed
  obtain ⟨body, is, attributed⟩ := attributed_of_hasMethod passes met has model
  obtain ⟨-, -, method, -⟩ := has
  have before := (Tree.everywhere_iff.mp (inner.everywhere named)).1
  have agree := linesAgree_of_attributed here method before model is attributed
  exact ⟨lines_of_linesAgree here model is agree, agree⟩

/-- In a tree in place, whose methods have their names before their bodies, all lines of the models
are lines of the text and the lines of each method fit together. -/
theorem classesOf_lines_consistent (placed : root.inPlace src = true)
    (named : root.everywhere d.namesBeforeBody = true)
    (walk : classesOf d src maxNesting root = .models classes) :
    ∀ c ∈ classes, (∀ line ∈ c.lines, 1 ≤ line ∧ line ≤ src.lineCount) ∧
      ∀ m ∈ c.methods, m.LinesAgree := by
  have passes := (classesOf_eq_models_iff.mp walk).1
  rw [classesOf_eq_typesMet passes] at walk
  obtain rfl := Extraction.models.inj walk
  intro c there
  obtain ⟨⟨a, type⟩, among, rfl⟩ := List.mem_map.mp there
  have met := mem_spotsIn.mp among
  have inside := (Spot.contains_of_at? met.at?).inPlace placed
  have methods := lines_of_listsMethods placed named passes met
    (listsMethods_classModel (importsOf d src root) type)
  refine ⟨fun line within => ?_, fun m member => (methods m member).2⟩
  simp only [ClassModel.lines, List.mem_cons, List.mem_append, List.mem_flatMap] at within
  rcases within with rfl | imported | ⟨m, member, within⟩
  · exact ⟨Nat.succ_pos _, Tree.line_le_lineCount ((type.tree.contains_getD .name).inPlace inside)⟩
  · exact lines_of_listsImports placed listsImports_importsOf line imported
  · exact (methods m member).1 line within

/-- A method over three lines, with an annotation, a branch, a call and a literal. -/
theorem classesOf_lines_consistent_three_lines :
    let src := Source.ofString
      "import p.Q;class A\x7b@T void m()\n\x7bif(b)\nf(\"x\");\x7d\x7d"
    let root := Dialect.java.parse src
    let method : Method := ⟨"m", 1, 3, 2, [⟨"T", 1⟩], [⟨"", "f", 3⟩], [⟨.string, "x", "f", 3⟩],
      [⟨"if/else", 2⟩]⟩
    let model : ClassModel := ⟨"A", 1, [⟨"p.Q", 1⟩], [method]⟩
    root.inPlace src = true ∧ root.everywhere Dialect.java.namesBeforeBody = true ∧
      classesOf .java src 256 root = .models [model] ∧ src.lineCount = 3 ∧
      (∀ line ∈ model.lines, 1 ≤ line ∧ line ≤ src.lineCount) ∧ method.LinesAgree := by
  intro src root method model
  have shape : root.inPlace src = true ∧ root.everywhere Dialect.java.namesBeforeBody = true ∧
      classesOf .java src 256 root = .models [model] ∧ src.lineCount = 3 := by decide +kernel
  obtain ⟨placed, named, walk, count⟩ := shape
  have lines := classesOf_lines_consistent placed named walk model List.mem_cons_self
  exact ⟨placed, named, walk, count, lines.1, lines.2 method List.mem_cons_self⟩

end LayerLint
