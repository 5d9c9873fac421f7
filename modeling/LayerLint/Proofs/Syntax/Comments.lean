import LayerLint.Proofs.Syntax.Walk

/-! Trees without their comments. What the walk picks by a label or by a kind, it finds in the tree
without comments too, so that it meets the same nodes there in the same modes: all nodes that it
meets, apart from the comments. -/

namespace LayerLint

open Syntax Text

namespace Syntax

mutual

/-- The tree without the comments below its root; all other nodes keep their places. -/
def Tree.bare (d : Dialect) : Tree → Tree
  | .node tag children => .node tag (bareAll d children)

def bareAll (d : Dialect) : List Tree → List Tree
  | [] => []
  | t :: ts => if d.isComment t.kind then bareAll d ts else t.bare d :: bareAll d ts

end

/-- A comment is a token without a label, and nothing else consists of comments alone. -/
def standsApart (d : Dialect) (t : Tree) : Bool :=
  if d.isComment t.kind then t.label.isNone && t.children.isEmpty
  else t.children.isEmpty || t.children.any fun c => !d.isComment c.kind

mutual

/-- Whether the comments below a node stand apart from what the grammar puts there. A conditional
access says what it is made on. -/
def Tree.commentsApart (d : Dialect) : Tree → Bool
  | .node tag children =>
    (tag.kind != .conditionalAccess || children.any (·.label == some .condition)) &&
      commentsApartIn d children

def commentsApartIn (d : Dialect) : List Tree → Bool
  | [] => true
  | t :: ts => standsApart d t && t.commentsApart d && commentsApartIn d ts

end

variable {d : Dialect} {src : Source} {t c : Tree} {ts : List Tree}

/-! ### Nodes and their children -/

theorem bareAll_eq : bareAll d ts = (ts.filter fun c => !d.isComment c.kind).map (Tree.bare d) := by
  induction ts with
  | nil => rfl
  | cons t ts ih => cases comment : d.isComment t.kind <;> simp [bareAll, comment, ih]

@[simp] theorem Tree.tag_bare : (t.bare d).tag = t.tag := by
  cases t
  rfl

@[simp] theorem Tree.children_bare : (t.bare d).children = bareAll d t.children := by
  cases t
  rfl

@[simp] theorem Tree.kind_bare : (t.bare d).kind = t.kind := by
  rw [kind, kind, tag_bare]

@[simp] theorem Tree.label_bare : (t.bare d).label = t.label := by
  rw [label, label, tag_bare]

@[simp] theorem Tree.start_bare : (t.bare d).start = t.start := by
  rw [start, start, tag_bare]

@[simp] theorem Tree.stop_bare : (t.bare d).stop = t.stop := by
  rw [stop, stop, tag_bare]

@[simp] theorem Tree.line_bare : (t.bare d).line = t.line := by
  rw [line, line, start_bare]

@[simp] theorem Tree.isNamed_bare : (t.bare d).isNamed = t.isNamed := by
  rw [isNamed, isNamed, kind_bare]

@[simp] theorem Tree.text_bare : (t.bare d).text src = t.text src := by
  rw [text, text, start_bare, stop_bare]

theorem commentsApartIn_iff :
    commentsApartIn d ts = true ↔ ∀ c ∈ ts, standsApart d c = true ∧ c.commentsApart d = true := by
  induction ts with
  | nil => simp [commentsApartIn]
  | cons t ts ih => simp [commentsApartIn, ih]

theorem standsApart_of_mem (apart : t.commentsApart d = true) (child : c ∈ t.children) :
    standsApart d c = true ∧ c.commentsApart d = true := by
  cases t
  rw [Tree.commentsApart, Bool.and_eq_true] at apart
  exact commentsApartIn_iff.mp apart.2 c child

theorem isSome_condition (apart : t.commentsApart d = true) (access : t.kind = .conditionalAccess) :
    (t.child? .condition).isSome = true := by
  cases t with
  | node tag children =>
      have is : tag.kind = .conditionalAccess := access
      rw [Tree.commentsApart, is, Bool.and_eq_true] at apart
      rw [Tree.child?, List.find?_isSome, Tree.children]
      simpa using apart.1

theorem of_comment (apart : standsApart d c = true) (comment : d.isComment c.kind = true) :
    c.label = none ∧ c.children = [] := by
  simpa [standsApart, comment] using apart

/-! ### Children picked by a label or by a kind -/

theorem find?_bareAll {p p' : Tree → Bool} (same : ∀ c, p' (c.bare d) = p c)
    (code : ∀ c ∈ ts, d.isComment c.kind = true → p c = false) :
    (bareAll d ts).find? p' = (ts.find? p).map (Tree.bare d) := by
  induction ts with
  | nil => rfl
  | cons t ts ih =>
      have rest := ih fun c member => code c (List.mem_cons_of_mem t member)
      cases comment : d.isComment t.kind with
      | true => simp [bareAll, comment, code t List.mem_cons_self comment, rest]
      | false => cases picked : p t <;> simp [bareAll, comment, same, picked, rest]

theorem filter_bareAll {p : Tree → Bool} (same : ∀ c, p (c.bare d) = p c) :
    (bareAll d ts).filter p = bareAll d (ts.filter p) := by
  rw [bareAll_eq, bareAll_eq, List.filter_map, List.filter_filter, List.filter_filter]
  refine congrArg _ (List.filter_congr fun c _ => ?_)
  rw [Function.comp_apply, same, Bool.and_comm]

theorem bareAll_eq_map (code : ∀ c ∈ ts, d.isComment c.kind = false) :
    bareAll d ts = ts.map (Tree.bare d) := by
  rw [bareAll_eq, List.filter_eq_self.mpr]
  intro c member
  rw [code c member]
  rfl

theorem Tree.namedChildren_bare : (t.bare d).namedChildren = bareAll d t.namedChildren := by
  rw [namedChildren, children_bare]
  exact filter_bareAll fun _ => isNamed_bare

theorem Tree.child?_bare (apart : t.commentsApart d = true) (l : Label) :
    (t.bare d).child? l = (t.child? l).map (Tree.bare d) := by
  rw [child?, children_bare]
  refine find?_bareAll (fun c => by rw [label_bare]) fun c child comment => ?_
  rw [(of_comment (standsApart_of_mem apart child).1 comment).1]
  rfl

theorem commentsApart_of_child? {l : Label} (apart : t.commentsApart d = true)
    (is : t.child? l = some c) : standsApart d c = true ∧ c.commentsApart d = true :=
  standsApart_of_mem apart (List.mem_of_find?_eq_some is)

theorem commentsApart_of_namedChild (apart : t.commentsApart d = true)
    (is : c ∈ t.namedChildren) : standsApart d c = true ∧ c.commentsApart d = true :=
  standsApart_of_mem apart (List.mem_of_mem_filter is)

theorem Dialect.kind_of_isComment {kind : Kind} (comment : d.isComment kind = true) :
    kind = .lineComment ∨ kind = .blockComment ∨ kind = .comment := by
  unfold Dialect.isComment at comment
  split at comment <;> simp_all

def FailsComments (q : Kind → Bool) : Prop :=
  (q .lineComment || q .blockComment || q .comment) = false

theorem FailsComments.eq_false {q : Kind → Bool} {kind : Kind} (fails : FailsComments q)
    (comment : d.isComment kind = true) : q kind = false := by
  simp only [FailsComments, Bool.or_eq_false_iff] at fails
  obtain ⟨⟨line, block⟩, plain⟩ := fails
  rcases Dialect.kind_of_isComment comment with rfl | rfl | rfl
  · exact line
  · exact block
  · exact plain

theorem find?_kind_bareAll {q : Kind → Bool} (fails : FailsComments q) (ts : List Tree) :
    (bareAll d ts).find? (fun c => q c.kind) =
      (ts.find? fun c => q c.kind).map (Tree.bare d) :=
  find?_bareAll (fun c => by rw [Tree.kind_bare]) fun _ _ comment => fails.eq_false comment

theorem filter_kind_bareAll {q : Kind → Bool} (fails : FailsComments q) (ts : List Tree) :
    (bareAll d ts).filter (fun c => q c.kind) =
      (ts.filter fun c => q c.kind).map (Tree.bare d) := by
  rw [filter_bareAll fun c => by rw [Tree.kind_bare], bareAll_eq_map]
  intro c member
  refine Bool.eq_false_iff.mpr fun comment => ?_
  have picked : q c.kind = true := (List.mem_filter.mp member).2
  rw [fails.eq_false comment] at picked
  cases picked

theorem reverse_bareAll : (bareAll d ts).reverse = bareAll d ts.reverse := by
  rw [bareAll_eq, bareAll_eq, List.filter_reverse, List.map_reverse]

end Syntax

namespace Dialect

variable {d : Dialect} {src : Source} {t c : Tree} {around : List Tree}

/-! ### What the nodes mean -/

theorem importName?_bare : d.importName? src (t.bare d) = d.importName? src t := by
  cases d with
  | java =>
      have first := find?_kind_bareAll (d := .java)
        (q := fun k => k == .scopedIdentifier || k == .identifier) rfl t.namedChildren
      have wild := find?_kind_bareAll (d := .java) (q := fun k => k == .asterisk) rfl
        t.namedChildren
      simp only [importName?, Tree.kind_bare, Tree.namedChildren_bare, first, ← List.isSome_find?,
        wild, Option.isSome_map, Option.map_map, Function.comp_def, Tree.text_bare]
  | csharp =>
      have last := find?_kind_bareAll (d := .csharp)
        (q := fun k => k == .qualifiedName || k == .identifier || k == .genericName ||
          k == .aliasQualifiedName) rfl t.namedChildren.reverse
      simp only [importName?, Tree.kind_bare, Tree.namedChildren_bare, reverse_bareAll, last,
        Option.map_map, Function.comp_def, Tree.text_bare]

/-- The uses of annotations below a node, each with its name. -/
theorem annotationUses_bare {q : Kind → Bool} (fails : FailsComments q)
    (rename : String → String) (apart : t.commentsApart d = true) :
    ((bareAll d t.namedChildren).filter fun c => q c.kind).filterMap (fun a : Tree =>
        (a.child? .name).map fun name => AnnotationUse.mk (rename (name.text src)) a.line) =
      (t.namedChildren.filter fun c => q c.kind).filterMap fun a : Tree =>
        (a.child? .name).map fun name => AnnotationUse.mk (rename (name.text src)) a.line := by
  rw [filter_kind_bareAll fails, List.filterMap_map]
  refine List.filterMap_congr fun a member => ?_
  have below := commentsApart_of_namedChild apart (List.mem_of_mem_filter member)
  rw [Function.comp_apply, Tree.child?_bare below.2, Option.map_map]
  simp only [Function.comp_def, Tree.text_bare, Tree.line_bare]

theorem annotations_bare (apart : t.commentsApart d = true) :
    d.annotations src (t.bare d) = d.annotations src t := by
  cases d with
  | java =>
      have modifiers := find?_kind_bareAll (d := .java) (q := fun k => k == .modifiers) rfl
        t.namedChildren
      simp only [annotations, Tree.namedChildren_bare, modifiers]
      cases found : t.namedChildren.find? fun c => c.kind == .modifiers with
      | none => rfl
      | some holder =>
          have below := commentsApart_of_namedChild apart (List.mem_of_find?_eq_some found)
          simp only [Option.map_some, Tree.namedChildren_bare]
          exact annotationUses_bare (q := fun k => k == .annotationMark || k == .annotationCall) rfl
            simpleName below.2
  | csharp =>
      have lists := filter_kind_bareAll (d := .csharp) (q := fun k => k == .attributeList) rfl
        t.namedChildren
      simp only [annotations, Tree.namedChildren_bare, lists, List.filterMap_flatMap,
        List.flatMap_map]
      refine List.flatMap_congr fun holder member => ?_
      have below := commentsApart_of_namedChild apart (List.mem_of_mem_filter member)
      exact annotationUses_bare (q := fun k => k == .attributeUse) rfl
        (fun name => attributeName (simpleName name)) below.2

theorem isMethodBody_bare (apart : t.commentsApart d = true) :
    d.isMethodBody (t.bare d) (c.bare d) = d.isMethodBody t c := by
  simp only [isMethodBody, Tree.child?_bare apart, Tree.label_bare, Tree.kind_bare,
    Option.isNone_map]

theorem isMethodBody_of_comment {member : Tree} (apart : standsApart d c = true)
    (comment : d.isComment c.kind = true) : d.isMethodBody member c = false := by
  have block : (c.kind == .block) = false :=
    FailsComments.eq_false (q := fun k => k == .block) rfl comment
  have arrow : (c.kind == .arrowClause) = false :=
    FailsComments.eq_false (q := fun k => k == .arrowClause) rfl comment
  simp [isMethodBody, (of_comment apart comment).1, block, arrow]

theorem methodBody?_bare (apart : t.commentsApart d = true) :
    d.methodBody? (t.bare d) = (d.methodBody? t).map (Tree.bare d) := by
  rw [methodBody?, Tree.children_bare]
  refine find?_bareAll (fun c => isMethodBody_bare apart) fun c child comment => ?_
  exact isMethodBody_of_comment (standsApart_of_mem apart child).1 comment

theorem accessTarget_bare (apart : t.commentsApart d = true)
    (access : t.kind = .conditionalAccess) :
    accessTarget (t.bare d) = (accessTarget t).map (Tree.bare d) := by
  obtain ⟨c, is⟩ := Option.isSome_iff_exists.mp (isSome_condition apart access)
  rw [accessTarget, accessTarget, Tree.child?_bare apart, is]
  rfl

theorem invokedMember_bare (apart : t.commentsApart d = true)
    (outer : ∀ a ∈ around, a.commentsApart d = true) :
    invokedMember (around.map (Tree.bare d)) (t.bare d) =
      (invokedMember around t).map (Prod.map (Tree.bare d) (Option.map (Tree.bare d))) := by
  unfold invokedMember
  rw [Tree.kind_bare]
  split
  · rw [Tree.child?_bare apart, Tree.child?_bare apart, Option.map_map, Option.map_map]
    rfl
  · rfl
  · rfl
  · next access =>
      have binding := find?_kind_bareAll (d := d) (q := fun k => k == .memberBinding) rfl
        t.namedChildren
      rw [Tree.namedChildren_bare, binding, accessTarget_bare apart access]
      cases found : t.namedChildren.find? fun c => c.kind == .memberBinding with
      | none => rfl
      | some binding =>
          have below := commentsApart_of_namedChild apart (List.mem_of_find?_eq_some found)
          simp only [Option.map_some, Option.bind_eq_bind, Option.bind_some,
            Tree.child?_bare below.2]
          cases binding.child? .name <;> rfl
  · have nearest : ((around.map (Tree.bare d)).take 4).find? (·.kind == .conditionalAccess) =
        ((around.take 4).find? (·.kind == .conditionalAccess)).map (Tree.bare d) := by
      rw [← List.map_take, List.find?_map]
      simp only [Function.comp_def, Tree.kind_bare]
    rw [nearest, Tree.child?_bare apart, Option.map_map, Option.map_map]
    cases found : (around.take 4).find? (·.kind == .conditionalAccess) with
    | none => rfl
    | some access =>
        have member := List.mem_of_mem_take (List.mem_of_find?_eq_some found)
        have is : access.kind = .conditionalAccess := by simpa using List.find?_some found
        simp only [Option.map_some, Option.bind_some, accessTarget_bare (outer access member) is]
        rfl
  · rfl

def CallShape.bare (d : Dialect) (call : CallShape) : CallShape :=
  { call with place := call.place.bare d, receiver := call.receiver.map (Tree.bare d) }

variable (src) in
theorem call?_bare (apart : t.commentsApart d = true)
    (outer : ∀ a ∈ around, a.commentsApart d = true) :
    d.call? src (around.map (Tree.bare d)) (t.bare d) =
      (d.call? src around t).map (CallShape.bare d) := by
  unfold call?
  rw [Tree.kind_bare]
  split
  · rw [Tree.child?_bare apart, Tree.child?_bare apart, Option.map_map, Option.map_map]
    simp only [Function.comp_def, Tree.text_bare, CallShape.bare]
  · rfl
  · rw [Tree.child?_bare apart, Option.map_map, Option.map_map]
    simp only [Function.comp_def, Tree.text_bare, CallShape.bare, Option.map_none]
  · rw [Tree.child?_bare apart]
    cases is : t.child? .function with
    | none => rfl
    | some function =>
        have below := commentsApart_of_child? apart is
        have enclosing : ∀ a ∈ t :: around, Tree.commentsApart _ a = true :=
          List.forall_mem_cons.mpr ⟨apart, outer⟩
        have invoked := invokedMember_bare below.2 enclosing
        rw [List.map_cons] at invoked
        simp only [Option.map_some, Option.bind_eq_bind, Option.bind_some, invoked]
        cases invokedMember (t :: around) function with
        | none => rfl
        | some found =>
            simp only [Option.map_some, Option.bind_some, Prod.map, Tree.text_bare]
            rfl
  · rfl

end Dialect

namespace Syntax

variable {d : Dialect} {src : Source} {t : Tree} {ts around : List Tree}

/-! ### The steps of the walk -/

/-- The second modes are the first ones without those of the comments among the nodes. -/
inductive Alongside (d : Dialect) : List Tree → List (Option Mode) → List (Option Mode) → Prop
  | nil {modes bare : List (Option Mode)} : Alongside d [] modes bare
  | comment {t : Tree} {ts : List Tree} {modes bare : List (Option Mode)}
      (is : d.isComment t.kind = true) (rest : Alongside d ts modes.tail bare) :
      Alongside d (t :: ts) modes bare
  | code {t : Tree} {ts : List Tree} {modes bare : List (Option Mode)}
      (is : d.isComment t.kind = false) (same : bare.head?.join = modes.head?.join)
      (rest : Alongside d ts modes.tail bare.tail) : Alongside d (t :: ts) modes bare

namespace Alongside

theorem empty : Alongside d ts [] [] := by
  induction ts with
  | nil => exact .nil
  | cons t ts ih =>
      cases is : d.isComment t.kind with
      | true => exact .comment is ih
      | false => exact .code is rfl ih

theorem map {f f' : Tree → Option Mode}
    (same : ∀ c ∈ ts, d.isComment c.kind = false → f' (c.bare d) = f c) :
    Alongside d ts (ts.map f) ((bareAll d ts).map f') := by
  induction ts with
  | nil => exact .nil
  | cons t ts ih =>
      have rest := ih fun c member => same c (List.mem_cons_of_mem t member)
      cases is : d.isComment t.kind with
      | true =>
          rw [bareAll, if_pos is]
          exact .comment is rest
      | false =>
          rw [bareAll, if_neg (Bool.eq_false_iff.mp is)]
          exact .code is (same t List.mem_cons_self is) rest

theorem markFirst {p p' : Tree → Bool} {mode mode' : Tree → Mode}
    (plain : ∀ c ∈ ts, d.isComment c.kind = true → p c = false)
    (same : ∀ c, p' (c.bare d) = p c) (modes : ∀ c, mode' (c.bare d) = mode c) :
    Alongside d ts (markFirst p mode ts) (Syntax.markFirst p' mode' (bareAll d ts)) := by
  induction ts with
  | nil => exact .nil
  | cons t ts ih =>
      have rest := ih fun c member => plain c (List.mem_cons_of_mem t member)
      cases is : d.isComment t.kind with
      | true =>
          rw [bareAll, if_pos is, Syntax.markFirst, plain t List.mem_cons_self is]
          exact .comment is rest
      | false =>
          rw [bareAll, if_neg (Bool.eq_false_iff.mp is), Syntax.markFirst, Syntax.markFirst, same]
          split
          · exact .code is (congrArg some (modes t)) (.map fun _ _ _ => rfl)
          · exact .code is rfl rest

end Alongside

/-- One entry for each node; `f` is told of the first one that satisfies `p` that it is. -/
def tellFirst (p : Tree → Bool) (f : Bool → Tree → Option Mode) :
    List Tree → List (Option Mode)
  | [] => []
  | t :: ts => if p t then f true t :: ts.map (f false) else f false t :: tellFirst p f ts

theorem mapIdx_eq_tellFirst (p : Tree → Bool) (f : Bool → Tree → Option Mode) :
    (ts.mapIdx fun i c => f (ts.findIdx? p == some i) c) = tellFirst p f ts := by
  induction ts with
  | nil => rfl
  | cons t ts ih =>
      rw [List.mapIdx_cons, List.findIdx?_cons, tellFirst]
      split
      · refine congrArg (_ :: ·) (List.ext_getElem? fun i => ?_)
        rw [List.getElem?_mapIdx, List.getElem?_map]
        rfl
      · refine congr (congrArg _ ?_) (Eq.trans ?_ ih)
        · cases ts.findIdx? p <;> rfl
        · refine congrArg (List.mapIdx · ts) (funext fun i => funext fun c => ?_)
          cases ts.findIdx? p <;> simp

theorem childModes_of_call {callee : Option String} {call : Dialect.CallShape}
    (is : d.call? src around t = some call) :
    childModes d src around t (.body callee) =
      tellFirst (fun c => call.hasArguments && c.label == some .arguments)
        (fun first => innerMode d (if first then some call.callee else callee)) t.children := by
  have index : call.argumentsIndex? t =
      t.children.findIdx? fun c => call.hasArguments && c.label == some .arguments := by
    rw [Dialect.CallShape.argumentsIndex?]
    cases call.hasArguments with
    | true => rfl
    | false => exact (List.findIdx?_eq_none_iff.mpr fun _ _ => rfl).symm
  simp only [childModes, is, index]
  exact mapIdx_eq_tellFirst _ fun first => innerMode d (if first then some call.callee else callee)

theorem Alongside.tellFirst {p p' : Tree → Bool} {f f' : Bool → Tree → Option Mode}
    (plain : ∀ c ∈ ts, d.isComment c.kind = true → p c = false)
    (same : ∀ c, p' (c.bare d) = p c) (modes : ∀ first c, f' first (c.bare d) = f first c) :
    Alongside d ts (tellFirst p f ts) (Syntax.tellFirst p' f' (bareAll d ts)) := by
  induction ts with
  | nil => exact .nil
  | cons t ts ih =>
      have rest := ih fun c member => plain c (List.mem_cons_of_mem t member)
      cases is : d.isComment t.kind with
      | true =>
          rw [bareAll, if_pos is, Syntax.tellFirst, plain t List.mem_cons_self is]
          exact .comment is rest
      | false =>
          rw [bareAll, if_neg (Bool.eq_false_iff.mp is), Syntax.tellFirst, Syntax.tellFirst, same]
          split
          · exact .code is (modes true t) (.map fun c _ _ => modes false c)
          · exact .code is (modes false t) rest

theorem innerMode_bare (callee : Option String) (c : Tree) :
    innerMode d callee (c.bare d) = innerMode d callee c := by
  rw [innerMode, innerMode, Tree.isNamed_bare, bodyMode, bodyMode, Tree.kind_bare]

variable (src) in
/-- In the tree without comments the walk goes on below a node as it does in the tree. -/
theorem childModes_bare (apart : t.commentsApart d = true)
    (outer : ∀ a ∈ around, a.commentsApart d = true) (mode : Mode) :
    Alongside d t.children (childModes d src around t mode)
      (childModes d src (around.map (Tree.bare d)) (t.bare d) mode) := by
  have unlabelled : ∀ c ∈ t.children, d.isComment c.kind = true → ∀ l : Label,
      (c.label == some l) = false := by
    intro c child comment l
    rw [(of_comment (standsApart_of_mem apart child).1 comment).1]
    rfl
  cases mode with
  | scope =>
      rw [childModes, childModes, Tree.children_bare]
      refine .map fun c _ _ => ?_
      simp only [scopeMode, Tree.isNamed_bare, Dialect.importName?_bare, Tree.kind_bare]
  | importing => exact .empty
  | type =>
      rw [childModes, childModes, Tree.children_bare]
      exact .markFirst (fun c child comment => unlabelled c child comment _)
        (fun c => by rw [Tree.label_bare]) fun _ => rfl
  | members =>
      rw [childModes, childModes, Tree.children_bare]
      refine .map fun c child _ => ?_
      simp only [memberMode, Tree.isNamed_bare, Tree.kind_bare, Option.isSome_map,
        Dialect.methodBody?_bare (standsApart_of_mem apart child).2]
  | method =>
      rw [childModes, childModes, Tree.children_bare]
      refine .markFirst (fun c child => Dialect.isMethodBody_of_comment
        (standsApart_of_mem apart child).1) (fun c => Dialect.isMethodBody_bare apart) fun c => ?_
      rw [bodyMode, bodyMode, Tree.kind_bare]
  | body callee =>
      have again := Dialect.call?_bare src apart outer
      cases is : d.call? src around t with
      | none =>
          rw [is] at again
          simp only [childModes, is, again, Option.map_none, Tree.kind_bare, Tree.children_bare]
          split
          · exact .empty
          · exact .map fun c _ _ => innerMode_bare callee c
      | some call =>
          rw [is] at again
          -- The arguments have another number without comments, but the same label.
          rw [childModes_of_call is, childModes_of_call again, Tree.children_bare]
          refine .tellFirst (fun c child comment => ?_) (fun c => ?_) fun first => innerMode_bare _
          · rw [unlabelled c child comment, Bool.and_false]
          · rw [Tree.label_bare]
            rfl

/-! ### The nodes met -/

def Visit.bare (d : Dialect) (v : Visit) : Visit :=
  { v with tree := v.tree.bare d, around := v.around.map (Tree.bare d) }

section

variable {keep : Mode → Bool}

/-- A comment is all that is met from it on. -/
theorem filter_visits_comment (apart : standsApart d t = true) (is : d.isComment t.kind = true)
    (mode : Mode) (depth : Depth) :
    ((visits d src keep around mode depth t).filter fun v => !d.isComment v.tree.kind) = [] := by
  cases t with
  | node tag children =>
      obtain rfl : children = [] := (of_comment apart is).2
      rw [visits, visitsBelow, List.filter_cons_of_neg]
      · rfl
      · simp [is]

mutual

/-- In the tree without comments the walk meets what it meets in the tree, comments apart. -/
theorem visits_bare {around : List Tree} (outer : ∀ a ∈ around, a.commentsApart d = true)
    (mode : Mode) (depth : Depth) :
    ∀ t : Tree, t.commentsApart d = true → d.isComment t.kind = false →
      visits d src keep (around.map (Tree.bare d)) mode depth (t.bare d) =
        ((visits d src keep around mode depth t).filter fun v => !d.isComment v.tree.kind).map
          (Visit.bare d)
  | .node tag children, apart, code => by
      have enclosing : ∀ a ∈ Tree.node tag children :: around, a.commentsApart d = true :=
        List.forall_mem_cons.mpr ⟨apart, outer⟩
      have below := visitsBelow_bare enclosing (depth.descend mode tag.kind) children
        (childModes_bare src apart outer mode) fun c child => standsApart_of_mem apart child
      have kept : d.isComment tag.kind = false := code
      rw [Tree.bare, visits, visits, List.filter_cons_of_pos, List.map_cons, ← below]
      · rfl
      · simp [Tree.kind, Tree.tag, kept]

theorem visitsBelow_bare {around : List Tree} (outer : ∀ a ∈ around, a.commentsApart d = true)
    (depth : Depth) :
    ∀ (ts : List Tree) {modes bare : List (Option Mode)}, Alongside d ts modes bare →
      (∀ c ∈ ts, standsApart d c = true ∧ c.commentsApart d = true) →
      visitsBelow d src keep (around.map (Tree.bare d)) bare depth (bareAll d ts) =
        ((visitsBelow d src keep around modes depth ts).filter fun v =>
          !d.isComment v.tree.kind).map (Visit.bare d)
  | [], _, _, _, _ => rfl
  | t :: ts, modes, bare, steps, apart => by
      have rest : ∀ c ∈ ts, standsApart d c = true ∧ c.commentsApart d = true :=
        fun c member => apart c (List.mem_cons_of_mem t member)
      obtain ⟨apartHere, below⟩ := apart t List.mem_cons_self
      rw [visitsBelow_cons, List.filter_append, List.map_append]
      cases steps with
      | comment is steps =>
          -- In a body a comment is met, but nothing below it.
          rw [bareAll, if_pos is, visitsBelow_bare outer depth ts steps rest]
          cases modes.head?.join with
          | none => rfl
          | some mode =>
              dsimp only [visitsAs]
              split
              · rw [filter_visits_comment apartHere is]
                rfl
              · rfl
      | code is same steps =>
          rw [bareAll, if_neg (Bool.eq_false_iff.mp is), visitsBelow_cons, same,
            visitsBelow_bare outer depth ts steps rest]
          refine congrArg (· ++ _) ?_
          cases modes.head?.join with
          | none => rfl
          | some mode =>
              dsimp only [visitsAs]
              split
              · exact visits_bare outer mode depth t below is
              · rfl

end

end

/-! ### Tokens -/

theorem leaves_eq_leavesOfAll {tag : Tag} (more : ts ≠ []) :
    leaves (.node tag ts) = leavesOfAll ts := by
  cases ts with
  | nil => exact absurd rfl more
  | cons c cs => rfl

mutual

/-- No node but a token of the tree is a token of the tree without comments. -/
theorem leaves_bare :
    ∀ t : Tree, standsApart d t = true → t.commentsApart d = true → d.isComment t.kind = false →
      leaves (t.bare d) = ((leaves t).filter fun leaf => !d.isComment leaf.kind).map (Tree.bare d)
  | .node tag [], _, _, code => by
      simp [Tree.bare, bareAll, leaves, code]
  | .node tag (c :: cs), apart, below, code => by
      have some : ∃ below ∈ c :: cs, d.isComment below.kind = false := by
        simpa only [standsApart, code, Tree.children, Bool.false_eq_true, if_false,
          List.isEmpty_cons, Bool.false_or, List.any_eq_true, Bool.not_eq_true'] using apart
      have more : bareAll d (c :: cs) ≠ [] := by
        rw [bareAll_eq]
        simpa only [ne_eq, List.map_eq_nil_iff, List.filter_eq_nil_iff, Bool.not_eq_true',
          not_forall, Bool.not_eq_false, exists_prop, Bool.not_eq_true] using some
      rw [Tree.bare, leaves_eq_leavesOfAll more, leaves_eq_leavesOfAll (List.cons_ne_nil c cs)]
      exact leavesOfAll_bare (c :: cs) fun _ child => standsApart_of_mem below child

theorem leavesOfAll_bare :
    ∀ ts : List Tree, (∀ c ∈ ts, standsApart d c = true ∧ c.commentsApart d = true) →
      leavesOfAll (bareAll d ts) =
        ((leavesOfAll ts).filter fun leaf => !d.isComment leaf.kind).map (Tree.bare d)
  | [], _ => rfl
  | t :: ts, apart => by
      have rest := leavesOfAll_bare ts fun c member => apart c (List.mem_cons_of_mem t member)
      obtain ⟨apartHere, below⟩ := apart t List.mem_cons_self
      rw [leavesOfAll, List.filter_append, List.map_append, ← rest]
      cases is : d.isComment t.kind with
      | true =>
          rw [bareAll, if_pos is]
          cases t with
          | node tag children =>
              obtain rfl : children = [] := (of_comment apartHere is).2
              simp [leaves, is]
      | false =>
          rw [bareAll, if_neg (Bool.eq_false_iff.mp is), leavesOfAll,
            leaves_bare t apartHere below is]

end

end Syntax

end LayerLint
