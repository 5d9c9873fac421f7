import LayerLint.Syntax.Receiver
import LayerLint.Proofs.Syntax.Walk
import LayerLint.Proofs.Text.SimpleName
import Mathlib.Data.List.Forall2
import Mathlib.Data.List.TakeWhile

/-! Receiver chains. A chain of accesses, calls, indices and parentheses has one tree in Java and
another one in C#, where a call takes two nodes. Both trees lead to the name at the root of the
chain. -/

namespace LayerLint.Syntax

open Text

/-! ### Chains and their trees -/

/-- A receiver chain. Its root is a name or a call without a receiver, or one of them on `this`. -/
inductive Chain where
  | name (x : String)
  | ownField (x : String)
  | call (f : String)
  | ownCall (f : String)
  | field (on : Chain) (name : String)
  | method (on : Chain) (name : String)
  | item (on : Chain)
  | group (on : Chain)

namespace Chain

def root : Chain → String
  | name x | ownField x | call x | ownCall x => x
  | field on _ | method on _ | item on | group on => on.root

def steps : Chain → Nat
  | name _ | ownField _ | call _ | ownCall _ => 0
  | field on _ | method on _ | item on | group on => on.steps + 1

/-- The nodes from a chain to its root, where a call takes `perCall` nodes. -/
def links (perCall : Nat) : Chain → Nat
  | name _ | ownField _ => 1
  | call _ | ownCall _ => perCall
  | method on _ => on.links perCall + perCall
  | field on _ | item on | group on => on.links perCall + 1

theorem links_le {perCall : Nat} (atLeast : 1 ≤ perCall) (chain : Chain) :
    chain.links perCall ≤ perCall * (chain.steps + 1) := by
  induction chain with
  | name x | ownField x => simpa [links, steps] using atLeast
  | call f | ownCall f => simp [links, steps]
  | method on f ih =>
      rw [links, steps, Nat.mul_succ]
      omega
  | field on x ih | item on ih | group on ih =>
      rw [links, steps, Nat.mul_succ]
      omega

end Chain

/-- A token with a text. -/
structure IsLeaf (src : Source) (kind : Kind) (text : String) (t : Tree) : Prop where
  kind : t.kind = kind
  leaf : t.children = []
  text : t.text src = text
  inside : t.stop.offset ≤ src.size

/-- A child of a node: its label and what it is. -/
abbrev Part := Option Label × (Tree → Prop)

/-- A node with some parts as its children. -/
structure IsNode (kind : Kind) (parts : List Part) (t : Tree) : Prop where
  kind : t.kind = kind
  parts : List.Forall₂ (fun c part => c.label = part.1 ∧ part.2 c) t.children parts
  inside : ∀ c ∈ t.children, t.start.offset ≤ c.start.offset ∧ c.stop.offset ≤ t.stop.offset

section

variable (src : Source)

def tokenPart (text : String) : Part :=
  (none, IsLeaf src (.token text) text)

def IsBracketed (kind : Kind) (opening closing : String) (t : Tree) : Prop :=
  ∃ inner, IsNode kind (tokenPart src opening :: (inner ++ [tokenPart src closing])) t

def argumentsPart : Part :=
  (some .arguments, IsBracketed src .argumentList "(" ")")

def namePart (label : Label) (x : String) : Part :=
  (some label, IsLeaf src .identifier x)

def IsGroup (inner : Tree → Prop) : Tree → Prop :=
  IsNode .parenthesizedExpression [tokenPart src "(", (none, inner), tokenPart src ")"]

def IsThis : Dialect → Tree → Prop
  | .java => IsLeaf src .this "this"
  | .csharp => IsLeaf src (.token "this") "this"

def IsMember (object : Tree → Prop) (x : String) : Dialect → Tree → Prop
  | .java => IsNode .fieldAccess
      [(some .object, object), tokenPart src ".", namePart src .field x]
  | .csharp => IsNode .memberAccess
      [(some .expression, object), tokenPart src ".", namePart src .name x]

def IsCall (f : String) : Dialect → Tree → Prop
  | .java => IsNode .methodInvocation [namePart src .name f, argumentsPart src]
  | .csharp => IsNode .invocation
      [(some .function, IsLeaf src .identifier f), argumentsPart src]

/-- A call on an object. In C# it is the call of a member. -/
def IsCallOn (object : Tree → Prop) (f : String) : Dialect → Tree → Prop
  | .java => IsNode .methodInvocation
      [(some .object, object), tokenPart src ".", namePart src .name f, argumentsPart src]
  | .csharp => IsNode .invocation
      [(some .function, IsMember src object f .csharp), argumentsPart src]

def IsItem (object : Tree → Prop) : Dialect → Tree → Prop
  | .java => IsNode .arrayAccess
      [(some .array, object), tokenPart src "[", (none, fun _ => True), tokenPart src "]"]
  | .csharp => IsNode .elementAccess
      [(some .expression, object), (none, IsBracketed src .bracketedArgumentList "[" "]")]

def Chain.IsTree (d : Dialect) : Chain → Tree → Prop
  | name x => IsLeaf src .identifier x
  | ownField x => IsMember src (IsThis src d) x d
  | call f => IsCall src f d
  | ownCall f => IsCallOn src (IsThis src d) f d
  | field on x => IsMember src (on.IsTree d) x d
  | method on f => IsCallOn src (on.IsTree d) f d
  | item on => IsItem src (on.IsTree d) d
  | group on => IsGroup src (on.IsTree d)

end

/-- A name that stands neither for the class itself nor for a generic or qualified one. -/
structure IsPlainName (x : String) : Prop where
  notSelf : x ∉ ["this", "super", "base"]
  chars : ∀ c ∈ x.toList, c ≠ '<' ∧ c ≠ '.' ∧ isBlank c = false

/-! ### Names -/

theorem IsPlainName.simpleName {x : String} (plain : IsPlainName x) : simpleName x = x := by
  have ungeneric : x.toList.takeWhile (· != '<') = x.toList := by
    rw [List.takeWhile_eq_self_iff]
    intro c member
    simpa using (plain.chars c member).1
  have unqualified : afterLast (· == '.') x.toList = x.toList := by
    apply afterLast_of_forall
    intro c member
    simpa using (plain.chars c member).2.1
  have unspaced := trimmed_of_no_blank fun c member => (plain.chars c member).2.2
  rw [Text.simpleName, ungeneric, String.ofList_toList, unspaced, unqualified,
    String.ofList_toList, unspaced]

/-! ### Texts of nodes -/

theorem Source.toList_slice (src : Source) (start stop : Nat) :
    (src.slice start stop).toList = (src.chars.toList.drop start).take (stop - start) := by
  rw [slice, String.toList_ofList, Array.toList_extract, List.extract_eq_take_drop]

theorem Source.mem_slice {src : Source} {start stop : Nat} {ch : Char} :
    ch ∈ (src.slice start stop).toList ↔
      ∃ k, start ≤ k ∧ k < stop ∧ src.at? k = some ch := by
  rw [toList_slice, List.mem_iff_getElem?]
  simp only [List.getElem?_take, List.getElem?_drop, Array.getElem?_toList, at?]
  constructor
  · rintro ⟨i, there⟩
    split at there
    · exact ⟨start + i, by omega, by omega, there⟩
    · cases there
  · rintro ⟨k, low, high, there⟩
    refine ⟨k - start, ?_⟩
    rw [if_pos (by omega), Nat.add_sub_of_le low]
    exact there

theorem Source.length_slice {src : Source} {start stop : Nat} (inside : stop ≤ src.size) :
    (src.slice start stop).length = stop - start := by
  have size : src.chars.toList.length = src.size := Array.length_toList
  rw [← String.length_toList, toList_slice, List.length_take, List.length_drop, size]
  omega

variable {src : Source} {t : Tree}

theorem IsLeaf.isSelf {kind : Kind} (this : IsLeaf src kind "this" t) : isSelf src t = true := by
  have width : t.stop.offset - t.start.offset = 4 := by
    rw [← Source.length_slice this.inside]
    exact congrArg String.length this.text
  simp +decide [Syntax.isSelf, width, this.text]

theorem isSelf_eq_false (notSelf : t.text src ∉ ["this", "super", "base"]) :
    isSelf src t = false := by
  rw [← Bool.not_eq_true, isSelf, List.any_eq_true]
  rintro ⟨word, listed, is⟩
  rw [eq_of_beq (Bool.and_eq_true_iff.mp is).2] at notSelf
  exact notSelf listed

namespace IsNode

variable {kind : Kind} {parts : List Part} {part : Part}

theorem exists_child (node : IsNode kind parts t) (member : part ∈ parts) :
    ∃ c ∈ t.children, part.2 c := by
  obtain ⟨-, children, -⟩ := node
  generalize t.children = cs at children
  induction children with
  | nil => cases member
  | cons fits rest ih =>
      rcases List.mem_cons.mp member with rfl | later
      · exact ⟨_, List.mem_cons_self, fits.2⟩
      · obtain ⟨c, there, is⟩ := ih later
        exact ⟨c, List.mem_cons_of_mem _ there, is⟩

/-- What a part shows, the node shows. -/
theorem shows (node : IsNode kind parts t) (member : part ∈ parts) {ch : Char}
    (shown : ∀ c, part.2 c → ch ∈ (c.text src).toList) : ch ∈ (t.text src).toList := by
  obtain ⟨c, child, is⟩ := node.exists_child member
  obtain ⟨k, low, high, there⟩ := Source.mem_slice.mp (shown c is)
  obtain ⟨start, stop⟩ := node.inside c child
  exact Source.mem_slice.mpr ⟨k, by omega, by omega, there⟩

theorem shows_token (node : IsNode kind parts t) {text : String}
    (member : tokenPart src text ∈ parts)
    {ch : Char} (char : ch ∈ text.toList) : ch ∈ (t.text src).toList := by
  apply node.shows member
  intro c token
  rw [token.text]
  exact char

theorem child?_of_find? (node : IsNode kind parts t) {l : Label}
    (found : parts.find? (·.1 == some l) = some part) : ∃ c, t.child? l = some c ∧ part.2 c := by
  obtain ⟨-, children, -⟩ := node
  unfold Tree.child?
  generalize t.children = cs at children
  induction children with
  | nil => cases found
  | cons fits rest ih =>
      rw [List.find?_cons] at found ⊢
      rw [fits.1]
      split at found
      · obtain rfl := Option.some.inj found
        exact ⟨_, rfl, fits.2⟩
      · exact ih found

theorem child?_eq_none (node : IsNode kind parts t) {l : Label}
    (absent : parts.find? (·.1 == some l) = none) : t.child? l = none := by
  obtain ⟨-, children, -⟩ := node
  unfold Tree.child?
  generalize t.children = cs at children
  induction children with
  | nil => rfl
  | cons fits rest ih =>
      rw [List.find?_cons] at absent ⊢
      rw [fits.1]
      split at absent
      · cases absent
      · exact ih absent

end IsNode

theorem IsBracketed.shows {kind : Kind} {opening closing : String}
    (bracketed : IsBracketed src kind opening closing t) {ch : Char} (char : ch ∈ opening.toList) :
    ch ∈ (t.text src).toList := by
  obtain ⟨inner, node⟩ := bracketed
  exact node.shows_token List.mem_cons_self char

/-! ### Links -/

variable {d : Dialect} {object : Tree → Prop} {x : String}

theorem IsThis.isSelf (this : IsThis src d t) : isSelf src t = true := by
  cases d with
  | java => exact IsLeaf.isSelf this
  | csharp => exact IsLeaf.isSelf this

theorem accessLink_eq {owner member : Label} {o m : Tree} (child : t.child? owner = some o)
    (named : t.child? member = some m) :
    accessLink src t owner member =
      if isSelf src o then .found (simpleName (m.text src)) else .follow o := by
  simp only [accessLink, child, named, Option.map_some, Option.getD_some]

theorem IsMember.link (shape : IsMember src object x d t) :
    ∃ o, object o ∧
      link src t = if isSelf src o then .found (simpleName x) else .follow o := by
  cases d with
  | java =>
      obtain ⟨o, child, is⟩ := IsNode.child?_of_find? shape (l := .object) rfl
      obtain ⟨m, member, named⟩ := IsNode.child?_of_find? shape (l := .field) rfl
      refine ⟨o, is, ?_⟩
      simp only [Syntax.link, IsNode.kind shape]
      rw [accessLink_eq child member, IsLeaf.text named]
  | csharp =>
      obtain ⟨o, child, is⟩ := IsNode.child?_of_find? shape (l := .expression) rfl
      obtain ⟨m, member, named⟩ := IsNode.child?_of_find? shape (l := .name) rfl
      refine ⟨o, is, ?_⟩
      simp only [Syntax.link, IsNode.kind shape]
      rw [accessLink_eq child member, IsLeaf.text named]

theorem IsItem.link (shape : IsItem src object d t) : ∃ o, object o ∧ link src t = .follow o := by
  cases d with
  | java =>
      obtain ⟨o, child, is⟩ := IsNode.child?_of_find? shape (l := .array) rfl
      refine ⟨o, is, ?_⟩
      simp only [Syntax.link, IsNode.kind shape, child, Link.ofTree?]
  | csharp =>
      obtain ⟨o, child, is⟩ := IsNode.child?_of_find? shape (l := .expression) rfl
      refine ⟨o, is, ?_⟩
      simp only [Syntax.link, IsNode.kind shape, child, Link.ofTree?]

/-- Parentheses lead to what stands between them. -/
theorem IsGroup.link (shape : IsGroup src object t) (named : ∀ c, object c → c.isNamed = true) :
    ∃ c, object c ∧ link src t = .follow c := by
  have unnamed : ∀ {c text}, IsLeaf src (.token text) text c → c.isNamed = false := by
    intro c text token
    rw [Tree.isNamed, token.kind]
    rfl
  have children := shape.parts
  simp only [List.forall₂_cons_right_iff, List.forall₂_nil_right_iff] at children
  obtain ⟨left, _, ⟨-, leftIs⟩, ⟨c, _, ⟨-, is⟩, ⟨right, _, ⟨-, rightIs⟩, rfl, rfl⟩, rfl⟩, same⟩ :=
    children
  refine ⟨c, is, ?_⟩
  simp [Syntax.link, shape.kind, Tree.namedChildren, same, unnamed leftIs, unnamed rightIs,
    named c is, Link.ofTree?]

theorem IsCall.link_java (shape : IsCall src x .java t) : link src t = .found x := by
  have child := IsNode.child?_eq_none shape (l := .object) rfl
  obtain ⟨m, member, named⟩ := IsNode.child?_of_find? shape (l := .name) rfl
  simp [Syntax.link, IsNode.kind shape, child, member, IsLeaf.text named]

theorem IsCall.link_csharp (shape : IsCall src x .csharp t) :
    ∃ c, IsLeaf src .identifier x c ∧ link src t = .follow c := by
  obtain ⟨c, function, is⟩ := IsNode.child?_of_find? shape (l := .function) rfl
  refine ⟨c, is, ?_⟩
  simp only [Syntax.link, IsNode.kind shape, function, Link.ofTree?]

theorem IsCallOn.link_java (shape : IsCallOn src object x .java t) :
    ∃ o, object o ∧ link src t = if isSelf src o then .found x else .follow o := by
  obtain ⟨o, child, is⟩ := IsNode.child?_of_find? shape (l := .object) rfl
  obtain ⟨m, member, named⟩ := IsNode.child?_of_find? shape (l := .name) rfl
  refine ⟨o, is, ?_⟩
  cases self : isSelf src o <;>
    simp [Syntax.link, IsNode.kind shape, child, Option.filter_some, self, member,
      IsLeaf.text named]

theorem IsCallOn.link_csharp (shape : IsCallOn src object x .csharp t) :
    ∃ c, IsMember src object x .csharp c ∧ link src t = .follow c := by
  obtain ⟨c, function, is⟩ := IsNode.child?_of_find? shape (l := .function) rfl
  refine ⟨c, is, ?_⟩
  simp only [Syntax.link, IsNode.kind shape, function, Link.ofTree?]

/-! ### Chains do not read as `this` -/

def Punctuated (src : Source) (t : Tree) : Prop :=
  t.isNamed = true ∧ ∃ ch ∈ ['.', '(', '['], ch ∈ (t.text src).toList

theorem Punctuated.not_self (punctuated : Punctuated src t) : isSelf src t = false := by
  have foreign : (['.', '(', '['].all fun ch =>
      ["this", "super", "base"].all fun word => decide (ch ∉ word.toList)) = true := by
    decide
  obtain ⟨-, ch, punctuation, shown⟩ := punctuated
  apply isSelf_eq_false
  intro listed
  have words := List.all_eq_true.mp (List.all_eq_true.mp foreign ch punctuation) _ listed
  exact of_decide_eq_true words shown

namespace IsNode

variable {kind : Kind} {parts : List Part} {part : Part}

theorem punctuated (node : IsNode kind parts t) (named : kind.isNamed = true) (ch : Char)
    (punctuation : ch ∈ ['.', '(', '[']) (member : part ∈ parts)
    (shown : ∀ c, part.2 c → ch ∈ (c.text src).toList) : Punctuated src t := by
  refine ⟨?_, ch, punctuation, node.shows member shown⟩
  rw [Tree.isNamed, node.kind]
  exact named

theorem punctuated_arguments (node : IsNode kind parts t) (named : kind.isNamed = true)
    (member : argumentsPart src ∈ parts) : Punctuated src t :=
  node.punctuated named '(' (by decide) member fun _ arguments => arguments.shows (by decide)

theorem punctuated_token (node : IsNode kind parts t) (named : kind.isNamed = true) (text : String)
    (member : tokenPart src text ∈ parts) (ch : Char) (punctuation : ch ∈ ['.', '(', '['])
    (char : ch ∈ text.toList) : Punctuated src t :=
  node.punctuated named ch punctuation member fun _ token => token.text ▸ char

end IsNode

theorem IsMember.punctuated (shape : IsMember src object x d t) : Punctuated src t := by
  cases d with
  | java => exact IsNode.punctuated_token shape rfl "." (by simp) '.' (by decide) (by decide)
  | csharp => exact IsNode.punctuated_token shape rfl "." (by simp) '.' (by decide) (by decide)

theorem IsCall.punctuated (shape : IsCall src x d t) : Punctuated src t := by
  cases d with
  | java => exact IsNode.punctuated_arguments shape rfl (by simp)
  | csharp => exact IsNode.punctuated_arguments shape rfl (by simp)

theorem IsCallOn.punctuated (shape : IsCallOn src object x d t) : Punctuated src t := by
  cases d with
  | java => exact IsNode.punctuated_arguments shape rfl (by simp)
  | csharp => exact IsNode.punctuated_arguments shape rfl (by simp)

theorem IsItem.punctuated (shape : IsItem src object d t) : Punctuated src t := by
  cases d with
  | java => exact IsNode.punctuated_token shape rfl "[" (by simp) '[' (by decide) (by decide)
  | csharp =>
      refine IsNode.punctuated shape rfl '[' (by decide) (List.mem_of_getElem? (i := 1) rfl) ?_
      intro c bracketed
      exact IsBracketed.shows bracketed (by decide)

theorem IsGroup.punctuated (shape : IsGroup src object t) : Punctuated src t :=
  IsNode.punctuated_token shape rfl "(" (by simp) '(' (by decide) (by decide)

namespace Chain

variable {chain : Chain}

theorem IsTree.named_and_other (shape : chain.IsTree src d t) (plain : IsPlainName chain.root) :
    t.isNamed = true ∧ isSelf src t = false := by
  have of_punctuated : Punctuated src t → t.isNamed = true ∧ isSelf src t = false := by
    intro punctuated
    exact ⟨punctuated.1, punctuated.not_self⟩
  cases chain with
  | name x =>
      refine ⟨?_, isSelf_eq_false ?_⟩
      · rw [Tree.isNamed, IsLeaf.kind shape]
        rfl
      · rw [IsLeaf.text shape]
        exact plain.notSelf
  | ownField x => exact of_punctuated (IsMember.punctuated shape)
  | call f => exact of_punctuated (IsCall.punctuated shape)
  | ownCall f => exact of_punctuated (IsCallOn.punctuated shape)
  | field on x => exact of_punctuated (IsMember.punctuated shape)
  | method on f => exact of_punctuated (IsCallOn.punctuated shape)
  | item on => exact of_punctuated (IsItem.punctuated shape)
  | group on => exact of_punctuated (IsGroup.punctuated shape)

end Chain

/-! ### The way to the root -/

def nodesPerCall : Dialect → Nat
  | .java => 1
  | .csharp => 2

/-- One link of a chain: it finds the name of the root, or comes to a chain with the same root and
fewer links. -/
inductive Chain.Nears (src : Source) (d : Dialect) (chain : Chain) (t : Tree) : Prop
  | found (is : link src t = .found chain.root) (left : 0 < chain.links (nodesPerCall d))
  | follow (inner : Chain) {next : Tree} (is : link src t = .follow next)
      (shape : inner.IsTree src d next) (root : inner.root = chain.root)
      (less : inner.links (nodesPerCall d) < chain.links (nodesPerCall d))

namespace Chain

variable {chain : Chain}

theorem IsTree.nears_member {on : Chain} (shape : IsMember src (on.IsTree src d) x d t)
    (plain : IsPlainName on.root) : (Chain.field on x).Nears src d t := by
  obtain ⟨o, is, follow⟩ := shape.link
  rw [(is.named_and_other plain).2] at follow
  exact .follow on follow is rfl (Nat.lt_succ_self _)

theorem IsTree.nears (shape : chain.IsTree src d t) (plain : IsPlainName chain.root) :
    chain.Nears src d t := by
  cases chain with
  | name x =>
      refine .found ?_ Nat.one_pos
      simp only [link, IsLeaf.kind shape, IsLeaf.text shape, root]
  | ownField x =>
      obtain ⟨this, is, found⟩ := IsMember.link shape
      rw [is.isSelf, if_pos rfl] at found
      refine .found ?_ Nat.one_pos
      rw [found]
      exact congrArg Link.found plain.simpleName
  | call f =>
      cases d with
      | java => exact .found (IsCall.link_java shape) Nat.one_pos
      | csharp =>
          obtain ⟨c, is, follow⟩ := IsCall.link_csharp shape
          exact .follow (.name f) follow is rfl Nat.one_lt_two
  | ownCall f =>
      cases d with
      | java =>
          obtain ⟨this, is, found⟩ := IsCallOn.link_java shape
          rw [is.isSelf, if_pos rfl] at found
          exact .found found Nat.one_pos
      | csharp =>
          obtain ⟨c, is, follow⟩ := IsCallOn.link_csharp shape
          exact .follow (.ownField f) follow is rfl Nat.one_lt_two
  | field on x => exact IsTree.nears_member shape plain
  | method on f =>
      cases d with
      | java =>
          obtain ⟨o, is, follow⟩ := IsCallOn.link_java shape
          rw [(is.named_and_other plain).2] at follow
          exact .follow on follow is rfl (Nat.lt_succ_self _)
      | csharp =>
          obtain ⟨c, is, follow⟩ := IsCallOn.link_csharp shape
          exact .follow (.field on f) follow is rfl (Nat.lt_succ_self _)
  | item on =>
      obtain ⟨o, is, follow⟩ := IsItem.link shape
      exact .follow on follow is rfl (Nat.lt_succ_self _)
  | group on =>
      obtain ⟨c, is, follow⟩ := IsGroup.link shape fun c is => (is.named_and_other plain).1
      exact .follow on follow is rfl (Nat.lt_succ_self _)

theorem IsTree.hintWithin (shape : chain.IsTree src d t) (plain : IsPlainName chain.root) {n : Nat}
    (enough : chain.links (nodesPerCall d) ≤ n) : hintWithin src n t = chain.root := by
  induction n generalizing chain t with
  | zero =>
      cases shape.nears plain with
      | found is left => omega
      | follow inner is shape root less => omega
  | succ n ih =>
      cases shape.nears plain with
      | found is left => rw [Syntax.hintWithin, is]
      | follow inner is shape root less =>
          rw [Syntax.hintWithin, is, ← root]
          rw [← root] at plain
          exact ih shape plain (by omega)

end Chain

/-- The Java tree and the C# tree of a chain of at most 31 steps have the same receiver, the name at
the root of the chain. -/
theorem receiverHint_agrees (chain : Chain) (short : chain.steps ≤ 31)
    (plain : IsPlainName chain.root) {java csharp : Source} {t u : Tree}
    (javaTree : chain.IsTree java .java t) (csharpTree : chain.IsTree csharp .csharp u) :
    receiverHint java t = chain.root ∧ receiverHint csharp u = chain.root := by
  have javaLinks : chain.links 1 ≤ 1 * (chain.steps + 1) := chain.links_le (Nat.le_refl 1)
  have csharpLinks : chain.links 2 ≤ 2 * (chain.steps + 1) := chain.links_le (by decide)
  have limit : chainLimit = 64 := rfl
  constructor
  · apply javaTree.hintWithin plain
    change chain.links 1 ≤ chainLimit
    omega
  · apply csharpTree.hintWithin plain
    change chain.links 2 ≤ chainLimit
    omega

/-- The receiver `(this.rows()[0]).open()` in both languages. -/
theorem receiverHint_agrees_row :
    let src := Source.ofString "(this.rows()[0]).open()"
    let token := fun (text : String) (start : Nat) =>
      Tree.onFirstLine (.token text) none start (start + 1) []
    let name := fun (start : Nat) => Tree.onFirstLine .identifier (some .name) start (start + 4) []
    let arguments := fun (start : Nat) =>
      Tree.onFirstLine .argumentList (some .arguments) start (start + 2)
        [token "(" start, token ")" (start + 1)]
    let javaRows := Tree.onFirstLine .methodInvocation (some .array) 1 12
      [.onFirstLine .this (some .object) 1 5 [], token "." 5, name 6, arguments 10]
    let javaRow := Tree.onFirstLine .arrayAccess none 1 15
      [javaRows, token "[" 12, .onFirstLine .decimalInteger none 13 14 [], token "]" 14]
    let java := Tree.onFirstLine .methodInvocation none 0 23
      [.onFirstLine .parenthesizedExpression (some .object) 0 16
        [token "(" 0, javaRow, token ")" 15], token "." 16, name 17, arguments 21]
    let csharpRows := Tree.onFirstLine .invocation (some .expression) 1 12
      [.onFirstLine .memberAccess (some .function) 1 10
        [.onFirstLine (.token "this") (some .expression) 1 5 [], token "." 5, name 6],
        arguments 10]
    let csharpRow := Tree.onFirstLine .elementAccess none 1 15
      [csharpRows, .onFirstLine .bracketedArgumentList none 12 15
        [token "[" 12, .onFirstLine .argument none 13 14
          [.onFirstLine .integer none 13 14 []], token "]" 14]]
    let csharp := Tree.onFirstLine .invocation none 0 23
      [.onFirstLine .memberAccess (some .function) 0 21
        [.onFirstLine .parenthesizedExpression (some .expression) 0 16
          [token "(" 0, csharpRow, token ")" 15], token "." 16, name 17], arguments 21]
    receiverHint src java = "rows" ∧ receiverHint src csharp = "rows" := by
  intro src token name arguments javaRows javaRow java csharpRows csharpRow csharp
  have tokenAt : ∀ {text start}, src.slice start (start + 1) = text → start + 1 ≤ src.size →
      IsLeaf src (.token text) text (token text start) := fun reads inside =>
    ⟨rfl, rfl, reads, inside⟩
  have nameAt : ∀ {x start}, src.slice start (start + 4) = x → start + 4 ≤ src.size →
      IsLeaf src .identifier x (name start) := fun reads inside => ⟨rfl, rfl, reads, inside⟩
  have argumentsAt : ∀ start, start = 10 ∨ start = 21 →
      IsBracketed src .argumentList "(" ")" (arguments start) := by
    rintro start (rfl | rfl)
    all_goals
      exact ⟨[], rfl, .cons ⟨rfl, tokenAt (by decide) (by decide)⟩
        (.cons ⟨rfl, tokenAt (by decide) (by decide)⟩ .nil), by decide⟩
  have javaRowsIs : (Chain.ownCall "rows").IsTree src .java javaRows :=
    ⟨rfl, .cons ⟨rfl, rfl, rfl, by decide, by decide⟩
      (.cons ⟨rfl, tokenAt (by decide) (by decide)⟩
      (.cons ⟨rfl, nameAt (by decide) (by decide)⟩
      (.cons ⟨rfl, argumentsAt 10 (.inl rfl)⟩ .nil))), by decide⟩
  have javaRowIs : (Chain.item (.ownCall "rows")).IsTree src .java javaRow :=
    ⟨rfl, .cons ⟨rfl, javaRowsIs⟩
      (.cons ⟨rfl, tokenAt (by decide) (by decide)⟩
      (.cons ⟨rfl, trivial⟩
      (.cons ⟨rfl, tokenAt (by decide) (by decide)⟩ .nil))), by decide⟩
  have csharpRowsIs : (Chain.ownCall "rows").IsTree src .csharp csharpRows :=
    ⟨rfl, .cons ⟨rfl, rfl, .cons ⟨rfl, rfl, rfl, by decide, by decide⟩
        (.cons ⟨rfl, tokenAt (by decide) (by decide)⟩
        (.cons ⟨rfl, nameAt (by decide) (by decide)⟩ .nil)), by decide⟩
      (.cons ⟨rfl, argumentsAt 10 (.inl rfl)⟩ .nil), by decide⟩
  have csharpRowIs : (Chain.item (.ownCall "rows")).IsTree src .csharp csharpRow :=
    ⟨rfl, .cons ⟨rfl, csharpRowsIs⟩
      (.cons ⟨rfl, [(none, fun _ => True)], rfl, .cons ⟨rfl, tokenAt (by decide) (by decide)⟩
        (.cons ⟨rfl, trivial⟩
        (.cons ⟨rfl, tokenAt (by decide) (by decide)⟩ .nil)), by decide⟩ .nil), by decide⟩
  have plain : IsPlainName "rows" := by
    refine ⟨by decide, List.forall_iff_forall_mem.mp ?_⟩
    decide
  refine receiverHint_agrees (.method (.group (.item (.ownCall "rows"))) "open") (by decide)
    plain ?_ ?_
  · exact ⟨rfl, .cons ⟨rfl, rfl, .cons ⟨rfl, tokenAt (by decide) (by decide)⟩
        (.cons ⟨rfl, javaRowIs⟩
        (.cons ⟨rfl, tokenAt (by decide) (by decide)⟩ .nil)), by decide⟩
      (.cons ⟨rfl, tokenAt (by decide) (by decide)⟩
      (.cons ⟨rfl, nameAt (by decide) (by decide)⟩
      (.cons ⟨rfl, argumentsAt 21 (.inr rfl)⟩ .nil))), by decide⟩
  · exact ⟨rfl, .cons ⟨rfl, rfl, .cons ⟨rfl, rfl, .cons ⟨rfl, tokenAt (by decide) (by decide)⟩
          (.cons ⟨rfl, csharpRowIs⟩
          (.cons ⟨rfl, tokenAt (by decide) (by decide)⟩ .nil)), by decide⟩
        (.cons ⟨rfl, tokenAt (by decide) (by decide)⟩
        (.cons ⟨rfl, nameAt (by decide) (by decide)⟩ .nil)), by decide⟩
      (.cons ⟨rfl, argumentsAt 21 (.inr rfl)⟩ .nil), by decide⟩

end LayerLint.Syntax
