import LayerLint.Proofs.Extract.Attribution

/-! The classes of a file in one pass. A type takes the next free slot of the list of classes before
its body is looked at, and each of its methods is put into that slot when it has been read. Types
that are nested in the body, or local to one of the methods, take further slots meanwhile. The pass
gives what the models of the types give one by one. -/

namespace LayerLint

open Syntax Text

/-- What has been found of a file so far. -/
structure Slots where
  imports : List Import
  classes : List ClassModel

namespace Slots

def addImport (s : Slots) (i : Import) : Slots :=
  { s with imports := s.imports ++ [i] }

/-- The slot of a type, with no methods yet. -/
def reserve (s : Slots) (src : Source) (type : Tree) : Slots :=
  let name := type.child? .name
  let slot : ClassModel :=
    { name := (name.map (·.text src)).getD "", line := (name.getD type).line, imports := []
      methods := [] }
  { s with classes := s.classes ++ [slot] }

def addMethods (s : Slots) (index : Nat) (methods : List Method) : Slots :=
  { s with classes := s.classes.modify index fun c => { c with methods := c.methods ++ methods } }

end Slots

/-! ### The pass -/

section

variable (d : Dialect) (src : Source) (maxNesting : Nat)

/-- The depth of a node that is entered, if it is within the limits. -/
def enter (depth : Depth) (t : Tree) : Except Extraction Depth :=
  let inner : Depth := ⟨depth.scopes + t.kind.opensScope.toNat, depth.nodes + 1⟩
  if maxNesting < inner.scopes then .error (.failed (.tooDeep maxNesting t.line))
  else if treeLimit < inner.nodes then .error (.failed (.tooDeep treeLimit t.line))
  else .ok inner

/-- The facts with a literal, if it stands in the arguments of a call. -/
def readLiteral (callee : Option String) (kind : LiteralKind) (t : Tree) (facts : List Fact) :
    Except Extraction (List Fact) :=
  match callee with
  | none => .ok facts
  | some callee =>
    match literalValue? src t kind with
    | some value => .ok (facts ++ [.literal t.start.offset ⟨kind, value, callee, t.line⟩])
    | none => .error .aborted

-- The number `index` is that of the slot whose type is being read, and `around` holds the nodes
-- around those that a function is applied to, from the nearest.
mutual

/-- A file, a namespace or what else may hold types. -/
def walkScope (around : List Tree) (depth : Depth) : Tree → Slots → Except Extraction Slots
  | .node tag children, s => do
    let inner ← enter maxNesting depth (.node tag children)
    walkScopes (.node tag children :: around) inner children s
termination_by structural t => t

def walkScopes (around : List Tree) (depth : Depth) :
    List Tree → Slots → Except Extraction Slots
  | [], s => .ok s
  | c :: cs, s =>
    let found :=
      if !c.isNamed then .ok s
      else
        match d.importName? src c with
        | some name => .ok (s.addImport ⟨name, c.line⟩)
        | none =>
          if d.declaresType c.kind then walkType around depth c s
          else if d.isComment c.kind then .ok s
          else walkScope around depth c s
    found >>= fun s => walkScopes around depth cs s
termination_by structural ts => ts

def walkType (around : List Tree) (depth : Depth) : Tree → Slots → Except Extraction Slots
  | .node tag children, s => do
    let inner ← enter maxNesting depth (.node tag children)
    walkTypeBody (.node tag children :: around) s.classes.length inner children
      (s.reserve src (.node tag children))
termination_by structural t => t

def walkTypeBody (around : List Tree) (index : Nat) (depth : Depth) :
    List Tree → Slots → Except Extraction Slots
  | [], s => .ok s
  | c :: cs, s =>
    if c.label == some .body then walkMembers around index depth c s
    else walkTypeBody around index depth cs s
termination_by structural ts => ts

/-- The body of a type, or a group of members in it. -/
def walkMembers (around : List Tree) (index : Nat) (depth : Depth) :
    Tree → Slots → Except Extraction Slots
  | .node tag children, s => do
    let inner ← enter maxNesting depth (.node tag children)
    walkEachMember (.node tag children :: around) index inner children s
termination_by structural t => t

def walkEachMember (around : List Tree) (index : Nat) (depth : Depth) :
    List Tree → Slots → Except Extraction Slots
  | [], s => .ok s
  | c :: cs, s =>
    let found :=
      if !c.isNamed then .ok s
      else if d.declaresType c.kind then walkType around depth c s
      else if d.groupsMembers c.kind then walkMembers around index depth c s
      else if d.declaresMethod c.kind then walkMethod around index depth c s
      else .ok s
    found >>= fun s => walkEachMember around index depth cs s
termination_by structural ts => ts

def walkMethod (around : List Tree) (index : Nat) (depth : Depth) :
    Tree → Slots → Except Extraction Slots
  | .node tag children, s =>
    walkMethodBody (.node tag children) around index depth children s
termination_by structural t => t

def walkMethodBody (member : Tree) (around : List Tree) (index : Nat) (depth : Depth) :
    List Tree → Slots → Except Extraction Slots
  | [], s => .ok s
  | c :: cs, s =>
    if d.isMethodBody member c then
      let found :=
        if d.declaresType c.kind then (walkType (member :: around) depth c s).map ([], ·)
        else walkBody (member :: around) none depth c [] s
      found.map fun (facts, s) => s.addMethods index [methodOf d src member c facts]
    else walkMethodBody member around index depth cs s
termination_by structural ts => ts

/-- A node of a method body, given the facts found in the body so far. -/
def walkBody (around : List Tree) (callee : Option String) (depth : Depth) :
    Tree → List Fact → Slots → Except Extraction (List Fact × Slots)
  | .node tag children, facts, s => do
    let t : Tree := .node tag children
    let inner ← enter maxNesting depth t
    let facts := facts ++
      ((d.construct? tag.kind).map fun name => Fact.branch ⟨name, t.line⟩).toList
    match d.call? src around t with
    | some call =>
      let entry : Call :=
        ⟨(call.receiver.map (receiverHint src)).getD "", call.callee, call.place.line⟩
      let arguments := call.argumentsIndex? t
      walkEach (t :: around) (fun i => if arguments == some i then some call.callee else callee)
        inner children (facts ++ [.call call.place.start.offset entry]) s
    | none =>
      match d.literalKind? tag.kind with
      | some kind => (readLiteral src callee kind t facts).map (·, s)
      | none => walkEach (t :: around) (fun _ => callee) inner children facts s
termination_by structural t => t

/-- Nodes of a method body; the callee may differ from one to the next. -/
def walkEach (around : List Tree) (callee : Nat → Option String) (depth : Depth) :
    List Tree → List Fact → Slots → Except Extraction (List Fact × Slots)
  | [], facts, s => .ok (facts, s)
  | c :: cs, facts, s =>
    let found :=
      if !c.isNamed then .ok (facts, s)
      else if d.declaresType c.kind then (walkType around depth c s).map (facts, ·)
      else walkBody around (callee 0) depth c facts s
    found >>= fun (facts, s) => walkEach around (fun i => callee (i + 1)) depth cs facts s

termination_by structural ts => ts
end

def walkFile (root : Tree) : Extraction :=
  match walkScope d src maxNesting [] ⟨0, 0⟩ root ⟨[], []⟩ with
  | .error stopped => stopped
  | .ok s => .models (s.classes.map fun c => { c with imports := s.imports })

end

/-! ### What the pass has found after some nodes -/

section

variable (d : Dialect) (src : Source) (maxNesting : Nat)

/-- The depth of a node that is met, if it does not stop the walk. -/
def pass (v : Visit) : Except Extraction Depth :=
  match stopAt d src maxNesting v with
  | some stopped => .error stopped
  | none => .ok v.depth

namespace Slots

/-- What is found once a node has been met and all that belongs to it has been read. -/
def take (s : Slots) (v : Visit) : Slots :=
  match v.mode with
  | .importing => ((d.importName? src v.tree).map (Import.mk · v.tree.line)).elim s s.addImport
  | .type => { s with classes := s.classes ++ [classModel d src [] v.tree] }
  | _ => s

/-- What is found once some nodes have been met one after another, if none of them stops the
pass. -/
def meet (s : Slots) : List Visit → Except Extraction Slots
  | [] => .ok s
  | v :: met => do
    let _ ← pass d src maxNesting v
    (s.take d src v).meet met

end Slots

/-- A part of the pass meets some nodes, and adds to a slot that is there the methods among them. -/
def Fills (index : Nat) (walk : Slots → Except Extraction Slots) (met : List Visit)
    (methods : List Method) : Prop :=
  ∀ s : Slots, index < s.classes.length →
    walk s = (s.meet d src maxNesting met).map (·.addMethods index methods)

/-- A part of the pass meets some nodes of a body and adds some facts. -/
def Gathers (walk : List Fact → Slots → Except Extraction (List Fact × Slots)) (met : List Visit)
    (more : List Fact) : Prop :=
  ∀ facts s, walk facts s = (Slots.meet d src maxNesting s met).map (facts ++ more, ·)

end

theorem modify_append_of_lt {α : Type} {i : Nat} {xs : List α} (inside : i < xs.length)
    (f : α → α) (rest : List α) : (xs ++ rest).modify i f = xs.modify i f ++ rest := by
  induction xs generalizing i with
  | nil => cases inside
  | cons x xs ih =>
      cases i with
      | zero => rfl
      | succ i =>
          rw [List.cons_append, List.modify_succ_cons, ih (Nat.lt_of_succ_lt_succ inside),
            List.modify_succ_cons, List.cons_append]

variable {d : Dialect} {src : Source} {maxNesting : Nat}

namespace Slots

variable {s s' : Slots} {met : List Visit} {index : Nat}

theorem meet_append (s : Slots) (met rest : List Visit) :
    s.meet d src maxNesting (met ++ rest) =
      s.meet d src maxNesting met >>= fun s' => s'.meet d src maxNesting rest := by
  induction met generalizing s with
  | nil => rfl
  | cons v met ih =>
      simp only [List.cons_append, meet, ih, bind_assoc]

@[simp] theorem length_addMethods (s : Slots) (index : Nat) (methods : List Method) :
    (s.addMethods index methods).classes.length = s.classes.length :=
  List.length_modify ..

theorem addMethods_nil (s : Slots) (index : Nat) : s.addMethods index [] = s := by
  have same : (fun c : ClassModel => { c with methods := c.methods ++ [] }) = id := by
    funext c
    rw [List.append_nil]
    rfl
  rw [addMethods, same, List.modify_id]

theorem addMethods_addMethods (s : Slots) (index : Nat) (methods more : List Method) :
    (s.addMethods index methods).addMethods index more = s.addMethods index (methods ++ more) := by
  simp only [addMethods, List.modify_modify_eq, Function.comp_def, List.append_assoc]

theorem length_le_take (s : Slots) (v : Visit) :
    s.classes.length ≤ (s.take d src v).classes.length := by
  unfold take
  split
  · cases d.importName? src v.tree <;> exact Nat.le_refl _
  · exact List.length_append ▸ Nat.le_add_right ..
  · exact Nat.le_refl _

theorem length_le_of_meet (there : s.meet d src maxNesting met = .ok s') :
    s.classes.length ≤ s'.classes.length := by
  induction met generalizing s with
  | nil => exact Except.ok.inj there ▸ Nat.le_refl _
  | cons v met ih =>
      rw [meet] at there
      cases passed : pass d src maxNesting v with
      | error stopped =>
          rw [passed] at there
          cases there
      | ok depth =>
          rw [passed] at there
          exact Nat.le_trans (s.length_le_take v) (ih there)

/-- Methods that are added to a slot do not move the slots that are taken later. -/
theorem take_addMethods (inside : index < s.classes.length) (methods : List Method) (v : Visit) :
    (s.addMethods index methods).take d src v = (s.take d src v).addMethods index methods := by
  unfold take
  split
  · cases d.importName? src v.tree <;> rfl
  · simp only [addMethods, modify_append_of_lt inside]
  · rfl

theorem meet_addMethods (inside : index < s.classes.length) (methods : List Method)
    (met : List Visit) :
    (s.addMethods index methods).meet d src maxNesting met =
      (s.meet d src maxNesting met).map (·.addMethods index methods) := by
  induction met generalizing s with
  | nil => rfl
  | cons v met ih =>
      have still : index < (s.take d src v).classes.length :=
        Nat.lt_of_lt_of_le inside (s.length_le_take v)
      rw [meet, meet, take_addMethods inside, ih still]
      cases pass d src maxNesting v <;> rfl

end Slots

variable {index : Nat} {around : List Tree} {depth : Depth}

theorem Fills.seq {walk walk' : Slots → Except Extraction Slots} {met rest : List Visit}
    {methods more : List Method} (first : Fills d src maxNesting index walk met methods)
    (second : Fills d src maxNesting index walk' rest more) :
    Fills d src maxNesting index (fun s => walk s >>= walk') (met ++ rest) (methods ++ more) := by
  intro s inside
  simp only [first s inside, Slots.meet_append]
  cases there : s.meet d src maxNesting met with
  | error stopped => rfl
  | ok s' =>
      have still : index < s'.classes.length :=
        Nat.lt_of_lt_of_le inside (Slots.length_le_of_meet there)
      change walk' (s'.addMethods index methods) = (s'.meet d src maxNesting rest).map _
      rw [second _ (s'.length_addMethods index methods ▸ still), Slots.meet_addMethods still]
      cases s'.meet d src maxNesting rest with
      | error stopped => rfl
      | ok s'' => exact congrArg Except.ok (s''.addMethods_addMethods index methods more)

/-- A part of the pass that meets nodes, none of which is a method of the type at hand. -/
theorem Fills.of_meet {walk : Slots → Except Extraction Slots} {met : List Visit}
    (meets : ∀ s, walk s = s.meet d src maxNesting met) :
    Fills d src maxNesting index walk met [] := by
  intro s _
  rw [meets]
  cases s.meet d src maxNesting met with
  | error stopped => rfl
  | ok s' => exact congrArg Except.ok (s'.addMethods_nil index).symm

theorem Gathers.nil : Gathers d src maxNesting (fun facts s => .ok (facts, s)) [] [] := by
  intro facts s
  rw [List.append_nil]
  rfl

theorem Gathers.seq {walk walk' : List Fact → Slots → Except Extraction (List Fact × Slots)}
    {met rest : List Visit} {facts more : List Fact}
    (first : Gathers d src maxNesting walk met facts)
    (second : Gathers d src maxNesting walk' rest more) :
    Gathers d src maxNesting (fun found s => walk found s >>= fun x => walk' x.1 x.2) (met ++ rest)
      (facts ++ more) := by
  intro found s
  simp only [first found s, Slots.meet_append]
  cases s.meet d src maxNesting met with
  | error stopped => rfl
  | ok s' =>
      change walk' (found ++ facts) s' = (s'.meet d src maxNesting rest).map _
      rw [second, List.append_assoc]

theorem Gathers.of_meet {walk : Slots → Except Extraction Slots} {met : List Visit}
    (meets : ∀ s, walk s = s.meet d src maxNesting met) :
    Gathers d src maxNesting (fun facts s => (walk s).map (facts, ·)) met [] := by
  intro facts s
  simp only [meets, List.append_nil]

/-! ### One node -/

variable (d src around) in
/-- Entering a node stops the pass if the node lies too deep; what comes next stops it if the node
is a literal that cannot be cut. -/
theorem enter_bind {β : Type} {t : Tree} (mode : Mode) (enters : mode.enters = true)
    (next : Depth → Except Extraction β)
    (cut : ∀ kind callee,
      literalAt? d src ⟨t, around, mode, depth.descend mode t.kind⟩ = some (kind, callee, none) →
        next (depth.descend mode t.kind) = .error .aborted) :
    enter maxNesting depth t >>= next =
      pass d src maxNesting ⟨t, around, mode, depth.descend mode t.kind⟩ >>=
        fun _ => next (depth.descend mode t.kind) := by
  have inner : depth.descend mode t.kind =
      ⟨depth.scopes + t.kind.opensScope.toNat, depth.nodes + 1⟩ := if_pos enters
  simp only [enter, pass, stopAt, enters, Bool.true_and, decide_eq_true_eq, inner] at cut ⊢
  split
  · rfl
  · split
    · rfl
    · split
      · next stopped breaks =>
          split at breaks
          · next kind callee uncut =>
              obtain rfl := Option.some.inj breaks
              exact cut kind callee uncut
          · cases breaks
      · rfl

variable (d src around) in
theorem enter_bind_of_plain {β : Type} {t : Tree} (mode : Mode) (enters : mode.enters = true)
    (plain : mode.inBody = false) (next : Depth → Except Extraction β) :
    enter maxNesting depth t >>= next =
      pass d src maxNesting ⟨t, around, mode, depth.descend mode t.kind⟩ >>=
        fun _ => next (depth.descend mode t.kind) := by
  refine enter_bind d src around mode enters next fun kind callee literal => ?_
  obtain ⟨rfl, -⟩ := literalAt?_eq_some_iff.mp literal
  cases plain

theorem exists_pass_of_uncut {v : Visit} {kind : LiteralKind} {callee : String}
    (uncut : literalAt? d src v = some (kind, callee, none)) :
    ∃ stopped, pass d src maxNesting v = .error stopped := by
  cases stops : stopAt d src maxNesting v with
  | some stopped => exact ⟨stopped, by rw [pass, stops]⟩
  | none =>
      have splits := exists_literalAt?_none_iff.mp ⟨kind, callee, uncut⟩
      exact absurd splits (stopAt_eq_none_iff.mp stops).2

/-- A node of the body of a type is entered. -/
theorem Fills.of_enter {t : Tree} {walk : Depth → Slots → Except Extraction Slots}
    {met : List Visit} {methods : List Method}
    (below : Fills d src maxNesting index (walk (depth.descend .members t.kind)) met methods) :
    Fills d src maxNesting index (fun s => enter maxNesting depth t >>= fun inner => walk inner s)
      (⟨t, around, .members, depth.descend .members t.kind⟩ :: met) methods := by
  intro s inside
  simp only [enter_bind_of_plain d src around .members rfl rfl, below s inside, Slots.meet]
  cases pass d src maxNesting ⟨t, around, .members, depth.descend .members t.kind⟩ <;> rfl

/-! ### The pass as a whole -/

variable (d src) in
def factsIn (met : List Visit) : List Fact :=
  met.flatMap (factsAt d src)

section

variable {v : Visit}

theorem literalAt?_of_plain (plain : d.literalKind? v.tree.kind = none) :
    literalAt? d src v = none := by
  refine Option.eq_none_iff_forall_ne_some.mpr fun x found => ?_
  obtain ⟨-, literal, -⟩ := literalAt?_eq_some_iff.mp found
  exact absurd (plain.symm.trans literal) nofun

theorem factsAt_of_call {call : Dialect.CallShape} (is : d.call? src v.around v.tree = some call) :
    factsAt d src v =
      ((d.construct? v.tree.kind).map fun name => Fact.branch ⟨name, v.tree.line⟩).toList ++
        [.call call.place.start.offset
          ⟨(call.receiver.map (receiverHint src)).getD "", call.callee, call.place.line⟩] := by
  have none : literalAt? d src v = none := by
    unfold literalAt?
    split
    · rw [is, Option.isSome_some, if_pos rfl]
    · rfl
  simp only [factsAt, is, none]
  exact List.append_nil _

theorem factsAt_of_plain (is : d.call? src v.around v.tree = none)
    (none : literalAt? d src v = none) :
    factsAt d src v =
      ((d.construct? v.tree.kind).map fun name => Fact.branch ⟨name, v.tree.line⟩).toList := by
  simp only [factsAt, is, none, Option.map_none, Option.bind_none, Option.toList_none,
    List.append_nil]

theorem factsAt_of_literal {kind : LiteralKind} {callee value : String}
    (is : literalAt? d src v = some (kind, callee, some value)) :
    factsAt d src v =
      ((d.construct? v.tree.kind).map fun name => Fact.branch ⟨name, v.tree.line⟩).toList ++
        [.literal v.tree.start.offset ⟨kind, value, callee, v.tree.line⟩] := by
  obtain ⟨-, literal, -⟩ := literalAt?_eq_some_iff.mp is
  simp only [factsAt, is, Dialect.call?_of_literal literal, Option.map_none, Option.toList_none,
    List.append_nil]
  rfl

end

section

variable {around : List Tree} {t : Tree} {callee : Option String}

theorem childModes_body_of_call {call : Dialect.CallShape}
    (is : d.call? src around t = some call) :
    childModes d src around t (.body callee) = t.children.mapIdx fun i =>
      innerMode d (if call.argumentsIndex? t == some i then some call.callee else callee) := by
  simp only [childModes, is]

theorem childModes_body_of_literal {kind : LiteralKind}
    (literal : d.literalKind? t.kind = some kind) :
    childModes d src around t (.body callee) = [] := by
  simp only [childModes, Dialect.call?_of_literal literal, literal]
  rfl

theorem childModes_body_of_plain (is : d.call? src around t = none)
    (plain : d.literalKind? t.kind = none) :
    childModes d src around t (.body callee) =
      t.children.mapIdx fun _ => innerMode d callee := by
  simp only [childModes, is, plain]
  refine List.ext_getElem? fun i => ?_
  rw [List.getElem?_mapIdx]
  exact List.getElem?_map

end

theorem readLiteral_of_pass {v : Visit} {callee : Option String} {kind : LiteralKind}
    {inner : Depth}
    (mode : v.mode = .body callee) (literal : d.literalKind? v.tree.kind = some kind)
    (passed : pass d src maxNesting v = .ok inner) (facts : List Fact) :
    readLiteral src callee kind v.tree (facts ++
        ((d.construct? v.tree.kind).map fun name => Fact.branch ⟨name, v.tree.line⟩).toList) =
      .ok (facts ++ factsAt d src v) := by
  cases callee with
  | none =>
      have plain : literalAt? d src v = none := by rw [literalAt?, mode]
      rw [factsAt_of_plain (Dialect.call?_of_literal literal src v.around) plain]
      rfl
  | some callee =>
      have found : literalAt? d src v = some (kind, callee, literalValue? src v.tree kind) :=
        literalAt?_eq_some_iff.mpr ⟨mode, literal, rfl⟩
      unfold readLiteral
      cases value : literalValue? src v.tree kind with
      | none =>
          rw [value] at found
          obtain ⟨stopped, stops⟩ := exists_pass_of_uncut found
          rw [passed] at stops
          cases stops
      | some text =>
          rw [value] at found
          rw [factsAt_of_literal found]
          exact congrArg Except.ok (List.append_assoc ..)

/-- A type that is met in a body adds nothing to the facts of the body. -/
theorem factsIn_type {t : Tree} (type : d.declaresType t.kind = true) :
    factsIn d src (visits d src Mode.inBody around .type depth t) = [] := by
  cases t with
  | node tag children =>
      obtain ⟨-, construct, -⟩ := Dialect.plain_of_declaresType type
      have plain : factsAt d src ⟨.node tag children, around, .type,
          depth.descend .type tag.kind⟩ = [] := by
        simp only [factsAt, construct, Dialect.call?_of_declaresType type around]
        rfl
      have below : visitsBelow d src Mode.inBody (.node tag children :: around)
          (childModes d src around (.node tag children) .type) (depth.descend .type tag.kind)
          children = [] := by
        refine visitsBelow_of_dropped (fun mode there => ?_) children
        obtain ⟨-, -, -, rfl⟩ := exists_of_mem_markFirst there
        rfl
      rw [visits, below, factsIn, List.flatMap_cons, plain]
      rfl

theorem methodsIn_method (t : Tree) :
    methodsIn d src (visits d src Mode.ofMember around .method depth t) =
      (methodModel d src ⟨t, around, .method, depth⟩).toList := by
  cases t with
  | node tag children =>
      have below : visitsBelow d src Mode.ofMember (.node tag children :: around)
          (childModes d src around (.node tag children) .method) depth children = [] := by
        refine visitsBelow_of_dropped (fun mode there => ?_) children
        obtain ⟨c, -, -, rfl⟩ := exists_of_mem_markFirst there
        unfold bodyMode
        split <;> rfl
      rw [visits, show depth.descend .method tag.kind = depth from rfl, below]
      change List.filterMap _ [_] = _
      rw [List.filterMap_cons, List.filterMap_nil]
      cases methodModel d src ⟨.node tag children, around, .method, depth⟩ <;> rfl

theorem methodsIn_append (met rest : List Visit) :
    methodsIn d src (met ++ rest) = methodsIn d src met ++ methodsIn d src rest := by
  rw [methodsIn, List.filter_append, List.filterMap_append]
  rfl

/-- A slot with all its methods is the model of its type. -/
theorem addMethods_reserve (s : Slots) (around : List Tree) (type : Tree) (depth : Depth) :
    (s.reserve src type).addMethods s.classes.length
        (methodsIn d src (visits d src Mode.ofMember around .type ⟨0, 0⟩ type)) =
      s.take d src ⟨type, around, .type, depth⟩ := by
  have methods : (classModel d src [] type).methods = _ := methods_classModel [] ⟨type, around⟩
  have last {α : Type} (xs : List α) (x : α) (f : α → α) :
      (xs ++ [x]).modify xs.length f = xs ++ [f x] := by
    rw [List.modify_eq_take_drop, List.take_left, List.drop_left]
    rfl
  rw [Slots.addMethods, Slots.reserve, last, Slots.take, List.nil_append, ← methods]
  rfl

-- Each function meets the nodes that the walk meets in its mode. What is read of a type or of a
-- method does not depend on how deep it lies, hence the second depth.
mutual

theorem meet_walkScope (around : List Tree) (depth : Depth) :
    ∀ (t : Tree) (s : Slots), walkScope d src maxNesting around depth t s =
      s.meet d src maxNesting (visits d src (fun _ => true) around .scope depth t)
  | .node tag children, s => by
      rw [walkScope, enter_bind_of_plain d src around .scope rfl rfl, visits, Slots.meet]
      exact bind_congr fun _ => meet_walkScopes _ _ children s
termination_by structural t => t

theorem meet_walkScopes (around : List Tree) (depth : Depth) :
    ∀ (ts : List Tree) (s : Slots), walkScopes d src maxNesting around depth ts s =
      s.meet d src maxNesting
        (visitsBelow d src (fun _ => true) around (ts.map (scopeMode d src)) depth ts)
  | [], s => rfl
  | c :: cs, s => by
      rw [walkScopes, List.map_cons, visitsBelow_cons, Slots.meet_append, List.head?_cons,
        Option.join_some, List.tail_cons]
      simp only [meet_walkScopes around depth cs]
      congr 1
      unfold scopeMode
      cases c.isNamed with
      | false => rfl
      | true =>
          cases imports : d.importName? src c with
          | some name =>
              simp only [Option.isSome_some, if_true, Bool.not_true, Bool.false_eq_true, if_false,
                visitsAs, visits_importing, Slots.meet, Slots.take, imports]
              rfl
          | none =>
              cases d.declaresType c.kind with
              | true => exact meet_walkType around depth c s
              | false =>
                  cases d.isComment c.kind with
                  | true => rfl
                  | false => exact meet_walkScope around depth c s
termination_by structural ts => ts

theorem meet_walkType (around : List Tree) (depth : Depth) :
    ∀ (t : Tree) (s : Slots), walkType d src maxNesting around depth t s =
      s.meet d src maxNesting (visits d src (fun _ => true) around .type depth t)
  | .node tag children, s => by
      have inside : s.classes.length < (s.reserve src (.node tag children)).classes.length :=
        List.length_append ▸ Nat.lt_succ_self _
      rw [walkType, enter_bind_of_plain d src around .type rfl rfl, visits, Slots.meet]
      refine bind_congr fun _ => ?_
      rw [fills_walkTypeBody _ _ _ ((⟨0, 0⟩ : Depth).descend .type tag.kind) children _ inside,
        ← Slots.meet_addMethods inside, ← addMethods_reserve, visits]
      rfl
termination_by structural t => t

theorem fills_walkTypeBody (around : List Tree) (index : Nat) (depth other : Depth) :
    ∀ ts : List Tree,
      let modes := markFirst (·.label == some .body) (fun _ => .members) ts
      Fills d src maxNesting index (walkTypeBody d src maxNesting around index depth ts)
        (visitsBelow d src (fun _ => true) around modes depth ts)
        (methodsIn d src (visitsBelow d src Mode.ofMember around modes other ts))
  | [] => .of_meet fun _ => rfl
  | c :: cs => by
      have walk : walkTypeBody d src maxNesting around index depth (c :: cs) = fun s =>
          if c.label == some .body then walkMembers d src maxNesting around index depth c s
          else walkTypeBody d src maxNesting around index depth cs s := by
        funext s
        rw [walkTypeBody]
      simp only [markFirst, visitsBelow_cons, walk]
      cases c.label == some .body with
      | true =>
          simp only [if_true, List.head?_cons, Option.join_some, List.tail_cons,
            visitsBelow_none, List.append_nil]
          exact fills_walkMembers around index depth other c
      | false => exact fills_walkTypeBody around index depth other cs
termination_by structural ts => ts

theorem fills_walkMembers (around : List Tree) (index : Nat) (depth other : Depth) :
    ∀ t : Tree, Fills d src maxNesting index (walkMembers d src maxNesting around index depth t)
      (visits d src (fun _ => true) around .members depth t)
      (methodsIn d src (visits d src Mode.ofMember around .members other t))
  | .node tag children => by
      have walk : walkMembers d src maxNesting around index depth (.node tag children) = fun s =>
          enter maxNesting depth (.node tag children) >>= fun inner =>
            walkEachMember d src maxNesting (.node tag children :: around) index inner children
              s := by
        funext s
        rw [walkMembers]
      rw [walk, visits, visits]
      exact .of_enter (fills_walkEachMember _ index _ (other.descend .members tag.kind) children)
termination_by structural t => t

theorem fills_walkEachMember (around : List Tree) (index : Nat) (depth other : Depth) :
    ∀ ts : List Tree,
      Fills d src maxNesting index (walkEachMember d src maxNesting around index depth ts)
        (visitsBelow d src (fun _ => true) around (ts.map (memberMode d)) depth ts)
        (methodsIn d src (visitsBelow d src Mode.ofMember around (ts.map (memberMode d)) other ts))
  | [] => .of_meet fun _ => rfl
  | c :: cs => by
      have first : Fills d src maxNesting index
          (fun s => if !c.isNamed then .ok s
            else if d.declaresType c.kind then walkType d src maxNesting around depth c s
            else if d.groupsMembers c.kind then walkMembers d src maxNesting around index depth c s
            else if d.declaresMethod c.kind then walkMethod d src maxNesting around index depth c s
            else .ok s)
          (visitsAs d src (fun _ => true) around depth c (memberMode d c))
          (methodsIn d src (visitsAs d src Mode.ofMember around other c (memberMode d c))) := by
        unfold memberMode
        cases c.isNamed with
        | false => exact .of_meet fun _ => rfl
        | true =>
            cases d.declaresType c.kind with
            | true => exact .of_meet (meet_walkType around depth c)
            | false =>
                cases d.groupsMembers c.kind with
                | true => exact fills_walkMembers around index depth other c
                | false =>
                    cases d.declaresMethod c.kind with
                    | false => exact .of_meet fun _ => rfl
                    | true => exact fills_walkMethod around index depth other c
      intro s inside
      rw [walkEachMember, List.map_cons, visitsBelow_cons, visitsBelow_cons, methodsIn_append]
      exact first.seq (fills_walkEachMember around index depth other cs) s inside
termination_by structural ts => ts

theorem fills_walkMethod (around : List Tree) (index : Nat) (depth other : Depth) :
    ∀ t : Tree,
      let mode := if (d.methodBody? t).isSome then some .method else none
      Fills d src maxNesting index (walkMethod d src maxNesting around index depth t)
        (visitsAs d src (fun _ => true) around depth t mode)
        (methodsIn d src (visitsAs d src Mode.ofMember around other t mode))
  | .node tag children => by
      intro mode s inside
      rw [walkMethod,
        fills_walkMethodBody (.node tag children) around index depth children s inside]
      have found : children.find? (d.isMethodBody (.node tag children)) =
          d.methodBody? (.node tag children) := rfl
      cases is : d.methodBody? (.node tag children) with
      | none =>
          rw [is] at found
          have unmet : visitsBelow d src (fun _ => true) (.node tag children :: around)
              (markFirst (d.isMethodBody (.node tag children)) (bodyMode d none) children)
              depth children = [] := by
            refine visitsBelow_of_dropped (fun m there => ?_) children
            obtain ⟨c, member, picked, -⟩ := exists_of_mem_markFirst there
            exact absurd picked (List.find?_eq_none.mp found c member)
          simp only [mode, is, found, unmet]
          rfl
      | some body =>
          have model : methodModel d src ⟨.node tag children, around, .method, other⟩ =
              some (methodOf d src (.node tag children) body
                (factsIn d src (bodyVisits d src (.node tag children :: around) body))) := by
            rw [methodModel, is]
            rfl
          simp only [mode, is, found, Option.isSome_some, if_true, visitsAs, Mode.ofMember,
            methodsIn_method, model]
          rw [visits]
          rfl
termination_by structural t => t

theorem fills_walkMethodBody (member : Tree) (around : List Tree) (index : Nat) (depth : Depth) :
    ∀ ts : List Tree,
      Fills d src maxNesting index (walkMethodBody d src maxNesting member around index depth ts)
        (visitsBelow d src (fun _ => true) (member :: around)
          (markFirst (d.isMethodBody member) (bodyMode d none) ts) depth ts)
        ((ts.find? (d.isMethodBody member)).map fun body =>
          methodOf d src member body
            (factsIn d src (bodyVisits d src (member :: around) body))).toList
  | [] => .of_meet fun _ => rfl
  | c :: cs => by
      intro s inside
      rw [walkMethodBody, markFirst, List.find?_cons, visitsBelow_cons]
      cases d.isMethodBody member c with
      | false => exact fills_walkMethodBody member around index depth cs s inside
      | true =>
          have here : Gathers d src maxNesting
              (fun facts s => if d.declaresType c.kind then
                  (walkType d src maxNesting (member :: around) depth c s).map (facts, ·)
                else walkBody d src maxNesting (member :: around) none depth c facts s)
              (visits d src (fun _ => true) (member :: around) (bodyMode d none c) depth c)
              (factsIn d src (bodyVisits d src (member :: around) c)) := by
            unfold bodyVisits bodyMode
            cases type : d.declaresType c.kind with
            | true =>
                simp only [if_true, factsIn_type type]
                exact .of_meet (meet_walkType (member :: around) depth c)
            | false => exact gathers_walkBody (member :: around) none depth ⟨0, 0⟩ c
          simp only [if_true, here [] s, List.head?_cons, Option.join_some, List.tail_cons,
            visitsBelow_none, visitsAs, List.append_nil]
          cases Slots.meet d src maxNesting s _ with
          | error stopped => rfl
          | ok s' => rfl
termination_by structural ts => ts

theorem gathers_walkBody (around : List Tree) (callee : Option String) (depth other : Depth) :
    ∀ t : Tree, Gathers d src maxNesting (walkBody d src maxNesting around callee depth t)
      (visits d src (fun _ => true) around (.body callee) depth t)
      (factsIn d src (visits d src Mode.inBody around (.body callee) other t))
  | .node tag children => by
      intro facts s
      rw [walkBody, visits, visits, Slots.meet, factsIn, List.flatMap_cons]
      refine (enter_bind d src around (.body callee) rfl _ fun kind name uncut => ?_).trans ?_
      · obtain ⟨mode, literal, value⟩ := literalAt?_eq_some_iff.mp uncut
        obtain rfl := Mode.body.inj mode
        have here : d.literalKind? tag.kind = some kind := literal
        simp only [Dialect.call?_of_literal literal, here, readLiteral, ← value]
        rfl
      cases passed : pass d src maxNesting
          ⟨.node tag children, around, .body callee, depth.descend (.body callee) tag.kind⟩ with
      | error stopped =>
          change pass d src maxNesting ⟨_, _, _, depth.descend (.body callee) tag.kind⟩ >>= _ = _
          rw [passed]
          rfl
      | ok inner =>
          change pass d src maxNesting ⟨_, _, _, depth.descend (.body callee) tag.kind⟩ >>= _ = _
          rw [passed]
          change _ = Except.map _ (s.meet d src maxNesting _)
          cases is : d.call? src around (.node tag children) with
          | some call =>
              refine (gathers_walkEach _ _ _ (other.descend (.body callee) tag.kind) children _
                s).trans ?_
              rw [childModes_body_of_call is, factsAt_of_call is, List.append_assoc,
                List.append_assoc, List.append_assoc]
              rfl
          | none =>
              cases literal : d.literalKind? tag.kind with
              | none =>
                  refine (gathers_walkEach _ _ _ (other.descend (.body callee) tag.kind) children _
                    s).trans ?_
                  rw [childModes_body_of_plain is literal,
                    factsAt_of_plain is (literalAt?_of_plain literal), List.append_assoc]
                  rfl
              | some kind =>
                  have below (keep : Mode → Bool) (depth : Depth) : visitsBelow d src keep
                      (.node tag children :: around) [] depth children = [] :=
                    visitsBelow_of_dropped (fun _ there => absurd there List.not_mem_nil) children
                  have read := readLiteral_of_pass rfl literal passed facts
                  rw [childModes_body_of_literal literal, below, below, List.flatMap_nil,
                    List.append_nil]
                  change (readLiteral src callee kind (.node tag children) _).map (·, s) = _
                  exact congrArg (Except.map (·, s)) read
termination_by structural t => t

theorem gathers_walkEach (around : List Tree) (callee : Nat → Option String)
    (depth other : Depth) :
    ∀ ts : List Tree,
      let modes := ts.mapIdx fun i => innerMode d (callee i)
      Gathers d src maxNesting (walkEach d src maxNesting around callee depth ts)
        (visitsBelow d src (fun _ => true) around modes depth ts)
        (factsIn d src (visitsBelow d src Mode.inBody around modes other ts))
  | [] => .nil
  | c :: cs => by
      have first : Gathers d src maxNesting
          (fun facts s => if !c.isNamed then .ok (facts, s)
            else if d.declaresType c.kind then
              (walkType d src maxNesting around depth c s).map (facts, ·)
            else walkBody d src maxNesting around (callee 0) depth c facts s)
          (visitsAs d src (fun _ => true) around depth c (innerMode d (callee 0) c))
          (factsIn d src
            (visitsAs d src Mode.inBody around other c (innerMode d (callee 0) c))) := by
        unfold innerMode bodyMode
        cases c.isNamed with
        | false => exact .nil
        | true =>
            cases d.declaresType c.kind with
            | true => exact .of_meet (meet_walkType around depth c)
            | false => exact gathers_walkBody around (callee 0) depth other c
      intro modes facts s
      simp only [modes, walkEach, List.mapIdx_cons, visitsBelow_cons, factsIn, List.flatMap_append]
      exact first.seq (gathers_walkEach around (fun i => callee (i + 1)) depth other cs) facts s
termination_by structural ts => ts

end

/-! ### The classes of a file -/

/-- The imports and the types among the nodes met, when none of them stops the walk. -/
theorem Slots.meet_eq (s : Slots) (met : List Visit) :
    s.meet d src maxNesting met =
      match met.findSome? (stopAt d src maxNesting) with
      | some stopped => .error stopped
      | none => .ok
          { imports := s.imports ++ (met.filter (·.mode == .importing)).filterMap fun v =>
              (d.importName? src v.tree).map fun name => Import.mk name v.tree.line
            classes := s.classes ++ (met.filter (·.mode == .type)).map fun v =>
              classModel d src [] v.tree } := by
  induction met generalizing s with
  | nil => simp [meet]
  | cons v met ih =>
      rw [meet, List.findSome?_cons, pass]
      cases stopAt d src maxNesting v with
      | some stopped => rfl
      | none =>
          refine (ih _).trans ?_
          cases met.findSome? (stopAt d src maxNesting) with
          | some stopped => rfl
          | none =>
              obtain ⟨t, around, mode, depth⟩ := v
              cases mode with
              | importing => cases is : d.importName? src t <;> simp [take, addImport, is]
              | type => simp [take]
              | scope => rfl
              | members => rfl
              | method => rfl
              | body callee => rfl

/-- The pass through a file with slots gives the classes of the file. -/
theorem walkFile_eq_classesOf (d : Dialect) (src : Source) (maxNesting : Nat) (root : Tree) :
    walkFile d src maxNesting root = classesOf d src maxNesting root := by
  rw [walkFile, meet_walkScope, Slots.meet_eq, classesOf, visitsOfFile]
  cases (visits d src (fun _ => true) [] .scope ⟨0, 0⟩ root).findSome?
      (stopAt d src maxNesting) with
  | some stopped => rfl
  | none =>
      simp only [List.nil_append, List.map_map]
      rfl

end LayerLint
