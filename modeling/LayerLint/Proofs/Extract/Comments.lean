import LayerLint.Proofs.Extract.Attribution
import LayerLint.Proofs.Syntax.CommentInChain

/-! What comments change in the models of a file: nothing but the receivers of calls. A call loses
its receiver exactly if the chain of the receiver runs into a comment, where without comments it
would come to a name. -/

namespace LayerLint

open Syntax Text

namespace Syntax

variable {d : Dialect} {src : Source} {t c : Tree}

/-! ### Visits -/

namespace Visit

def Apart (d : Dialect) (v : Visit) : Prop :=
  v.tree.commentsApart d = true ∧ ∀ a ∈ v.around, a.commentsApart d = true

/-- A call whose receiver chain runs into a comment, though without comments it comes to a name. -/
def LosesReceiver (d : Dialect) (src : Source) (v : Visit) : Prop :=
  ∃ call receiver, d.call? src v.around v.tree = some call ∧ call.receiver = some receiver ∧
    RunsIntoComment d src chainLimit receiver ∧ receiverHint src (receiver.bare d) ≠ ""

theorem call?_bare {v : Visit} (apart : v.Apart d) :
    d.call? src (v.bare d).around (v.bare d).tree =
      (d.call? src v.around v.tree).map (Dialect.CallShape.bare d) :=
  Dialect.call?_bare src apart.1 apart.2

end Visit

theorem Spot.commentsApart_of_at? {s s' : Spot} {a : Address} (there : s.at? a = some s')
    (apart : s.tree.commentsApart d = true) (outer : ∀ a ∈ s.around, a.commentsApart d = true) :
    s'.tree.commentsApart d = true ∧ ∀ a ∈ s'.around, a.commentsApart d = true := by
  induction a generalizing s with
  | nil =>
      obtain rfl := Option.some.inj there
      exact ⟨apart, outer⟩
  | cons i a ih =>
      obtain ⟨next, child, rest⟩ := Option.bind_eq_some_iff.mp there
      obtain ⟨c, is, rfl⟩ := Option.map_eq_some_iff.mp child
      refine ih rest (standsApart_of_mem apart (List.mem_of_getElem? is)).2 ?_
      exact List.forall_mem_cons.mpr ⟨apart, outer⟩

theorem apart_of_mem_visits {keep : Mode → Bool} {around : List Tree} {mode : Mode} {depth : Depth}
    {v : Visit} (met : v ∈ visits d src keep around mode depth t)
    (apart : t.commentsApart d = true) (outer : ∀ a ∈ around, a.commentsApart d = true) :
    v.Apart d := by
  obtain ⟨a, there⟩ := (mem_visits ..).mp met
  exact Spot.commentsApart_of_at? (Visit.spot_of_at? there) apart outer

/-- Outside method bodies no comment is met. -/
theorem Leads.code {s : Spot} {i : Nat} {m m' : Mode} (leads : Leads d src s i c m m')
    (child : s.tree.children[i]? = some c) (apart : s.tree.commentsApart d = true)
    (outside : m'.inBody = false) : d.isComment c.kind = false := by
  have apartHere := (standsApart_of_mem apart (List.mem_of_getElem? child)).1
  refine Bool.eq_false_iff.mpr fun comment => ?_
  have noType : d.declaresType c.kind = false :=
    FailsComments.eq_false (by cases d <;> rfl) comment
  cases leads with
  | scope named plain noType code => exact absurd (code.symm.trans comment) nofun
  | importing named imports =>
      exact absurd ((Dialect.isComment_of_importName? imports).symm.trans comment) nofun
  | declaration named plain type => exact absurd (noType.symm.trans type) nofun
  | typeBody body =>
      obtain ⟨bound, labelled, -⟩ := List.findIdx?_eq_some_iff_getElem.mp body
      obtain rfl : s.tree.children[i] = c := by
        rw [List.getElem?_eq_getElem bound] at child
        exact Option.some.inj child
      rw [(of_comment apartHere comment).1] at labelled
      cases labelled
  | nested named type => exact absurd (noType.symm.trans type) nofun
  | group named noType group =>
      have noGroup : d.groupsMembers c.kind = false :=
        FailsComments.eq_false (by cases d <;> rfl) comment
      exact absurd (noGroup.symm.trans group) nofun
  | method named noType noGroup method body =>
      have noMethod : d.declaresMethod c.kind = false :=
        FailsComments.eq_false (by cases d <;> rfl) comment
      exact absurd (noMethod.symm.trans method) nofun
  | methodBody body is =>
      rw [is, bodyMode, noType] at outside
      cases outside
  | inner noLiteral named is =>
      rw [is, bodyMode, noType] at outside
      cases outside

theorem Comes.code {keep : Mode → Bool} {origin s : Spot} {first m : Mode} {a : Address}
    (comes : Comes d src keep origin first a m s) (apart : origin.tree.commentsApart d = true)
    (outer : ∀ a ∈ origin.around, a.commentsApart d = true)
    (code : d.isComment origin.tree.kind = false) (outside : m.inBody = false) :
    d.isComment s.tree.kind = false := by
  cases comes with
  | start => exact code
  | step here child leads kept =>
      exact leads.code child (Spot.commentsApart_of_at? here.at? apart outer).1 outside

theorem code_of_mem_visits {keep : Mode → Bool} {mode : Mode} {depth : Depth} {v : Visit}
    (apart : t.commentsApart d = true) (code : d.isComment t.kind = false)
    (met : v ∈ visits d src keep [] mode depth t) (outside : v.mode.inBody = false) :
    d.isComment v.tree.kind = false := by
  obtain ⟨a, there⟩ := (mem_visits ..).mp met
  have comes : Comes d src keep t.spot mode a v.mode v.spot :=
    (comes_iff depth).mpr ⟨v, there, rfl, rfl⟩
  exact comes.code apart nofun code outside

variable (src) in
theorem visits_bare_of_tree (keep : Mode → Bool) (mode : Mode) (depth : Depth)
    (apart : t.commentsApart d = true) (code : d.isComment t.kind = false) :
    visits d src keep [] mode depth (t.bare d) =
      ((visits d src keep [] mode depth t).filter fun v => !d.isComment v.tree.kind).map
        (Visit.bare d) := by
  have outer : ∀ a ∈ ([] : List Tree), a.commentsApart d = true := nofun
  exact visits_bare outer mode depth t apart code

/-- The nodes met in a mode outside method bodies. -/
theorem filter_mode_bare {keep : Mode → Bool} {mode m : Mode} {depth : Depth}
    (apart : t.commentsApart d = true) (code : d.isComment t.kind = false)
    (outside : m.inBody = false) :
    (visits d src keep [] mode depth (t.bare d)).filter (·.mode == m) =
      ((visits d src keep [] mode depth t).filter (·.mode == m)).map (Visit.bare d) := by
  rw [visits_bare_of_tree src keep mode depth apart code, List.filter_map, List.filter_filter]
  refine congrArg _ (List.filter_congr fun v met => ?_)
  cases is : v.mode == m with
  | false => simp [Visit.bare, is]
  | true =>
      have plain := code_of_mem_visits apart code met (by rwa [eq_of_beq is])
      simp [Visit.bare, is, plain]

end Syntax

namespace Dialect

variable {d : Dialect} {src : Source}

theorem commentsApart_of_accessTarget {access target : Tree}
    (is : accessTarget access = some target) (apart : access.commentsApart d = true) :
    target.commentsApart d = true := by
  rcases Option.or_eq_some_iff.mp is with labelled | ⟨-, first⟩
  · exact (commentsApart_of_child? apart labelled).2
  · exact (commentsApart_of_namedChild apart (List.mem_of_head? first)).2

theorem commentsApart_of_invokedMember {around : List Tree} {function name receiver : Tree}
    (is : invokedMember around function = some (name, some receiver))
    (apart : function.commentsApart d = true)
    (outer : ∀ a ∈ around, a.commentsApart d = true) : receiver.commentsApart d = true := by
  unfold invokedMember at is
  split at is
  · obtain ⟨_, -, same⟩ := Option.map_eq_some_iff.mp is
    exact (commentsApart_of_child? apart (Prod.mk.inj same).2).2
  · cases is
  · cases is
  · obtain ⟨binding, -, rest⟩ := Option.bind_eq_some_iff.mp is
    obtain ⟨_, -, same⟩ := Option.bind_eq_some_iff.mp rest
    exact commentsApart_of_accessTarget (Prod.mk.inj (Option.some.inj same)).2 apart
  · obtain ⟨_, -, same⟩ := Option.map_eq_some_iff.mp is
    obtain ⟨access, near, target⟩ := Option.bind_eq_some_iff.mp (Prod.mk.inj same).2
    have enclosing := List.mem_of_mem_take (List.mem_of_find?_eq_some near)
    exact commentsApart_of_accessTarget target (outer access enclosing)
  · cases is

theorem commentsApart_of_receiver {v : Visit} {call : CallShape} {receiver : Tree}
    (is : d.call? src v.around v.tree = some call) (receives : call.receiver = some receiver)
    (apart : v.Apart d) : receiver.commentsApart d = true := by
  obtain ⟨here, outer⟩ := apart
  unfold call? at is
  split at is
  · obtain ⟨_, -, rfl⟩ := Option.map_eq_some_iff.mp is
    exact (commentsApart_of_child? here receives).2
  · obtain rfl := Option.some.inj is
    cases receives
  · obtain ⟨_, -, rfl⟩ := Option.map_eq_some_iff.mp is
    cases receives
  · obtain ⟨function, labelled, rest⟩ := Option.bind_eq_some_iff.mp is
    obtain ⟨⟨name, found⟩, invoked, same⟩ := Option.bind_eq_some_iff.mp rest
    obtain rfl := Option.some.inj same
    obtain rfl : found = some receiver := receives
    refine commentsApart_of_invokedMember invoked (commentsApart_of_child? here labelled).2 ?_
    exact List.forall_mem_cons.mpr ⟨here, outer⟩
  · cases is

end Dialect

section

variable {d : Dialect} {src : Source}

/-! ### Facts -/

def Call.anonymous (c : Call) : Call :=
  { c with receiver := "" }

variable (src) in
theorem callItem?_bare_eq_iff {v : Visit} (apart : v.Apart d) :
    callItem? d src (v.bare d) = callItem? d src v ↔ ¬ v.LosesReceiver d src := by
  unfold callItem?
  rw [Visit.call?_bare apart]
  cases is : d.call? src v.around v.tree with
  | none =>
      refine iff_of_true rfl ?_
      rintro ⟨call, receiver, found, -⟩
      cases is.symm.trans found
  | some call =>
      simp only [Option.map_some, Option.some.injEq, Prod.mk.injEq, Dialect.CallShape.bare,
        Tree.start_bare, Tree.line_bare, Call.mk.injEq, true_and, and_true, Option.map_map]
      cases receives : call.receiver with
      | none =>
          refine iff_of_true rfl ?_
          rintro ⟨other, receiver, found, received, -⟩
          obtain rfl := Option.some.inj (is.symm.trans found)
          cases receives.symm.trans received
      | some receiver =>
          have below := Dialect.commentsApart_of_receiver is receives apart
          refine (receiverHint_bare_eq_iff below).trans (not_congr ?_)
          constructor
          · exact fun loses => ⟨call, receiver, is, receives, loses⟩
          · rintro ⟨other, again, found, received, loses⟩
            obtain rfl := Option.some.inj (is.symm.trans found)
            obtain rfl := Option.some.inj (receives.symm.trans received)
            exact loses

variable (src) in
theorem callItem?_bare_anonymous {v : Visit} (apart : v.Apart d) :
    (callItem? d src (v.bare d)).map (Prod.map id Call.anonymous) =
      (callItem? d src v).map (Prod.map id Call.anonymous) := by
  unfold callItem?
  rw [Visit.call?_bare apart, Option.map_map, Option.map_map, Option.map_map]
  refine congrArg (Option.map · _) (funext fun call => ?_)
  simp only [Function.comp_apply, Prod.map, id, Call.anonymous, Dialect.CallShape.bare,
    Tree.start_bare, Tree.line_bare]

theorem literalAt?_bare {v : Visit} (apart : v.Apart d) :
    literalAt? d src (v.bare d) = literalAt? d src v := by
  unfold literalAt?
  rw [Visit.call?_bare apart, Option.isSome_map]
  simp only [Visit.bare, Tree.kind_bare, Tree.text_bare]

theorem literalItem?_bare {v : Visit} (apart : v.Apart d) :
    literalItem? d src (v.bare d) = literalItem? d src v := by
  unfold literalItem?
  rw [literalAt?_bare apart]
  simp only [Visit.bare, Tree.start_bare, Tree.line_bare]

theorem branchItem?_bare (v : Visit) : branchItem? d (v.bare d) = branchItem? d v := by
  simp only [branchItem?, Visit.bare, Tree.kind_bare, Tree.line_bare]

/-! ### Methods -/

def methodVisits (d : Dialect) (src : Source) (v : Visit) : List Visit :=
  (d.methodBody? v.tree).elim [] (bodyVisits d src (v.tree :: v.around))

theorem apart_of_mem_methodVisits {v w : Visit} (apart : v.Apart d)
    (there : w ∈ methodVisits d src v) : w.Apart d := by
  unfold methodVisits at there
  cases is : d.methodBody? v.tree with
  | none =>
      rw [is] at there
      cases there
  | some body =>
      rw [is] at there
      refine apart_of_mem_visits there
        (standsApart_of_mem apart.1 (List.mem_of_find?_eq_some is)).2 ?_
      exact List.forall_mem_cons.mpr apart

/-- What the nodes met contribute, if comments contribute nothing. -/
theorem filterMap_bare {β : Type} {met : List Visit} {f g : Visit → Option β}
    (comments : ∀ v ∈ met, d.isComment v.tree.kind = true → g v = none)
    (same : ∀ v ∈ met, f (v.bare d) = g v) :
    ((met.filter fun v => !d.isComment v.tree.kind).map (Visit.bare d)).filterMap f =
      met.filterMap g := by
  rw [List.filterMap_map, List.filterMap_filter]
  refine List.filterMap_congr fun v there => ?_
  cases comment : d.isComment v.tree.kind with
  | true => exact (comments v there comment).symm
  | false => exact same v there

theorem codeRows_bare {body : Tree} (apart : standsApart d body = true)
    (below : body.commentsApart d = true) (code : d.isComment body.kind = false) :
    codeRows d (body.bare d) = codeRows d body := by
  simp only [codeRows, leaves_bare body apart below code, List.filter_map, List.filter_filter,
    List.map_map, Function.comp_def, Tree.kind_bare, Tree.start_bare, Tree.stop_bare,
    Bool.and_assoc, Bool.and_self]

variable (src) in
theorem plain_of_isComment {v : Visit} (comment : d.isComment v.tree.kind = true) :
    callItem? d src v = none ∧ literalItem? d src v = none ∧ branchItem? d v = none ∧
      ¬ v.SplitsLiteral d src := by
  have call : d.call? src v.around v.tree = none := by
    rcases Dialect.kind_of_isComment comment with is | is | is <;>
      cases d <;> simp only [Dialect.call?, is]
  have literal : d.literalKind? v.tree.kind = none := by
    rcases Dialect.kind_of_isComment comment with is | is | is <;> rw [is] <;> cases d <;> rfl
  have branch : d.construct? v.tree.kind = none := by
    rcases Dialect.kind_of_isComment comment with is | is | is <;> rw [is] <;> cases d <;> rfl
  refine ⟨?_, ?_, ?_, fun splits => ?_⟩
  · rw [callItem?, call]
    rfl
  · refine Option.eq_none_iff_forall_not_mem.mpr fun item is => ?_
    cases literal.symm.trans (literalItem?_eq_some_iff.mp is).2.1
  · rw [branchItem?, branch]
    rfl
  · cases literal.symm.trans splits.2.1

variable (src) in
/-- Comments contribute nothing to a method, and all other nodes contribute the same as without
them, but for the receivers of calls. -/
theorem bodyFacts_bare {body : Tree} {around : List Tree} (below : body.commentsApart d = true)
    (outer : ∀ a ∈ around, a.commentsApart d = true) (code : d.isComment body.kind = false) :
    let met := bodyVisits d src around body
    let facts := (bodyVisits d src (around.map (Tree.bare d)) (body.bare d)).flatMap (factsAt d src)
    facts.filterMap Fact.call? = met.filterMap (fun w => callItem? d src (w.bare d)) ∧
      facts.filterMap Fact.literal? = met.filterMap (literalItem? d src) ∧
      (facts.filterMap Fact.branch?).map (fun b => (b.line, b)) =
        met.filterMap (branchItem? d) := by
  intro met facts
  have bare : bodyVisits d src (around.map (Tree.bare d)) (body.bare d) =
      (met.filter fun w => !d.isComment w.tree.kind).map (Visit.bare d) := by
    have mode : bodyMode d none (body.bare d) = bodyMode d none body := by
      rw [bodyMode, bodyMode, Tree.kind_bare]
    rw [bodyVisits, mode]
    exact visits_bare outer _ _ body below code
  obtain ⟨calls, literals, branches⟩ :=
    items_of_facts d src (bodyVisits d src (around.map (Tree.bare d)) (body.bare d))
  refine ⟨calls.trans ?_, literals.trans ?_, branches.trans ?_⟩
  · rw [bare]
    refine filterMap_bare (fun w _ comment => ?_) fun _ _ => rfl
    exact (plain_of_isComment src (v := w.bare d) (by rwa [Visit.bare, Tree.kind_bare])).1
  · rw [bare]
    exact filterMap_bare (fun w _ comment => (plain_of_isComment src comment).2.1)
      fun w there => literalItem?_bare (apart_of_mem_visits there below outer)
  · rw [bare]
    exact filterMap_bare (fun w _ comment => (plain_of_isComment src comment).2.2.1)
      fun w _ => branchItem?_bare w

/-- Without comments a method has the same model, but for the receivers of its calls. -/
theorem methodModel_bare {v : Visit} (apart : v.Apart d) :
    methodModel d src (v.bare d) = (methodModel d src v).map fun m =>
      { m with calls := inOrder ((methodVisits d src v).filterMap fun w =>
          callItem? d src (w.bare d)) } := by
  unfold methodModel methodOf methodVisits
  rw [Visit.bare, Dialect.methodBody?_bare apart.1]
  cases is : d.methodBody? v.tree with
  | none => rfl
  | some body =>
      obtain ⟨apartHere, below⟩ := standsApart_of_mem apart.1 (List.mem_of_find?_eq_some is)
      have outer : ∀ a ∈ v.tree :: v.around, a.commentsApart d = true :=
        List.forall_mem_cons.mpr apart
      have code : d.isComment body.kind = false := by
        refine Bool.eq_false_iff.mpr fun comment => ?_
        have picked := List.find?_some is
        rw [Dialect.isMethodBody_of_comment apartHere comment] at picked
        cases picked
      have facts := items_of_facts d src (bodyVisits d src (v.tree :: v.around) body)
      have bare := bodyFacts_bare src below outer code
      rw [List.map_cons] at bare
      have firstLine : (((v.tree.child? .name).map (Tree.bare d)).getD (v.tree.bare d)).line =
          ((v.tree.child? .name).getD v.tree).line := by
        cases v.tree.child? .name <;> exact Tree.line_bare
      have lastLine : (if body.kind == .arrowClause then v.tree.bare d else body.bare d).stop =
          (if body.kind == .arrowClause then v.tree else body).stop := by
        split <;> exact Tree.stop_bare
      simp only [Option.map_some, Option.elim_some, facts, bare, Tree.child?_bare apart.1,
        Option.map_map, Function.comp_def, Tree.text_bare, Tree.kind_bare, firstLine, lastLine,
        codeRows_bare apartHere below code, Dialect.annotations_bare apart.1]

theorem calls_methodModel {v : Visit} {m : Method} (model : methodModel d src v = some m) :
    m.calls = inOrder ((methodVisits d src v).filterMap (callItem? d src)) := by
  obtain ⟨body, is, rfl⟩ := Option.map_eq_some_iff.mp model
  rw [methodVisits, is, Option.elim_some]
  exact congrArg inOrder (items_of_facts d src _).1

theorem mem_inOrder {α : Type} {items : List (Nat × α)} {x : α} :
    x ∈ inOrder items ↔ ∃ key, (key, x) ∈ items := by
  rw [inOrder_eq, List.mem_map]
  simp only [(List.perm_insertionSort _ items).mem_iff, Prod.exists, exists_eq_right]

theorem map_inOrder {α β : Type} (f : α → β) (items : List (Nat × α)) :
    (inOrder items).map f = inOrder (items.map (Prod.map id f)) := by
  have sorted := List.map_insertionSort (fun x y : Nat × α => x.1 ≤ y.1)
    (fun x y : Nat × β => x.1 ≤ y.1) (Prod.map id f) items fun _ _ _ _ => .rfl
  rw [inOrder_eq, inOrder_eq, ← sorted, List.map_map, List.map_map]
  rfl

/-- Items that are put in order by the same keys are the same if the results are. -/
theorem inOrder_filterMap_inj {α β : Type} {nodes : List β} {f g : β → Option (Nat × α)}
    (keys : ∀ v ∈ nodes, (f v).map Prod.fst = (g v).map Prod.fst)
    (same : inOrder (nodes.filterMap f) = inOrder (nodes.filterMap g)) :
    ∀ v ∈ nodes, f v = g v := by
  -- The two values under a common key are put in order together.
  let both (v : β) : Option (Nat × α × α) :=
    (f v).bind fun x => (g v).map fun y => (x.1, x.2, y.2)
  have split : ∀ v ∈ nodes, f v = (both v).map (Prod.map id Prod.fst) ∧
      g v = (both v).map (Prod.map id Prod.snd) := by
    intro v there
    have key := keys v there
    rcases hf : f v with _ | ⟨k, x⟩ <;> rcases hg : g v with _ | ⟨k', y⟩ <;>
      simp_all [both]
  have left : nodes.filterMap f = (nodes.filterMap both).map (Prod.map id Prod.fst) := by
    rw [List.map_filterMap]
    exact List.filterMap_congr fun v there => (split v there).1
  have right : nodes.filterMap g = (nodes.filterMap both).map (Prod.map id Prod.snd) := by
    rw [List.map_filterMap]
    exact List.filterMap_congr fun v there => (split v there).2
  rw [left, right, ← map_inOrder, ← map_inOrder, List.map_inj_left] at same
  intro v there
  rw [(split v there).1, (split v there).2]
  cases is : both v with
  | none => rfl
  | some entry =>
      have equal := same entry.2 (mem_inOrder.mpr ⟨entry.1, List.mem_filterMap.mpr ⟨v, there, is⟩⟩)
      simp [Prod.map, equal]

theorem isSome_methodModel_bare {v : Visit} (apart : v.Apart d) :
    (methodModel d src (v.bare d)).isSome = (methodModel d src v).isSome := by
  rw [methodModel_bare apart, Option.isSome_map]

/-- A method has the same model without comments exactly if no call in it loses its receiver. -/
theorem methodModel_bare_eq_iff {v : Visit} (apart : v.Apart d) :
    methodModel d src (v.bare d) = methodModel d src v ↔
      ∀ w ∈ methodVisits d src v, ¬ w.LosesReceiver d src := by
  have calls (w : Visit) (there : w ∈ methodVisits d src v) :=
    callItem?_bare_eq_iff src (apart_of_mem_methodVisits apart there)
  rw [methodModel_bare apart]
  cases model : methodModel d src v with
  | none =>
      have none : methodVisits d src v = [] := by
        rw [methodVisits, Option.map_eq_none_iff.mp model]
        rfl
      rw [none]
      exact iff_of_true rfl nofun
  | some m =>
      rw [Option.map_some, Option.some.injEq]
      constructor
      · intro same w there
        have listed := congrArg Method.calls same
        rw [calls_methodModel model] at listed
        refine (calls w there).mp (inOrder_filterMap_inj (fun w there => ?_) listed w there)
        have key := congrArg (Option.map Prod.fst)
          (callItem?_bare_anonymous src (apart_of_mem_methodVisits apart there))
        rwa [Option.map_map, Option.map_map] at key
      · intro keeps
        have listed : inOrder ((methodVisits d src v).filterMap fun w =>
            callItem? d src (w.bare d)) = m.calls := by
          rw [calls_methodModel model]
          exact congrArg inOrder (List.filterMap_congr fun w there =>
            (calls w there).mpr (keeps w there))
        rw [listed]

def Method.anonymous (m : Method) : Method :=
  { m with calls := m.calls.map Call.anonymous }

theorem methodModel_bare_anonymous {v : Visit} (apart : v.Apart d) :
    (methodModel d src (v.bare d)).map Method.anonymous =
      (methodModel d src v).map Method.anonymous := by
  rw [methodModel_bare apart, Option.map_map]
  cases model : methodModel d src v with
  | none => rfl
  | some m =>
      have listed : (inOrder ((methodVisits d src v).filterMap fun w =>
          callItem? d src (w.bare d))).map Call.anonymous = m.calls.map Call.anonymous := by
        rw [calls_methodModel model, map_inOrder, map_inOrder, List.map_filterMap,
          List.map_filterMap]
        refine congrArg inOrder (List.filterMap_congr fun w there => ?_)
        exact callItem?_bare_anonymous src (apart_of_mem_methodVisits apart there)
      simp only [Option.map_some, Function.comp_apply, Method.anonymous, listed]

/-! ### Types -/

/-- The model of a class without the receivers of its calls. -/
def ClassModel.anonymous (c : ClassModel) : ClassModel :=
  { c with methods := c.methods.map Method.anonymous }

def methodsOf (d : Dialect) (src : Source) (type : Tree) : List Visit :=
  (memberVisits d src type).filter (·.mode == .method)

theorem apart_of_mem_methodsOf {type : Tree} {v : Visit} (apart : type.commentsApart d = true)
    (there : v ∈ methodsOf d src type) : v.Apart d :=
  apart_of_mem_visits (List.mem_of_mem_filter there) apart nofun

theorem classModel_bare {type : Tree} (imports : List Import)
    (apart : type.commentsApart d = true) (code : d.isComment type.kind = false) :
    classModel d src imports (type.bare d) =
      { classModel d src imports type with
        methods := (methodsOf d src type).filterMap fun v => methodModel d src (v.bare d) } := by
  have methods : (memberVisits d src (type.bare d)).filter (·.mode == .method) =
      (methodsOf d src type).map (Visit.bare d) := filter_mode_bare apart code rfl
  have line : (((type.child? .name).map (Tree.bare d)).getD (type.bare d)).line =
      ((type.child? .name).getD type).line := by
    cases type.child? .name <;> exact Tree.line_bare
  simp only [classModel, methods, List.filterMap_map, Tree.child?_bare apart, Option.map_map,
    Function.comp_def, Tree.text_bare, line]

theorem filterMap_eq_filterMap_iff {α β : Type} {f g : α → Option β} {xs : List α}
    (same : ∀ x ∈ xs, (f x).isSome = (g x).isSome) :
    xs.filterMap f = xs.filterMap g ↔ ∀ x ∈ xs, f x = g x := by
  induction xs with
  | nil => simp
  | cons x xs ih =>
      have rest := ih fun y member => same y (List.mem_cons_of_mem x member)
      have here := same x List.mem_cons_self
      rw [List.forall_mem_cons, ← rest]
      cases hf : f x <;> cases hg : g x <;> simp_all

theorem classModel_bare_eq_iff {type : Tree} (imports : List Import)
    (apart : type.commentsApart d = true) (code : d.isComment type.kind = false) :
    classModel d src imports (type.bare d) = classModel d src imports type ↔
      ∀ v ∈ methodsOf d src type, ∀ w ∈ methodVisits d src v, ¬ w.LosesReceiver d src := by
  have each : ∀ v ∈ methodsOf d src type, v.Apart d := fun v => apart_of_mem_methodsOf apart
  have methods : (methodsOf d src type).filterMap (fun v => methodModel d src (v.bare d)) =
      (methodsOf d src type).filterMap (methodModel d src) ↔
      ∀ v ∈ methodsOf d src type, methodModel d src (v.bare d) = methodModel d src v :=
    filterMap_eq_filterMap_iff fun v there => isSome_methodModel_bare (each v there)
  rw [classModel_bare imports apart code]
  refine Iff.trans ?_ (methods.trans (forall₂_congr fun v there =>
    methodModel_bare_eq_iff (each v there)))
  constructor
  · intro same
    exact congrArg ClassModel.methods same
  · intro same
    rw [same]
    rfl

theorem classModel_bare_anonymous {type : Tree} (imports : List Import)
    (apart : type.commentsApart d = true) (code : d.isComment type.kind = false) :
    (classModel d src imports (type.bare d)).anonymous =
      (classModel d src imports type).anonymous := by
  have methods : ((methodsOf d src type).filterMap fun v => methodModel d src (v.bare d)).map
      Method.anonymous = (classModel d src imports type).methods.map Method.anonymous := by
    rw [classModel, List.map_filterMap, List.map_filterMap]
    exact List.filterMap_congr fun v there =>
      methodModel_bare_anonymous (apart_of_mem_methodsOf apart there)
  rw [classModel_bare imports apart code, ClassModel.anonymous, ClassModel.anonymous, methods]

/-! ### Files -/

def Extraction.anonymous : Extraction → Extraction
  | .models classes => .models (classes.map ClassModel.anonymous)
  | other => other

/-- The nodes of the method bodies of a file that models are made of. -/
def modelledVisits (d : Dialect) (src : Source) (root : Tree) : List Visit :=
  ((visitsOfFile d src root).filter (·.mode == .type)).flatMap fun type =>
    (methodsOf d src type.tree).flatMap (methodVisits d src)

variable {maxNesting : Nat} {root : Tree}

theorem stopAt_bare {v : Visit} (apart : v.Apart d) :
    stopAt d src maxNesting (v.bare d) = stopAt d src maxNesting v := by
  unfold stopAt
  rw [literalAt?_bare apart]
  simp only [Visit.bare, Tree.line_bare]
  rfl

theorem findSome?_stopAt_bare (apart : root.commentsApart d = true)
    (code : d.isComment root.kind = false)
    (within : ∀ v ∈ visitsOfFile d src root, v.Within maxNesting) :
    (visitsOfFile d src (root.bare d)).findSome? (stopAt d src maxNesting) =
      (visitsOfFile d src root).findSome? (stopAt d src maxNesting) := by
  rw [visitsOfFile, visits_bare_of_tree src _ _ _ apart code, ← List.head?_filterMap,
    ← List.head?_filterMap]
  refine congrArg List.head? (filterMap_bare (fun v there comment => ?_) fun v there =>
    stopAt_bare (apart_of_mem_visits there apart nofun))
  exact stopAt_eq_none_iff.mpr ⟨within v there, (plain_of_isComment src comment).2.2.2⟩

variable (src) in
theorem importsOf_bare (apart : root.commentsApart d = true)
    (code : d.isComment root.kind = false) :
    importsOf d src (root.bare d) = importsOf d src root := by
  have importing : (visitsOfFile d src (root.bare d)).filter (·.mode == .importing) =
      ((visitsOfFile d src root).filter (·.mode == .importing)).map (Visit.bare d) :=
    filter_mode_bare apart code rfl
  rw [importsOf, importing, List.filterMap_map]
  refine List.filterMap_congr fun v _ => ?_
  simp only [Function.comp_apply, Visit.bare, Dialect.importName?_bare, Tree.line_bare]

theorem eq_aborted_of_within (within : ∀ v ∈ visitsOfFile d src root, v.Within maxNesting)
    {stopped : Extraction}
    (found : (visitsOfFile d src root).findSome? (stopAt d src maxNesting) = some stopped) :
    stopped = .aborted := by
  obtain ⟨v, member, stop⟩ := List.exists_of_findSome?_eq_some found
  rcases stopAt_cases d src maxNesting v with
    ⟨-, goes⟩ | ⟨-, -, breaks⟩ | ⟨deep, -, -⟩
  · cases goes.symm.trans stop
  · exact Option.some.inj (stop.symm.trans breaks)
  · exact absurd (within v member) deep

theorem forall_mem_modelledVisits {p : Visit → Prop} :
    (∀ w ∈ modelledVisits d src root, p w) ↔
      ∀ type ∈ (visitsOfFile d src root).filter (·.mode == .type),
        ∀ v ∈ methodsOf d src type.tree, ∀ w ∈ methodVisits d src v, p w := by
  simp only [modelledVisits, List.mem_flatMap]
  constructor
  · intro all type there v method w member
    exact all w ⟨type, there, v, method, member⟩
  · rintro all w ⟨type, there, v, method, member⟩
    exact all type there v method w member

theorem code_of_type (apart : root.commentsApart d = true) (code : d.isComment root.kind = false)
    {type : Visit} (there : type ∈ (visitsOfFile d src root).filter (·.mode == .type)) :
    type.tree.commentsApart d = true ∧ d.isComment type.tree.kind = false := by
  obtain ⟨met, mode⟩ := List.mem_filter.mp there
  refine ⟨(apart_of_mem_visits met apart nofun).1, code_of_mem_visits apart code met ?_⟩
  rw [eq_of_beq mode]
  rfl

/-- The walk through the tree without comments ends as the walk through the tree, with the models of
the same types without comments. -/
theorem classesOf_bare (apart : root.commentsApart d = true)
    (code : d.isComment root.kind = false)
    (within : ∀ v ∈ visitsOfFile d src root, v.Within maxNesting) :
    classesOf d src maxNesting (root.bare d) =
      match (visitsOfFile d src root).findSome? (stopAt d src maxNesting) with
      | some stopped => stopped
      | none => .models (((visitsOfFile d src root).filter (·.mode == .type)).map fun v =>
          classModel d src (importsOf d src root) (v.tree.bare d)) := by
  have types : (visitsOfFile d src (root.bare d)).filter (·.mode == .type) =
      ((visitsOfFile d src root).filter (·.mode == .type)).map (Visit.bare d) :=
    filter_mode_bare apart code rfl
  rw [← importsOf_bare src apart code]
  simp only [classesOf, findSome?_stopAt_bare apart code within, types, List.map_map]
  rfl

/-- Comments change nothing in the models of a file that is within the limits, but for the receivers
of calls: a receiver is lost if its chain runs into a comment. -/
theorem classesOf_bare_eq_iff (apart : root.commentsApart d = true)
    (code : d.isComment root.kind = false)
    (within : ∀ v ∈ visitsOfFile d src root, v.Within maxNesting) :
    (classesOf d src maxNesting (root.bare d)).anonymous =
        (classesOf d src maxNesting root).anonymous ∧
      (classesOf d src maxNesting (root.bare d) = classesOf d src maxNesting root ↔
        classesOf d src maxNesting root = .aborted ∨
          ∀ v ∈ modelledVisits d src root, ¬ v.LosesReceiver d src) := by
  rw [classesOf_bare apart code within]
  cases found : (visitsOfFile d src root).findSome? (stopAt d src maxNesting) with
  | some stopped =>
      have result : classesOf d src maxNesting root = stopped := by
        simp only [classesOf, found]
      rw [result]
      exact ⟨rfl, iff_of_true rfl (.inl (eq_aborted_of_within within found))⟩
  | none =>
      have result : classesOf d src maxNesting root = .models
          (((visitsOfFile d src root).filter (·.mode == .type)).map fun v =>
            classModel d src (importsOf d src root) v.tree) := by
        simp only [classesOf, found]
        rfl
      rw [result]
      constructor
      · simp only [Extraction.anonymous, List.map_map, Extraction.models.injEq]
        refine List.map_congr_left fun type there => ?_
        obtain ⟨below, plain⟩ := code_of_type apart code there
        exact classModel_bare_anonymous _ below plain
      · simp only [Extraction.models.injEq, List.map_inj_left, forall_mem_modelledVisits,
          reduceCtorEq, false_or]
        refine forall₂_congr fun type there => ?_
        obtain ⟨below, plain⟩ := code_of_type apart code there
        exact classModel_bare_eq_iff _ below plain

end

/-- In the tree of `(x/**/).f()` the comment is the last node in the parentheses. -/
theorem losesReceiver_in_parentheses :
    let src := Source.ofString "class A\x7bvoid m()\x7b(x/**/).f();\x7d\x7d"
    let group := Tree.onFirstLine .parenthesizedExpression (some .object) 17 24
      [.onFirstLine (.token "(") none 17 18 [], .onFirstLine .identifier none 18 19 [],
        .onFirstLine .blockComment none 19 23 [], .onFirstLine (.token ")") none 23 24 []]
    let call := Tree.onFirstLine .methodInvocation none 17 28
      [group, .onFirstLine .identifier (some .name) 25 26 [],
        .onFirstLine .argumentList (some .arguments) 26 28 []]
    let method := Tree.onFirstLine .methodDeclaration none 8 30
      [.onFirstLine .identifier (some .name) 13 14 [],
        .onFirstLine .block (some .body) 16 30 [call]]
    let root := Tree.onFirstLine .compilationUnit none 0 31
      [.onFirstLine .classDeclaration none 0 31
        [.onFirstLine .identifier (some .name) 6 7 [],
          .onFirstLine .classBody (some .body) 7 31 [method]]]
    root.commentsApart .java = true ∧ Dialect.java.isComment root.kind = false ∧
      (∀ v ∈ visitsOfFile .java src root, v.Within 256) ∧
      ∃ v ∈ modelledVisits .java src root, v.LosesReceiver .java src := by
  intro src group call method root
  have apart : root.commentsApart .java = true := by decide +kernel
  have result : classesOf .java src 256 root =
      .models [⟨"A", 1, [], [⟨"m", 1, 1, 1, [], [⟨"", "f", 1⟩], [], []⟩]⟩] := by decide +kernel
  have bare : classesOf .java src 256 (root.bare .java) =
      .models [⟨"A", 1, [], [⟨"m", 1, 1, 1, [], [⟨"x", "f", 1⟩], [], []⟩]⟩] := by decide +kernel
  have within (v : Visit) (there : v ∈ visitsOfFile .java src root) : v.Within 256 :=
    ((classesOf_eq_models_iff.mp result).1 v there).1
  refine ⟨apart, rfl, within, not_forall_not.mp fun none => ?_⟩
  have same := (classesOf_bare_eq_iff apart rfl within).2.mpr
    (.inr fun v there loses => none v ⟨there, loses⟩)
  rw [result, bare] at same
  revert same
  decide

/-- A comment behind a receiver in parentheses takes its name from the call. -/
theorem classesOf_loses_receiver_at_comment :
    let src := Source.ofString "class A \x7b void m() \x7b (x /* c */).f(); \x7d \x7d"
    let root := Dialect.java.parse src
    let models receiver :=
      Extraction.models [⟨"A", 1, [], [⟨"m", 1, 1, 1, [], [⟨receiver, "f", 1⟩], [], []⟩]⟩]
    firstFlaw root = none ∧ classesOf .java src 256 root = models "" ∧
      classesOf .java src 256 (root.bare .java) = models "x" := by
  decide +kernel

end LayerLint
