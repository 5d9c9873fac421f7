import LayerLint.Syntax.Receiver
import LayerLint.Proofs.Syntax.Comments

/-! Receiver chains and comments. All links but one kind pick a node by its label, so that comments
make no difference to them. From parentheses and casts the chain goes to the last node in them, and
where that is a comment it ends without a name. -/

namespace LayerLint.Syntax

open Text

variable {d : Dialect} {src : Source} {t c : Tree} {ts : List Tree} {n : Nat}

/-! ### Links -/

def Link.bare (d : Dialect) : Link → Link
  | .found name => .found name
  | .follow next => .follow (next.bare d)
  | .lost => .lost

theorem Link.ofTree?_bare (o : Option Tree) :
    Link.ofTree? (o.map (Tree.bare d)) = (Link.ofTree? o).bare d := by
  cases o <;> rfl

theorem Link.eq_of_ofTree? {o : Option Tree} (follows : Link.ofTree? o = .follow c) :
    o = some c := by
  cases o with
  | none => cases follows
  | some t => rw [Link.follow.inj follows]

theorem isSelf_bare : isSelf src (t.bare d) = isSelf src t := by
  simp only [isSelf, Tree.start_bare, Tree.stop_bare, Tree.text_bare]

theorem accessLink_bare (apart : t.commentsApart d = true) (owner member : Label) :
    accessLink src (t.bare d) owner member = (accessLink src t owner member).bare d := by
  unfold accessLink
  rw [Tree.child?_bare apart, Tree.child?_bare apart]
  cases t.child? owner with
  | none => rfl
  | some o =>
      simp only [Option.map_some, isSelf_bare, Option.map_map, Function.comp_def, Tree.text_bare]
      split <;> rfl

theorem getLast?_bareAll (last : ts.getLast? = some c) (code : d.isComment c.kind = false) :
    (bareAll d ts).getLast? = some (c.bare d) := by
  obtain ⟨before, rfl⟩ := List.getLast?_eq_some_iff.mp last
  rw [bareAll_eq, List.filter_append, List.map_append]
  simp [code]

theorem lastLink_bare :
    Link.ofTree? (t.bare d).namedChildren.getLast? =
        (Link.ofTree? t.namedChildren.getLast?).bare d ∨
      ∃ c, Link.ofTree? t.namedChildren.getLast? = .follow c ∧ d.isComment c.kind = true := by
  rw [Tree.namedChildren_bare]
  cases last : t.namedChildren.getLast? with
  | none =>
      rw [List.getLast?_eq_none_iff.mp last]
      exact .inl rfl
  | some c =>
      cases comment : d.isComment c.kind with
      | true => exact .inr ⟨c, rfl, comment⟩
      | false =>
          rw [getLast?_bareAll last comment]
          exact .inl rfl

variable (src) in
/-- A link is the same in the tree without comments, unless it leads to a comment. -/
theorem link_bare (apart : t.commentsApart d = true) :
    link src (t.bare d) = (link src t).bare d ∨
      ∃ c, link src t = .follow c ∧ d.isComment c.kind = true := by
  have labelled (l : Label) : Link.ofTree? ((t.bare d).child? l) =
      (Link.ofTree? (t.child? l)).bare d := by
    rw [Tree.child?_bare apart, Link.ofTree?_bare]
  unfold link
  rw [Tree.kind_bare]
  split
  · exact .inl (by rw [Tree.text_bare]; rfl)
  · exact .inl (by rw [Tree.text_bare]; rfl)
  · exact .inl (by rw [Tree.text_bare]; rfl)
  · exact .inl (accessLink_bare apart _ _)
  · exact .inl (accessLink_bare apart _ _)
  · left
    rw [Tree.child?_bare apart, Tree.child?_bare apart]
    cases t.child? .object with
    | none =>
        simp only [Option.map_none, Option.filter_none, Option.map_map, Function.comp_def,
          Tree.text_bare]
        rfl
    | some o =>
        simp only [Option.map_some, Option.filter_some, isSelf_bare, Option.map_map,
          Function.comp_def, Tree.text_bare]
        cases isSelf src o <;> rfl
  · exact .inl (labelled .function)
  · exact .inl (labelled .array)
  · exact .inl (labelled .expression)
  · next access =>
      left
      have target := Dialect.accessTarget_bare apart access
      unfold Dialect.accessTarget at target
      rw [target, Link.ofTree?_bare]
  · exact lastLink_bare
  · exact lastLink_bare
  · exact .inl rfl

theorem mem_children_of_link (follows : link src t = .follow c) : c ∈ t.children := by
  have labelled {l : Label} (is : t.child? l = some c) : c ∈ t.children :=
    List.mem_of_find?_eq_some is
  have access {owner member : Label} (follows : accessLink src t owner member = .follow c) :
      c ∈ t.children := by
    unfold accessLink at follows
    split at follows
    · next o is =>
        split at follows
        · cases follows
        · exact labelled (Link.follow.inj follows ▸ is)
    · cases follows
  unfold link at follows
  split at follows
  · cases follows
  · cases follows
  · cases follows
  · exact access follows
  · exact access follows
  · split at follows
    · next o is =>
        exact labelled (Link.follow.inj follows ▸ (Option.filter_eq_some_iff.mp is).1)
    · cases follows
  · exact labelled (Link.eq_of_ofTree? follows)
  · exact labelled (Link.eq_of_ofTree? follows)
  · exact labelled (Link.eq_of_ofTree? follows)
  · rcases Option.or_eq_some_iff.mp (Link.eq_of_ofTree? follows) with is | ⟨-, first⟩
    · exact labelled is
    · exact List.mem_of_mem_filter (List.mem_of_head? first)
  · exact List.mem_of_mem_filter (List.mem_of_getLast? (Link.eq_of_ofTree? follows))
  · exact List.mem_of_mem_filter (List.mem_of_getLast? (Link.eq_of_ofTree? follows))
  · cases follows

/-! ### Chains -/

/-- Within `n` links the chain from a node leads to a comment. -/
def RunsIntoComment (d : Dialect) (src : Source) : Nat → Tree → Prop
  | 0, _ => False
  | n + 1, t => ∃ next, link src t = .follow next ∧
      (d.isComment next.kind = true ∨ RunsIntoComment d src n next)

theorem hintWithin_comment (comment : d.isComment t.kind = true) : hintWithin src n t = "" := by
  cases n with
  | zero => rfl
  | succ n =>
      rw [hintWithin, link]
      rcases Dialect.kind_of_isComment comment with is | is | is <;> rw [is]

theorem RunsIntoComment.hintWithin_eq (runs : RunsIntoComment d src n t) :
    hintWithin src n t = "" := by
  induction n generalizing t with
  | zero => exact runs.elim
  | succ n ih =>
      obtain ⟨next, follows, comment | more⟩ := runs
      · rw [hintWithin, follows]
        exact hintWithin_comment comment
      · rw [hintWithin, follows]
        exact ih more

variable (src n) in
theorem hintWithin_bare (apart : t.commentsApart d = true) :
    hintWithin src n (t.bare d) = hintWithin src n t ∨ RunsIntoComment d src n t := by
  induction n generalizing t with
  | zero => exact .inl rfl
  | succ n ih =>
      rcases link_bare src apart with same | ⟨c, follows, comment⟩
      · rw [hintWithin, hintWithin, same]
        cases follows : link src t with
        | found name => exact .inl rfl
        | lost => exact .inl rfl
        | follow next =>
            have below := (standsApart_of_mem apart (mem_children_of_link follows)).2
            exact (ih below).imp_right fun runs => ⟨next, follows, .inr runs⟩
      · exact .inr ⟨c, follows, .inl comment⟩

/-- Without comments a receiver has another root name exactly if its chain runs into a comment, and
without comments it has a root name. -/
theorem receiverHint_bare_eq_iff (apart : t.commentsApart d = true) :
    receiverHint src (t.bare d) = receiverHint src t ↔
      ¬ (RunsIntoComment d src chainLimit t ∧ receiverHint src (t.bare d) ≠ "") := by
  constructor
  · rintro same ⟨runs, named⟩
    exact named (same.trans runs.hintWithin_eq)
  · intro keeps
    rcases hintWithin_bare src chainLimit apart with same | runs
    · exact same
    · rw [receiverHint, receiverHint, runs.hintWithin_eq]
      exact not_not.mp fun named => keeps ⟨runs, named⟩

end LayerLint.Syntax
