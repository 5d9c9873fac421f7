import LayerLint.Proofs.Extract.Lines
import LayerLint.Proofs.Syntax.Comments
import LayerLint.Proofs.Syntax.Leaves
import Mathlib.Data.Set.Card

/-! The lines of a method body: the rows on which its tokens start, comments and delimiters apart.
The delimiters of a braced body are its two braces. In an expression body every arrow passes for a
delimiter, also those of lambdas and switch arms, so that a row with nothing else is not counted. -/

namespace LayerLint

open Syntax

/-! ### Counting rows -/

theorem countDistinct_eq_card (ns : List Nat) : countDistinct ns = ns.toFinset.card := by
  have same : ns.eraseDups.toFinset = ns.toFinset := by
    ext n
    simp only [List.mem_toFinset, List.mem_eraseDups]
  rw [countDistinct, ← List.toFinset_card_of_nodup (nodup_eraseDups ns), same]

theorem countDistinct_eq_ncard {ns : List Nat} {rows : Set Nat} (same : ∀ n, n ∈ ns ↔ n ∈ rows) :
    countDistinct ns = rows.ncard := by
  have set : rows = ns.toFinset := by
    ext n
    rw [List.coe_toFinset, ← same]
    rfl
  rw [set, Set.ncard_coe_finset, countDistinct_eq_card]

theorem countDistinct_map {ns : List Nat} {f : Nat → Nat} (apart : Set.InjOn f {n | n ∈ ns}) :
    countDistinct (ns.map f) = countDistinct ns := by
  have image : (ns.map f).toFinset = ns.toFinset.image f := by
    ext n
    simp only [List.mem_toFinset, List.mem_map, Finset.mem_image]
  rw [countDistinct_eq_card, countDistinct_eq_card, image]
  apply Finset.card_image_of_injOn
  rw [List.coe_toFinset]
  exact apart

def changes : List Nat → Nat
  | m :: n :: ns => (if m = n then 0 else 1) + changes (n :: ns)
  | _ => 0

/-- In a row of entries that do not decrease, each change brings an entry that is new. -/
theorem countDistinct_of_sorted {ns : List Nat} (sorted : ns.Pairwise (· ≤ ·)) (some : ns ≠ []) :
    countDistinct ns = changes ns + 1 := by
  induction ns with
  | nil => exact absurd rfl some
  | cons m ns ih =>
      obtain ⟨least, sorted⟩ := List.pairwise_cons.mp sorted
      cases ns with
      | nil => rfl
      | cons n ns =>
          have rest := ih sorted (List.cons_ne_nil n ns)
          rw [countDistinct_eq_card] at rest ⊢
          rw [List.toFinset_cons, changes]
          by_cases same : m = n
          · subst same
            rw [if_pos rfl, Finset.insert_eq_of_mem (by simp), rest]
            omega
          · have new : m ∉ (n :: ns).toFinset := by
              intro again
              rw [List.mem_toFinset] at again
              have first := least n List.mem_cons_self
              rcases List.mem_cons.mp again with here | later
              · exact same here
              · have := (List.pairwise_cons.mp sorted).1 m later
                omega
            rw [if_neg same, Finset.card_insert_of_notMem new, rest]
            omega

namespace Syntax

/-! ### Bodies and their delimiters -/

/-- A token of a tree that is no comment. -/
structure CodeAt (d : Dialect) (t : Tree) (a : Address) (s : Spot) : Prop where
  node : t.spot.at? a = some s
  token : s.tree.children = []
  code : d.isComment s.tree.kind = false

/-- The rows on which tokens of some kind start, comments apart. -/
def rowsWhere (d : Dialect) (t : Tree) (which : Address → Spot → Prop) : Set Nat :=
  {row | ∃ a s, CodeAt d t a s ∧ which a s ∧ s.tree.start.row = row}

namespace Tree

def isToken (text : String) (t : Tree) : Bool :=
  t.kind == .token text && t.children.isEmpty && decide (t.start.offset < t.stop.offset)

/-- Whether a node starts with an opening brace and stops with a closing one. -/
def isBraced (t : Tree) : Bool :=
  t.kind != .arrowClause &&
    t.children.head?.any (fun c => c.isToken "\x7b" && c.start.offset == t.start.offset) &&
    t.children.getLast?.any (fun c => c.isToken "\x7d" && c.stop.offset == t.stop.offset)

def isArrowBody (t : Tree) : Bool :=
  t.kind == .arrowClause && t.children.head?.any (·.isToken "=>")

/-- A node with its braces and the nodes between them. -/
structure Encloses (t opening : Tree) (inner : List Tree) (closing : Tree) : Prop where
  kind : t.kind ≠ .arrowClause
  children : t.children = opening :: (inner ++ [closing])
  opens : opening.kind = .token "\x7b" ∧ opening.children = []
  closes : closing.kind = .token "\x7d" ∧ closing.children = []
  start : opening.start.offset = t.start.offset ∧ opening.start.offset < opening.stop.offset
  stop : closing.stop.offset = t.stop.offset ∧ closing.start.offset < closing.stop.offset

theorem exists_of_isToken {text : String} {t : Tree} (is : t.isToken text = true) :
    t.kind = .token text ∧ t.children = [] ∧ t.start.offset < t.stop.offset := by
  simpa only [isToken, Bool.and_eq_true, beq_iff_eq, List.isEmpty_iff, decide_eq_true_eq,
    and_assoc] using is

theorem exists_of_isBraced {t : Tree} (braced : t.isBraced = true) :
    ∃ opening inner closing, t.Encloses opening inner closing := by
  simp only [isBraced, Bool.and_eq_true, bne_iff_ne, Option.any_eq_true, beq_iff_eq] at braced
  obtain ⟨⟨kind, opening, first, open', start⟩, closing, last, close, stop⟩ := braced
  obtain ⟨opens, leaf, wide⟩ := exists_of_isToken open'
  obtain ⟨closes, leaf', wide'⟩ := exists_of_isToken close
  obtain ⟨rest, children⟩ := List.head?_eq_some_iff.mp first
  rw [children] at last
  -- The two braces differ, so that the closing one is among the rest.
  cases rest using List.reverseRecOn with
  | nil =>
      obtain rfl := Option.some.inj last
      exact absurd (Kind.token.inj (opens.symm.trans closes)) (by decide)
  | append_singleton inner c =>
      rw [← List.cons_append, List.getLast?_concat] at last
      obtain rfl := Option.some.inj last
      exact ⟨opening, inner, c, kind, children, ⟨opens, leaf⟩, ⟨closes, leaf'⟩, ⟨start, wide⟩,
        ⟨stop, wide'⟩⟩

end Tree

end Syntax

section

variable {d : Dialect} {src : Source} {body opening closing : Tree} {inner : List Tree}

theorem codeRows_of_arrow (arrow : body.kind = .arrowClause) :
    codeRows d body = ((leaves body).filter fun leaf =>
      !(leaf.kind == .token "=>") && !d.isComment leaf.kind).map (·.start.row) := by
  simp only [codeRows, arrow, BEq.rfl, if_true]

theorem mem_leaves_iff {t leaf : Tree} :
    leaf ∈ leaves t ↔ ∃ a s, t.spot.at? a = some s ∧ s.tree.children = [] ∧ s.tree = leaf := by
  rw [← map_addressedLeaves [], List.mem_map]
  constructor
  · rintro ⟨⟨a, s⟩, member, rfl⟩
    obtain ⟨node, token⟩ := (mem_addressedLeaves t).mp member
    exact ⟨a, s, node, token, rfl⟩
  · rintro ⟨a, s, node, token, rfl⟩
    exact ⟨(a, s), (mem_addressedLeaves t).mpr ⟨node, token⟩, rfl⟩

theorem rowsWhere_finite (which : Address → Spot → Prop) : (rowsWhere d body which).Finite := by
  refine (List.finite_toSet ((leaves body).map (·.start.row))).subset ?_
  rintro row ⟨a, s, token, -, rfl⟩
  exact List.mem_map.mpr ⟨s.tree, mem_leaves_iff.mpr ⟨a, s, token.node, token.token, rfl⟩, rfl⟩

theorem mem_codeRows_of_arrow (arrow : body.kind = .arrowClause) {row : Nat} :
    row ∈ codeRows d body ↔ row ∈ rowsWhere d body fun _ s => s.tree.kind ≠ .token "=>" := by
  rw [codeRows_of_arrow arrow]
  simp only [rowsWhere, Set.mem_ofPred_eq, List.mem_map, List.mem_filter, mem_leaves_iff,
    Bool.and_eq_true, Bool.not_eq_true', beq_eq_false_iff_ne]
  constructor
  · rintro ⟨leaf, ⟨⟨a, s, node, token, rfl⟩, other, code⟩, rfl⟩
    exact ⟨a, s, ⟨node, token, code⟩, other, rfl⟩
  · rintro ⟨a, s, ⟨node, token, code⟩, other, rfl⟩
    exact ⟨s.tree, ⟨⟨a, s, node, token, rfl⟩, other, code⟩, rfl⟩

/-! ### Braced bodies -/

theorem leavesOfAll_append (ts us : List Tree) :
    leavesOfAll (ts ++ us) = leavesOfAll ts ++ leavesOfAll us := by
  induction ts with
  | nil => rfl
  | cons t ts ih => rw [List.cons_append, leavesOfAll, leavesOfAll, ih, List.append_assoc]

theorem leaves_of_token {t : Tree} (token : t.children = []) : leaves t = [t] := by
  cases t
  obtain rfl := token
  rfl

theorem leaves_of_encloses (braces : body.Encloses opening inner closing) :
    leaves body = opening :: (leavesOfAll inner ++ [closing]) := by
  have below : leaves body = leavesOfAll body.children := by
    cases body with
    | node tag children =>
        refine leaves_eq_leavesOfAll fun none => ?_
        cases none.symm.trans braces.children
  rw [below, braces.children, leavesOfAll, leavesOfAll_append, leavesOfAll, leavesOfAll,
    leaves_of_token braces.opens.2, leaves_of_token braces.closes.2]
  rfl

/-- What stands between the braces starts after the opening one and stops before the closing one. -/
theorem inside_of_mem_leaves (braces : body.Encloses opening inner closing)
    (placed : body.inPlace src = true) {leaf : Tree} (member : leaf ∈ leavesOfAll inner) :
    opening.stop.offset ≤ leaf.start.offset ∧ leaf.stop.offset ≤ closing.start.offset := by
  obtain ⟨c, child, below⟩ := exists_of_mem_leavesOfAll inner member
  obtain ⟨i, here⟩ := List.mem_iff_getElem?.mp child
  have bound : i < inner.length := (List.getElem?_eq_some_iff.mp here).1
  have row := (Tree.placed_of_inPlace placed).2.2
  rw [braces.children] at row
  have middle : (opening :: (inner ++ [closing]))[i + 1]? = some c := by
    rw [List.getElem?_cons_succ, List.getElem?_append_left bound, here]
  have last : (opening :: (inner ++ [closing]))[inner.length + 1]? = some closing := by
    rw [List.getElem?_cons_succ, List.getElem?_concat_length]
  have after := stop_le_start_of_inRow row (Nat.succ_pos i) rfl middle
  have before := stop_le_start_of_inRow row (Nat.succ_lt_succ bound) middle last
  have inPlace : c.inPlace src = true := by
    refine (Tree.Contains.of_mem ?_).inPlace placed
    rw [braces.children]
    exact List.mem_cons_of_mem _ (List.mem_append_left _ child)
  have bounds := below.bounds inPlace
  omega

/-- The rows of a braced body are those of the tokens between the braces. -/
theorem codeRows_of_encloses (braces : body.Encloses opening inner closing)
    (placed : body.inPlace src = true) :
    codeRows d body =
      ((leavesOfAll inner).filter fun leaf => !d.isComment leaf.kind).map (·.start.row) := by
  have other : (body.kind == .arrowClause) = false := beq_false_of_ne braces.kind
  simp only [codeRows, other, Bool.false_eq_true, if_false, leaves_of_encloses braces]
  rw [List.filter_cons_of_neg (by simp [braces.start.1]), List.filter_append,
    List.filter_cons_of_neg (by simp [braces.stop.1]), List.filter_nil, List.append_nil]
  refine congrArg _ (List.filter_congr fun leaf member => ?_)
  have inside := inside_of_mem_leaves braces placed member
  have start := braces.start
  have stop := braces.stop
  have apart : (leaf.start.offset == body.start.offset ||
      leaf.stop.offset == body.stop.offset) = false := by
    rw [Bool.or_eq_false_iff, beq_eq_false_iff_ne, beq_eq_false_iff_ne]
    omega
  rw [apart, Bool.not_false, Bool.true_and]

/-- The rows of the tokens of a node that are neither its first child nor its last one, comments
apart. -/
def innerRows (d : Dialect) (t : Tree) : List Nat :=
  ((addressedLeaves [] t).filter fun x =>
    x.1 != [0] && x.1 != [t.children.length - 1] && !d.isComment x.2.tree.kind).map
      (·.2.tree.start.row)

theorem mem_innerRows {row : Nat} :
    row ∈ innerRows d body ↔
      row ∈ rowsWhere d body fun a _ => a ≠ [0] ∧ a ≠ [body.children.length - 1] := by
  simp only [rowsWhere, Set.mem_ofPred_eq, innerRows, List.mem_map, List.mem_filter, Prod.exists,
    mem_addressedLeaves, Bool.and_eq_true, bne_iff_ne, Bool.not_eq_true']
  constructor
  · rintro ⟨a, s, ⟨⟨node, token⟩, ⟨first, last⟩, code⟩, is⟩
    exact ⟨a, s, ⟨node, token, code⟩, ⟨first, last⟩, is⟩
  · rintro ⟨a, s, ⟨node, token, code⟩, ⟨first, last⟩, is⟩
    exact ⟨a, s, ⟨⟨node, token⟩, ⟨first, last⟩, code⟩, is⟩

theorem addressedLeaves_of_encloses (braces : body.Encloses opening inner closing) :
    addressedLeaves [] body = ([0], ⟨opening, [body]⟩) ::
      (addressedLeavesFrom [body] 1 inner ++ [([inner.length + 1], ⟨closing, [body]⟩)]) := by
  have more : body.children ≠ [] := by
    rw [braces.children]
    exact List.cons_ne_nil _ _
  rw [addressedLeaves_of_ne_nil more, braces.children, addressedLeavesFrom,
    addressedLeavesFrom_append, addressedLeavesFrom, addressedLeavesFrom,
    addressedLeaves_of_token braces.opens.2, addressedLeaves_of_token braces.closes.2,
    Nat.zero_add, Nat.add_comm 1]
  rfl

theorem codeRows_eq_innerRows (braces : body.Encloses opening inner closing)
    (placed : body.inPlace src = true) : codeRows d body = innerRows d body := by
  have length : body.children.length - 1 = inner.length + 1 := by
    rw [braces.children, List.length_cons, List.length_append]
    rfl
  have between : ∀ x ∈ addressedLeavesFrom [body] 1 inner,
      (x.1 != [0] && x.1 != [inner.length + 1]) = true := by
    rintro ⟨a, s⟩ member
    obtain ⟨i, rest, rfl, c, child, -⟩ := (mem_addressedLeavesFrom inner).mp member
    have bound := (List.getElem?_eq_some_iff.mp child).1
    simp only [Bool.and_eq_true, bne_iff_ne, ne_eq, List.cons.injEq, not_and]
    omega
  rw [codeRows_of_encloses braces placed, innerRows, addressedLeaves_of_encloses braces, length,
    List.filter_cons_of_neg (by simp), List.filter_append, List.filter_cons_of_neg (by simp),
    List.filter_nil, List.append_nil, ← map_addressedLeavesFrom [body] 1, List.filter_map,
    List.map_map]
  refine congrArg _ (List.filter_congr fun x member => ?_)
  rw [between x member, Bool.true_and]
  rfl

/-- The rows of a body in place are listed from the first to the last. -/
theorem codeRows_sorted (placed : body.inPlace src = true) :
    (codeRows d body).Pairwise (· ≤ ·) := by
  have all : ((leaves body).map (·.start.row)).Pairwise (· ≤ ·) := by
    rw [← map_addressedLeaves [], List.map_map, List.pairwise_map]
    refine (List.pairwise_map.mp (pairwise_addressedLeaves [] body)).imp_of_mem ?_
    intro x y here there before
    obtain ⟨node, -⟩ := (mem_addressedLeaves body).mp here
    obtain ⟨node', -⟩ := (mem_addressedLeaves body).mp there
    have starts := Spot.start_le_of_lt placed before node node'
    have left := (Spot.contains_of_at? node).inPlace placed
    have right := (Spot.contains_of_at? node').inPlace placed
    exact Nat.le_of_succ_le_succ (Tree.line_le_of_start_le left right starts)
  unfold codeRows
  exact all.sublist (List.filter_sublist.map _)

theorem codeRows_eq_innerRows_of_isBraced (braced : body.isBraced = true)
    (placed : body.inPlace src = true) : codeRows d body = innerRows d body := by
  obtain ⟨opening, inner, closing, braces⟩ := Tree.exists_of_isBraced braced
  exact codeRows_eq_innerRows braces placed

theorem innerRows_sorted (braced : body.isBraced = true) (placed : body.inPlace src = true) :
    (innerRows d body).Pairwise (· ≤ ·) := by
  rw [← codeRows_eq_innerRows_of_isBraced braced placed]
  exact codeRows_sorted placed

end

/-! ### The same code -/

namespace Syntax

mutual

/-- Whether two trees are the same apart from comments, if nodes are compared by their tags. -/
def Tree.sameCodeBy (related : Tag → Tag → Bool) (d : Dialect) : Tree → Tree → Bool
  | .node tag ts, u =>
    related tag u.tag && sameCodeByIn related d ts (u.children.filter fun c => !d.isComment c.kind)

def sameCodeByIn (related : Tag → Tag → Bool) (d : Dialect) : List Tree → List Tree → Bool
  | [], us => us.isEmpty
  | t :: ts, us =>
    if d.isComment t.kind then sameCodeByIn related d ts us
    else
      match us with
      | [] => false
      | u :: us => t.sameCodeBy related d u && sameCodeByIn related d ts us

end

/-- Whether two trees are the same apart from comments and from the places of their nodes. -/
def Tree.sameCode (d : Dialect) : Tree → Tree → Bool :=
  Tree.sameCodeBy (fun a b => a.kind == b.kind && a.label == b.label) d

/-- The row that a row becomes when lines are put in front of rows, one entry after another: the row
that they are put in front of, and how many they are. -/
def rowAfter (lines : List (Nat × Nat)) (row : Nat) : Nat :=
  lines.foldl (fun row (first, count) => if row < first then row else row + count) row

/-- Whether a tree arises from another by whole lines that are added and taken away: the code stays
the same, and its nodes come to the same rows once the lines that were added are put into the first
text and those that were taken away into the second. -/
def Tree.sameCodeInLines (d : Dialect) (added removed : List (Nat × Nat)) : Tree → Tree → Bool :=
  Tree.sameCodeBy (fun a b => a.kind == b.kind && a.label == b.label &&
    rowAfter added a.span.start.row == rowAfter removed b.span.start.row) d

theorem rowAfter_strictMono (lines : List (Nat × Nat)) : StrictMono (rowAfter lines) := by
  induction lines with
  | nil => exact strictMono_id
  | cons line lines ih =>
      intro m n before
      refine ih ?_
      dsimp only
      split <;> split <;> omega

def codeTokens (d : Dialect) (tokens : List Tree) : List Tree :=
  tokens.filter fun leaf => !d.isComment leaf.kind

variable {d : Dialect} {related : Tag → Tag → Bool}

theorem codeTokens_append (ts us : List Tree) :
    codeTokens d (ts ++ us) = codeTokens d ts ++ codeTokens d us :=
  List.filter_append ..

/-- A node that is no comment does not consist of comments alone. -/
theorem exists_code {t : Tree} (apart : standsApart d t = true) (code : d.isComment t.kind = false)
    (more : t.children ≠ []) : ∃ c ∈ t.children, d.isComment c.kind = false := by
  simp only [standsApart, code, Bool.false_eq_true, if_false, Bool.or_eq_true, List.isEmpty_iff,
    more, false_or, List.any_eq_true, Bool.not_eq_true'] at apart
  exact apart

theorem codeTokens_leaves_comment {t : Tree} (apart : standsApart d t = true)
    (comment : d.isComment t.kind = true) : codeTokens d (leaves t) = [] := by
  rw [leaves_of_token (of_comment apart comment).2, codeTokens, List.filter_cons_of_neg]
  · rfl
  · simp [comment]

theorem codeTokens_filter {ts : List Tree} (apart : ∀ t ∈ ts, standsApart d t = true) :
    codeTokens d (leavesOfAll (ts.filter fun c => !d.isComment c.kind)) =
      codeTokens d (leavesOfAll ts) := by
  induction ts with
  | nil => rfl
  | cons t ts ih =>
      have rest := ih fun c member => apart c (List.mem_cons_of_mem t member)
      rw [leavesOfAll, codeTokens_append, ← rest]
      cases comment : d.isComment t.kind with
      | true =>
          rw [List.filter_cons_of_neg (by simp [comment]),
            codeTokens_leaves_comment (apart t List.mem_cons_self) comment]
          rfl
      | false =>
          rw [List.filter_cons_of_pos (by simp [comment]), leavesOfAll, codeTokens_append]

theorem comments_of_sameCodeByIn_nil {ts : List Tree}
    (same : sameCodeByIn related d ts [] = true) : ∀ t ∈ ts, d.isComment t.kind = true := by
  induction ts with
  | nil => exact nofun
  | cons t ts ih =>
      rw [sameCodeByIn] at same
      split at same
      · next comment => exact List.forall_mem_cons.mpr ⟨comment, ih same⟩
      · cases same

mutual

/-- Trees with the same code have the same tokens in the same order, one related to the other. -/
theorem forall₂_of_sameCodeBy (kinds : ∀ a b, related a b = true → a.kind = b.kind) :
    ∀ t u : Tree, t.sameCodeBy related d u = true → t.everywhere (standsApart d) = true →
      u.everywhere (standsApart d) = true → d.isComment t.kind = false →
      List.Forall₂ (fun a b => related a.tag b.tag = true) (codeTokens d (leaves t))
        (codeTokens d (leaves u))
  | .node tag ts, .node tag' us, same, apart, apart', code => by
      obtain ⟨alike, below⟩ := Bool.and_eq_true_iff.mp same
      obtain ⟨here, inside⟩ := Tree.everywhere_iff.mp apart
      obtain ⟨here', inside'⟩ := Tree.everywhere_iff.mp apart'
      have kind : tag.kind = tag'.kind := kinds tag tag' alike
      have code' : d.isComment tag'.kind = false := kind ▸ code
      cases ts with
      | nil =>
          have none : us = [] := by
            by_contra more
            obtain ⟨c, child, plain⟩ := exists_code here' code' more
            have comment := List.filter_eq_nil_iff.mp (List.isEmpty_iff.mp below) c child
            exact comment (by simp [plain])
          subst none
          have left : codeTokens d (leaves (.node tag [])) = [.node tag []] :=
            List.filter_cons_of_pos (by rw [code]; rfl)
          have right : codeTokens d (leaves (.node tag' [])) = [.node tag' []] :=
            List.filter_cons_of_pos (by rw [Tree.kind, Tree.tag, code']; rfl)
          rw [left, right]
          exact .cons alike .nil
      | cons c cs =>
          have more : us ≠ [] := by
            rintro rfl
            obtain ⟨e, child, plain⟩ := exists_code here code (List.cons_ne_nil c cs)
            cases plain.symm.trans (comments_of_sameCodeByIn_nil below e child)
          have children : ∀ u ∈ us, standsApart d u = true :=
            fun u member => (Tree.everywhere_iff.mp (inside' u member)).1
          rw [leaves_eq_leavesOfAll (List.cons_ne_nil c cs), leaves_eq_leavesOfAll more,
            ← codeTokens_filter children]
          exact forall₂_of_sameCodeByIn kinds (c :: cs) _ below inside fun u member =>
            inside' u (List.mem_of_mem_filter member)

theorem forall₂_of_sameCodeByIn (kinds : ∀ a b, related a b = true → a.kind = b.kind) :
    ∀ ts us : List Tree, sameCodeByIn related d ts us = true →
      (∀ t ∈ ts, t.everywhere (standsApart d) = true) →
      (∀ u ∈ us, u.everywhere (standsApart d) = true) →
      List.Forall₂ (fun a b => related a.tag b.tag = true) (codeTokens d (leavesOfAll ts))
        (codeTokens d (leavesOfAll us))
  | [], us, same, _, _ => by
      rw [List.isEmpty_iff.mp same]
      exact .nil
  | t :: ts, us, same, apart, apart' => by
      obtain ⟨here, inside⟩ := List.forall_mem_cons.mp apart
      unfold sameCodeByIn at same
      split at same
      · next comment =>
          rw [leavesOfAll, codeTokens_append,
            codeTokens_leaves_comment (Tree.everywhere_iff.mp here).1 comment, List.nil_append]
          exact forall₂_of_sameCodeByIn kinds ts us same inside apart'
      · next code =>
          cases us with
          | nil => cases same
          | cons u us =>
              obtain ⟨here', inside'⟩ := List.forall_mem_cons.mp apart'
              obtain ⟨first, rest⟩ := Bool.and_eq_true_iff.mp same
              rw [leavesOfAll, leavesOfAll, codeTokens_append, codeTokens_append]
              exact List.rel_append
                (forall₂_of_sameCodeBy kinds t u first here here' (Bool.eq_false_iff.mpr code))
                (forall₂_of_sameCodeByIn kinds ts us rest inside inside')

end

end Syntax

/-! ### The lines of a method -/

variable {d : Dialect} {src : Source} {v : Visit} {m : Method} {body : Tree}

theorem bodyLines_eq (model : methodModel d src v = some m)
    (is : d.methodBody? v.tree = some body) : m.bodyLines = countDistinct (codeRows d body) := by
  rw [methodModel, is, Option.map_some] at model
  obtain rfl := Option.some.inj model
  rfl

theorem Dialect.isComment_token (d : Dialect) (text : String) :
    d.isComment (.token text) = false := by
  cases d <;> rfl

theorem codeTokens_token {t : Tree} {text : String} (kind : t.kind = .token text) :
    codeTokens d [t] = [t] := by
  simp [codeTokens, kind, d.isComment_token]

section

variable {opening closing : Tree} {inner : List Tree}

theorem codeTokens_of_encloses (braces : body.Encloses opening inner closing) :
    codeTokens d (leaves body) = opening :: (codeTokens d (leavesOfAll inner) ++ [closing]) := by
  rw [leaves_of_encloses braces, ← List.singleton_append, codeTokens_append, codeTokens_append,
    codeTokens_token braces.opens.1, codeTokens_token braces.closes.1]
  rfl

theorem innerRows_of_encloses (braces : body.Encloses opening inner closing)
    (placed : body.inPlace src = true) :
    innerRows d body = (codeTokens d (leavesOfAll inner)).map (·.start.row) := by
  rw [← codeRows_eq_innerRows braces placed, codeRows_of_encloses braces placed]
  rfl

end

section

variable {body' : Tree} {src' : Source} {related : Tag → Tag → Bool}
  (kinds : ∀ a b, related a b = true → a.kind = b.kind)
  (braced : body.isBraced = true) (placed : body.inPlace src = true)
  (braced' : body'.isBraced = true) (placed' : body'.inPlace src' = true)
  (apart : body.everywhere (standsApart d) = true)
  (apart' : body'.everywhere (standsApart d) = true)

include kinds braced placed braced' placed' apart apart' in
/-- The tokens between the braces of two bodies with the same code. -/
theorem exists_tokens_of_sameCodeBy (same : body.sameCodeBy related d body' = true) :
    ∃ tokens tokens' : List Tree, innerRows d body = tokens.map (·.start.row) ∧
      innerRows d body' = tokens'.map (·.start.row) ∧
      List.Forall₂ (fun a b => related a.tag b.tag = true) tokens tokens' := by
  obtain ⟨opening, inner, closing, braces⟩ := Tree.exists_of_isBraced braced
  obtain ⟨opening', inner', closing', braces'⟩ := Tree.exists_of_isBraced braced'
  have code : d.isComment body.kind = false := by
    refine Bool.eq_false_iff.mpr fun comment => ?_
    have alone := (of_comment (Tree.everywhere_iff.mp apart).1 comment).2
    cases alone.symm.trans braces.children
  have tokens := forall₂_of_sameCodeBy kinds body body' same apart apart' code
  rw [codeTokens_of_encloses braces, codeTokens_of_encloses braces'] at tokens
  refine ⟨_, _, innerRows_of_encloses braces placed, innerRows_of_encloses braces' placed', ?_⟩
  obtain ⟨-, rest⟩ := List.forall₂_cons.mp tokens
  -- The closing braces are the first tokens when the rest is turned around.
  have turned := List.forall₂_reverse_iff.mpr rest
  rw [List.reverse_append, List.reverse_append] at turned
  exact List.forall₂_reverse_iff.mp (List.forall₂_cons.mp turned).2

include braced placed braced' placed' apart apart' in
/-- Bodies with the same code have as many lines exactly if as many of their tokens start on another
row than the token before. -/
theorem countDistinct_innerRows_eq_iff (same : body.sameCode d body' = true) :
    countDistinct (innerRows d body') = countDistinct (innerRows d body) ↔
      changes (innerRows d body') = changes (innerRows d body) := by
  have kinds : ∀ a b : Tag, (a.kind == b.kind && a.label == b.label) = true → a.kind = b.kind :=
    fun a b alike => eq_of_beq (Bool.and_eq_true_iff.mp alike).1
  obtain ⟨tokens, tokens', rows, rows', alike⟩ :=
    exists_tokens_of_sameCodeBy kinds braced placed braced' placed' apart apart' same
  have sorted : (innerRows d body).Pairwise (· ≤ ·) := innerRows_sorted braced placed
  have sorted' : (innerRows d body').Pairwise (· ≤ ·) := innerRows_sorted braced' placed'
  have lengths : (innerRows d body).length = (innerRows d body').length := by
    rw [rows, rows', List.length_map, List.length_map, alike.length_eq]
  by_cases empty : innerRows d body = []
  · have empty' : innerRows d body' = [] := by
      rw [← List.length_eq_zero_iff, ← lengths, empty, List.length_nil]
    rw [empty, empty']
    exact iff_of_true rfl rfl
  · have nonempty : innerRows d body' ≠ [] := by
      intro empty'
      rw [empty', List.length_nil, List.length_eq_zero_iff] at lengths
      exact empty lengths
    rw [countDistinct_of_sorted sorted empty, countDistinct_of_sorted sorted' nonempty,
      Nat.add_right_cancel_iff]

include braced placed braced' placed' apart apart' in
/-- Whole lines that are added and taken away leave the number of lines with code. -/
theorem countDistinct_innerRows_of_lines {added removed : List (Nat × Nat)}
    (same : body.sameCodeInLines d added removed body' = true) :
    countDistinct (innerRows d body') = countDistinct (innerRows d body) := by
  have kinds : ∀ a b : Tag, (a.kind == b.kind && a.label == b.label &&
      rowAfter added a.span.start.row == rowAfter removed b.span.start.row) = true →
        a.kind = b.kind := by
    intro a b alike
    simp only [Bool.and_eq_true, beq_iff_eq] at alike
    exact alike.1.1
  obtain ⟨tokens, tokens', rows, rows', alike⟩ :=
    exists_tokens_of_sameCodeBy kinds braced placed braced' placed' apart apart' same
  have moved : (innerRows d body).map (rowAfter added) =
      (innerRows d body').map (rowAfter removed) := by
    rw [rows, rows', List.map_map, List.map_map]
    clear rows rows'
    induction alike with
    | nil => rfl
    | cons here _ ih =>
        simp only [Bool.and_eq_true, beq_iff_eq] at here
        rw [List.map_cons, List.map_cons, ih]
        exact congrArg (· :: _) here.2
  calc countDistinct (innerRows d body')
      = countDistinct ((innerRows d body').map (rowAfter removed)) :=
        (countDistinct_map (rowAfter_strictMono removed).injective.injOn).symm
    _ = countDistinct ((innerRows d body).map (rowAfter added)) := by rw [moved]
    _ = countDistinct (innerRows d body) :=
        countDistinct_map (rowAfter_strictMono added).injective.injOn

end

/-- The lines of a braced body are the rows on which its tokens start, comments and the two braces
apart. The cursor comes to every token of the body once and to nothing else. Rows that are renamed
apart leave the number of lines, and so do whole lines with comments or blanks that are added or
taken away. Any comments and blanks that are added or taken away change the number of lines exactly
if they change how often a token stands on another row than the token before, as a comment with a
line end between two tokens of one row does. -/
theorem bodyLines_of_braced_body (model : methodModel d src v = some m)
    (is : d.methodBody? v.tree = some body) (braced : body.isBraced = true)
    (placed : body.inPlace src = true) :
    m.bodyLines =
      (rowsWhere d body fun a _ => a ≠ [0] ∧ a ≠ [body.children.length - 1]).ncard ∧
    (∃ visited, (∀ tour, Tours body [] tour ↔ tour = visited) ∧ visited.Nodup ∧
      ∀ a, a ∈ visited ↔ ∃ s, body.spot.at? a = some s ∧ s.tree.children = []) ∧
    ∀ {src' : Source} {v' : Visit} {m' : Method} {body' : Tree},
      methodModel d src' v' = some m' → d.methodBody? v'.tree = some body' →
      body'.isBraced = true → body'.inPlace src' = true →
      (∀ moved : Nat → Nat, Set.InjOn moved {row | row ∈ innerRows d body} →
        innerRows d body' = (innerRows d body).map moved → m'.bodyLines = m.bodyLines) ∧
      (body.everywhere (standsApart d) = true → body'.everywhere (standsApart d) = true →
        (∀ added removed, body.sameCodeInLines d added removed body' = true →
          m'.bodyLines = m.bodyLines) ∧
        (body.sameCode d body' = true →
          (m'.bodyLines = m.bodyLines ↔
            changes (innerRows d body') = changes (innerRows d body)))) := by
  have count := bodyLines_eq model is
  rw [codeRows_eq_innerRows_of_isBraced braced placed] at count
  refine ⟨count.trans (countDistinct_eq_ncard fun row => mem_innerRows), ?_, ?_⟩
  · refine ⟨_, fun tour => tours_root_iff, nodup_of_pairwise_lt (pairwise_addressedLeaves [] body),
      fun a => ?_⟩
    simp only [List.mem_map, Prod.exists, exists_and_right, exists_eq_right, mem_addressedLeaves]
    rfl
  · intro src' v' m' body' model' is' braced' placed'
    have count' := bodyLines_eq model' is'
    rw [codeRows_eq_innerRows_of_isBraced braced' placed'] at count'
    rw [count, count']
    refine ⟨fun moved apart same => ?_, fun apart apart' => ⟨fun added removed same => ?_, ?_⟩⟩
    · rw [same]
      exact countDistinct_map apart
    · exact countDistinct_innerRows_of_lines braced placed braced' placed' apart apart' same
    · exact countDistinct_innerRows_eq_iff braced placed braced' placed' apart apart'

/-- A line with a comment and a blank line between two calls change nothing: both bodies have two
lines. -/
theorem bodyLines_of_braced_body_comment_line :
    let node (row : Nat) (kind : Kind) (label : Option Label) (start stop : Nat)
      (children : List Tree) : Tree :=
        .node ⟨kind, label, ⟨⟨start, row⟩, ⟨stop, row⟩⟩, false, false⟩ children
    let call (row start : Nat) := node row .expressionStatement none start (start + 4)
      [node row .methodInvocation none start (start + 3)
        [node row .identifier (some .name) start (start + 1) [],
          node row .argumentList (some .arguments) (start + 1) (start + 3) []],
        node row (.token ";") none (start + 3) (start + 4) []]
    let block (row stop : Nat) (inner : List Tree) : Tree :=
      .node ⟨.block, some .body, ⟨⟨3, 0⟩, ⟨stop, row⟩⟩, false, false⟩
        (node 0 (.token "\x7b") none 3 4 [] :: (inner ++
          [node row (.token "\x7d") none (stop - 1) stop []]))
    let method (row stop : Nat) (body : Tree) : Visit :=
      ⟨.node ⟨.methodDeclaration, none, ⟨⟨0, 0⟩, ⟨stop, row⟩⟩, false, false⟩
        [node 0 .identifier (some .name) 0 1 [], node 0 .formalParameters none 1 3 [], body],
        [], .method, ⟨0, 0⟩⟩
    let src := Source.ofString "m()\x7bf();\ng();\x7d"
    let src' := Source.ofString "m()\x7bf();\n//c\n\ng();\x7d"
    let body := block 1 14 [call 0 4, call 1 9]
    let body' := block 3 19 [call 0 4, node 1 .lineComment none 9 12 [], call 3 14]
    let model last : Method := ⟨"m", 1, last, 2, [], [⟨"", "f", 1⟩, ⟨"", "g", last⟩], [], []⟩
    (methodModel .java src (method 1 14 body) = some (model 2) ∧
      methodModel .java src' (method 3 19 body') = some (model 4) ∧
      body.isBraced = true ∧ body.inPlace src = true ∧ body'.isBraced = true ∧
      body'.inPlace src' = true ∧ body.everywhere (standsApart .java) = true ∧
      body'.everywhere (standsApart .java) = true ∧
      body.sameCodeInLines .java [(1, 2)] [] body' = true ∧ body.sameCode .java body' = true) ∧
      (rowsWhere .java body fun a _ => a ≠ [0] ∧ a ≠ [body.children.length - 1]).ncard = 2 ∧
      (model 4).bodyLines = (model 2).bodyLines ∧
      changes (innerRows .java body') = changes (innerRows .java body) := by
  intro node call block method src src' body body' model
  have shape : methodModel .java src (method 1 14 body) = some (model 2) ∧
      methodModel .java src' (method 3 19 body') = some (model 4) ∧
      body.isBraced = true ∧ body.inPlace src = true ∧ body'.isBraced = true ∧
      body'.inPlace src' = true ∧ body.everywhere (standsApart .java) = true ∧
      body'.everywhere (standsApart .java) = true ∧
      body.sameCodeInLines .java [(1, 2)] [] body' = true ∧ body.sameCode .java body' = true := by
    decide +kernel
  obtain ⟨first, second, braced, placed, braced', placed', apart, apart', lines, same⟩ := id shape
  obtain ⟨count, -, law⟩ := bodyLines_of_braced_body first rfl braced placed
  obtain ⟨whole, any⟩ := (law second rfl braced' placed').2 apart apart'
  exact ⟨shape, count.symm, whole _ _ lines, (any same).mp rfl⟩

/-- A comment with a line end between two calls of one line makes two lines of it. -/
theorem comment_parts_body_line :
    let models lines last := Extraction.models [⟨"A", 1, [],
      [⟨"m", 1, last, lines, [], [⟨"", "f", 1⟩, ⟨"", "g", last⟩], [], []⟩]⟩]
    extract .java {} "class A\x7bvoid m()\x7bf();g();\x7d\x7d" = models 1 1 ∧
      extract .java {} "class A\x7bvoid m()\x7bf();/*\n*/g();\x7d\x7d" = models 2 2 := by
  decide +kernel

/-- An expression body has as many lines as there are rows on which a token other than an arrow
starts, comments apart. These are all rows with a token besides the arrow of the body itself exactly
if no row holds arrows of lambdas and switch arms alone. -/
theorem bodyLines_of_expression_body (model : methodModel d src v = some m)
    (is : d.methodBody? v.tree = some body) (arrow : body.isArrowBody = true) :
    m.bodyLines = (rowsWhere d body fun _ s => s.tree.kind ≠ .token "=>").ncard ∧
    (m.bodyLines = (rowsWhere d body fun a _ => a ≠ [0]).ncard ↔
      ∀ a s, CodeAt d body a s → a ≠ [0] → s.tree.kind = .token "=>" →
        ∃ b u, CodeAt d body b u ∧ u.tree.kind ≠ .token "=>" ∧
          u.tree.start.row = s.tree.start.row) := by
  simp only [Tree.isArrowBody, Bool.and_eq_true, beq_iff_eq, Option.any_eq_true] at arrow
  obtain ⟨clause, own, first, token⟩ := arrow
  obtain ⟨kind, -, -⟩ := Tree.exists_of_isToken token
  have count : m.bodyLines = (rowsWhere d body fun _ s => s.tree.kind ≠ .token "=>").ncard :=
    (bodyLines_eq model is).trans (countDistinct_eq_ncard fun row => mem_codeRows_of_arrow clause)
  have part : (rowsWhere d body fun _ s => s.tree.kind ≠ .token "=>") ⊆
      rowsWhere d body fun a _ => a ≠ [0] := by
    rintro row ⟨a, s, token, other, is⟩
    refine ⟨a, s, token, ?_, is⟩
    rintro rfl
    -- The first child is the arrow of the body.
    have child : body.spot.at? [0] = some ⟨own, [body]⟩ := by
      rw [List.head?_eq_getElem?] at first
      exact Option.bind_eq_some_iff.mpr
        ⟨_, Option.map_eq_some_iff.mpr ⟨own, first, rfl⟩, rfl⟩
    obtain rfl := Option.some.inj (token.node.symm.trans child)
    exact other kind
  refine ⟨count, ?_⟩
  rw [count]
  constructor
  · intro equal a s token inner _
    have whole := Set.eq_of_subset_of_ncard_le part (Nat.le_of_eq equal.symm) (rowsWhere_finite _)
    have counted : s.tree.start.row ∈ rowsWhere d body fun _ s => s.tree.kind ≠ .token "=>" := by
      rw [whole]
      exact ⟨a, s, token, inner, rfl⟩
    exact counted
  · intro accompanied
    refine congrArg Set.ncard (part.antisymm ?_)
    rintro row ⟨a, s, token, inner, rfl⟩
    by_cases arrow : s.tree.kind = .token "=>"
    · exact accompanied a s token inner arrow
    · exact ⟨a, s, token, arrow, rfl⟩

/-- A lambda whose arrow shares its row with the parameter. -/
theorem bodyLines_of_expression_body_lambda :
    let node (row : Nat) (kind : Kind) (label : Option Label) (start stop : Nat)
      (children : List Tree) : Tree :=
        .node ⟨kind, label, ⟨⟨start, row⟩, ⟨stop, row⟩⟩, false, false⟩ children
    let src := Source.ofString "M()=>x=>\nx;"
    let lambda : Tree := .node ⟨.lambdaExpression, none, ⟨⟨5, 0⟩, ⟨10, 1⟩⟩, false, false⟩
      [node 0 .identifier none 5 6 [], node 0 (.token "=>") none 6 8 [],
        node 1 .identifier none 9 10 []]
    let body : Tree := .node ⟨.arrowClause, some .body, ⟨⟨3, 0⟩, ⟨10, 1⟩⟩, false, false⟩
      [node 0 (.token "=>") none 3 5 [], lambda]
    let method : Visit := ⟨.node ⟨.methodDeclaration, none, ⟨⟨0, 0⟩, ⟨11, 1⟩⟩, false, false⟩
      [node 0 .identifier (some .name) 0 1 [], node 0 .parameterList none 1 3 [], body,
        node 1 (.token ";") none 10 11 []], [], .method, ⟨0, 0⟩⟩
    (methodModel .csharp src method = some ⟨"M", 1, 2, 2, [], [], [], []⟩ ∧
      body.isArrowBody = true) ∧
      (rowsWhere .csharp body fun _ s => s.tree.kind ≠ .token "=>").ncard = 2 := by
  intro node src lambda body method
  have shape : methodModel .csharp src method = some ⟨"M", 1, 2, 2, [], [], [], []⟩ ∧
      body.isArrowBody = true := by
    decide +kernel
  exact ⟨shape, (bodyLines_of_expression_body shape.1 rfl shape.2).1.symm⟩

/-- The arrow of a lambda stands alone on the second of three rows, which is not counted. -/
theorem lone_arrow_not_counted :
    let src := Source.ofString "class A\x7bobject M()=>F(x\n=>\nx);\x7d"
    let root := Dialect.csharp.parse src
    let body :=
      ((root.spot.at? [0, 2, 1]).bind fun s => Dialect.csharp.methodBody? s.tree).getD root
    classesOf .csharp src 256 root =
        .models [⟨"A", 1, [], [⟨"M", 1, 3, 2, [], [⟨"", "F", 1⟩], [], []⟩]⟩] ∧
      body.isArrowBody = true ∧
      (((addressedLeaves [] body).filter fun x =>
        x.1 != [0] && !Dialect.csharp.isComment x.2.tree.kind).map (·.2.tree.start.row)).eraseDups =
          [0, 1, 2] := by
  decide +kernel

end LayerLint
