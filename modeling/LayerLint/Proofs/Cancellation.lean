import LayerLint.Cancellation
import Mathlib.Data.List.Infix
import Mathlib.Logic.Relation

/-! Cancellation keeps to families. Handles that are clones of one another, by any chain of clones,
form a family, and each family has one flag of its own. So a handle is cancelled exactly if some
handle of its family has been cancelled, before or after the handle was made. -/

namespace LayerLint

def HandleStep.makesHandle : HandleStep → Bool
  | .new | .clone _ => true
  | .cancel _ => false

/-- The number of handles after some steps: the one from the start and those made since. -/
def handleCount (steps : List HandleStep) : Nat :=
  1 + steps.countP HandleStep.makesHandle

/-- One of the steps makes the handle `made` as a clone of `source`. -/
def IsCloneOf (steps : List HandleStep) (made source : Nat) : Prop :=
  ∃ past i, past ++ [.clone i] <+: steps ∧ handleCount past = made ∧ i % handleCount past = source

/-- The family of a handle: the equivalence that cloning generates. -/
def SameFamily (steps : List HandleStep) : Nat → Nat → Prop :=
  Relation.EqvGen (IsCloneOf steps)

/-- One of the steps cancels by the handle. -/
def Cancels (steps : List HandleStep) (handle : Nat) : Prop :=
  ∃ past i, past ++ [.cancel i] <+: steps ∧ i % handleCount past = handle

variable {past steps : List HandleStep} {s : HandleStep} {j k : Nat}

/-! ### Histories -/

theorem handleCount_pos (steps : List HandleStep) : 0 < handleCount steps := by
  unfold handleCount
  omega

theorem handleCount_concat (steps : List HandleStep) (s : HandleStep) :
    handleCount (steps ++ [s]) = handleCount steps + s.makesHandle.toNat := by
  unfold handleCount
  rw [List.countP_append, List.countP_singleton, Nat.add_assoc]
  cases s.makesHandle <;> rfl

theorem handleCount_mono (before : past <+: steps) : handleCount past ≤ handleCount steps :=
  Nat.add_le_add_left before.sublist.countP_le 1

theorem taken_concat_iff {x : HandleStep} :
    past ++ [x] <+: steps ++ [s] ↔ past ++ [x] <+: steps ∨ past = steps ∧ x = s := by
  rw [List.prefix_concat_iff, or_comm, List.append_singleton_inj]

theorem isCloneOf_concat_iff : IsCloneOf (steps ++ [s]) k j ↔
    IsCloneOf steps k j ∨
      ∃ i, s = .clone i ∧ k = handleCount steps ∧ j = i % handleCount steps := by
  constructor
  · rintro ⟨past, i, taken, made, source⟩
    rcases taken_concat_iff.mp taken with taken | ⟨rfl, last⟩
    · exact .inl ⟨past, i, taken, made, source⟩
    · exact .inr ⟨i, last.symm, made.symm, source.symm⟩
  · rintro (⟨past, i, taken, made, source⟩ | ⟨i, rfl, rfl, rfl⟩)
    · exact ⟨past, i, taken.trans (List.prefix_append steps [s]), made, source⟩
    · exact ⟨steps, i, List.prefix_rfl, rfl, rfl⟩

theorem cancels_concat_iff : Cancels (steps ++ [s]) j ↔
    Cancels steps j ∨ ∃ i, s = .cancel i ∧ j = i % handleCount steps := by
  constructor
  · rintro ⟨past, i, taken, handle⟩
    rcases taken_concat_iff.mp taken with taken | ⟨rfl, last⟩
    · exact .inl ⟨past, i, taken, handle⟩
    · exact .inr ⟨i, last.symm, handle.symm⟩
  · rintro (⟨past, i, taken, handle⟩ | ⟨i, rfl, rfl⟩)
    · exact ⟨past, i, taken.trans (List.prefix_append steps [s]), handle⟩
    · exact ⟨steps, i, List.prefix_rfl, rfl⟩

theorem IsCloneOf.lt (clone : IsCloneOf steps k j) : j < k ∧ k < handleCount steps := by
  obtain ⟨past, i, taken, rfl, rfl⟩ := clone
  refine ⟨Nat.mod_lt i (handleCount_pos past), ?_⟩
  calc handleCount past < handleCount (past ++ [.clone i]) := by
        rw [handleCount_concat]
        exact Nat.lt_succ_self _
    _ ≤ handleCount steps := handleCount_mono taken

theorem Cancels.lt (cancels : Cancels steps j) : j < handleCount steps := by
  obtain ⟨past, i, taken, rfl⟩ := cancels
  calc i % handleCount past < handleCount past := Nat.mod_lt i (handleCount_pos past)
    _ ≤ handleCount steps := handleCount_mono ((List.prefix_append past _).trans taken)

theorem Cancels.mono (before : past <+: steps) (cancels : Cancels past j) : Cancels steps j := by
  obtain ⟨older, i, taken, handle⟩ := cancels
  exact ⟨older, i, taken.trans before, handle⟩

theorem SameFamily.mono (before : past <+: steps) (family : SameFamily past j k) :
    SameFamily steps j k := by
  refine Relation.EqvGen.mono ?_ j k family
  rintro made source ⟨older, i, taken, clone⟩
  exact ⟨older, i, taken.trans before, clone⟩

theorem SameFamily.eq_of_clones {α : Type} {value : Nat → α} (family : SameFamily steps j k)
    (kept : ∀ made source, IsCloneOf steps made source → value made = value source) :
    value j = value k := by
  have equal : Equivalence fun m n => value m = value n := ⟨fun _ => rfl, .symm, .trans⟩
  apply equal.eqvGen_iff.mp
  exact Relation.EqvGen.mono kept j k family

/-! ### Flags -/

namespace Handles

/-- The handles have the history `steps`: the flags tell the families apart, and the flags that are
raised are those of the handles that were cancelled. -/
structure Follows (steps : List HandleStep) (hs : Handles) : Prop where
  count : hs.flagOf.length = handleCount steps
  inRange : ∀ f ∈ hs.flagOf, f < hs.raised.length
  family : ∀ {j k}, j < handleCount steps → k < handleCount steps →
    (hs.flagOf[j]? = hs.flagOf[k]? ↔ SameFamily steps j k)
  raised : ∀ f, hs.raised[f]? = some true ↔ ∃ j, Cancels steps j ∧ hs.flagOf[j]? = some f

variable {hs : Handles}

theorem Follows.flag (follows : Follows steps hs) (i : Nat) :
    hs.flagOf[i % handleCount steps]? = some (hs.flag i) := by
  have inside : i % handleCount steps < hs.flagOf.length := by
    rw [follows.count]
    exact Nat.mod_lt i (handleCount_pos steps)
  rw [Handles.flag, follows.count, List.getD_eq_getElem?_getD, List.getElem?_eq_getElem inside]
  rfl

theorem follows_fresh : Follows [] fresh where
  count := rfl
  inRange := by simp [fresh]
  family := by
    intro j k first second
    have zero : j = 0 ∧ k = 0 := by
      change j < 1 at first
      change k < 1 at second
      omega
    obtain ⟨rfl, rfl⟩ := zero
    exact iff_of_true rfl (.refl 0)
  raised := by
    intro f
    have unraised : fresh.raised[f]? ≠ some true := by cases f <;> simp [fresh]
    refine iff_of_false unraised ?_
    rintro ⟨j, ⟨past, i, taken, -⟩, -⟩
    simp at taken

theorem flagOf_step (hs : Handles) (s : HandleStep) : hs.flagOf <+: (hs.step s).flagOf := by
  cases s with
  | new => exact List.prefix_append _ _
  | clone i => exact List.prefix_append _ _
  | cancel i => exact List.prefix_rfl

theorem Follows.getElem?_step (follows : Follows steps hs) (s : HandleStep)
    (old : k < handleCount steps) : (hs.step s).flagOf[k]? = hs.flagOf[k]? := by
  rw [← follows.count] at old
  rw [List.getElem?_eq_getElem old]
  exact List.prefix_iff_getElem?.mp (flagOf_step hs s) k old

theorem Follows.flag_clone (follows : Follows steps hs) (i : Nat) :
    (hs.step (.clone i)).flagOf[handleCount steps]? = hs.flagOf[i % handleCount steps]? := by
  rw [follows.flag, ← follows.count]
  exact List.getElem?_concat_length

theorem Follows.flag_new (follows : Follows steps hs) :
    (hs.step .new).flagOf[handleCount steps]? = some hs.raised.length := by
  rw [← follows.count]
  exact List.getElem?_concat_length

theorem Follows.count_step (follows : Follows steps hs) (s : HandleStep) :
    (hs.step s).flagOf.length = handleCount (steps ++ [s]) := by
  rw [handleCount_concat, ← follows.count]
  cases s with
  | new => exact List.length_append
  | clone i => exact List.length_append
  | cancel i => rfl

theorem Follows.inRange_step (follows : Follows steps hs) (s : HandleStep) :
    ∀ f ∈ (hs.step s).flagOf, f < (hs.step s).raised.length := by
  intro f member
  cases s with
  | new =>
      rw [step, List.length_append]
      rcases List.mem_append.mp member with old | made
      · exact Nat.lt_succ_of_lt (follows.inRange f old)
      · obtain rfl := List.mem_singleton.mp made
        exact Nat.lt_succ_self _
  | clone i =>
      rcases List.mem_append.mp member with old | made
      · exact follows.inRange f old
      · obtain rfl := List.mem_singleton.mp made
        exact follows.inRange _ (List.mem_of_getElem? (follows.flag i))
  | cancel i =>
      rw [step, List.length_set]
      exact follows.inRange f member

/-- Cloning hands on the flag. -/
theorem Follows.flag_of_isCloneOf (follows : Follows steps hs) {made source : Nat}
    (clone : IsCloneOf (steps ++ [s]) made source) :
    (hs.step s).flagOf[made]? = (hs.step s).flagOf[source]? := by
  rcases isCloneOf_concat_iff.mp clone with clone | ⟨i, rfl, rfl, rfl⟩
  · obtain ⟨less, old⟩ := clone.lt
    rw [follows.getElem?_step s old, follows.getElem?_step s (less.trans old),
      follows.family old (less.trans old)]
    exact .rel made source clone
  · rw [follows.flag_clone, follows.getElem?_step _ (Nat.mod_lt i (handleCount_pos steps))]

/-- A handle that has just been made shares its flag with its family only. -/
theorem Follows.sameFamily_of_made (follows : Follows steps hs) (makes : s.makesHandle = true)
    (old : k < handleCount steps)
    (flag : (hs.step s).flagOf[handleCount steps]? = (hs.step s).flagOf[k]?) :
    SameFamily (steps ++ [s]) (handleCount steps) k := by
  rw [follows.getElem?_step s old] at flag
  cases s with
  | new =>
      -- The flag of a fresh handle is the flag of no other one.
      rw [follows.flag_new] at flag
      have inside := follows.inRange _ (List.mem_of_getElem? flag.symm)
      exact absurd inside (Nat.lt_irrefl _)
  | clone i =>
      rw [follows.flag_clone, follows.family (Nat.mod_lt i (handleCount_pos steps)) old] at flag
      refine .trans _ (i % handleCount steps) _ (.rel _ _ ?_) (flag.mono (List.prefix_append _ _))
      exact isCloneOf_concat_iff.mpr (.inr ⟨i, rfl, rfl, rfl⟩)
  | cancel i => cases makes

theorem Follows.family_step (follows : Follows steps hs) (s : HandleStep)
    (first : j < handleCount (steps ++ [s])) (second : k < handleCount (steps ++ [s])) :
    (hs.step s).flagOf[j]? = (hs.step s).flagOf[k]? ↔ SameFamily (steps ++ [s]) j k := by
  constructor
  · intro flag
    rw [handleCount_concat] at first second
    have old_or_made : ∀ {n}, n < handleCount steps + s.makesHandle.toNat →
        n < handleCount steps ∨ n = handleCount steps ∧ s.makesHandle = true := by
      intro n inside
      cases makes : s.makesHandle <;> simp [makes] at inside ⊢ <;> omega
    rcases old_or_made first with old | ⟨rfl, makes⟩
    · rcases old_or_made second with old' | ⟨rfl, makes⟩
      · rw [follows.getElem?_step s old, follows.getElem?_step s old',
          follows.family old old'] at flag
        exact flag.mono (List.prefix_append _ _)
      · exact .symm _ _ (follows.sameFamily_of_made makes old flag.symm)
    · rcases old_or_made second with old | ⟨rfl, -⟩
      · exact follows.sameFamily_of_made makes old flag
      · exact .refl _
  · intro family
    exact family.eq_of_clones fun made source => follows.flag_of_isCloneOf

theorem Follows.raised_step_iff (follows : Follows steps hs) (s : HandleStep) (f : Nat) :
    (hs.step s).raised[f]? = some true ↔
      hs.raised[f]? = some true ∨ ∃ i, s = .cancel i ∧ f = hs.flag i := by
  cases s with
  | new =>
      rw [step, List.getElem?_append]
      split
      · simp
      · next outside => cases n : f - hs.raised.length <;> simp [outside]
  | clone i => simp [step]
  | cancel i =>
      have inside : hs.flag i < hs.raised.length :=
        follows.inRange _ (List.mem_of_getElem? (follows.flag i))
      by_cases same : hs.flag i = f
      · subst same
        simp [step, inside]
      · simp [step, List.getElem?_set_ne same, Ne.symm same]

theorem Follows.step (follows : Follows steps hs) (s : HandleStep) :
    Follows (steps ++ [s]) (hs.step s) where
  count := follows.count_step s
  inRange := follows.inRange_step s
  family := follows.family_step s
  raised := by
    intro f
    rw [follows.raised_step_iff, follows.raised]
    constructor
    · rintro (⟨j, cancels, flag⟩ | ⟨i, rfl, rfl⟩)
      · refine ⟨j, cancels.mono (List.prefix_append _ _), ?_⟩
        rw [follows.getElem?_step s cancels.lt, flag]
      · refine ⟨i % handleCount steps, cancels_concat_iff.mpr (.inr ⟨i, rfl, rfl⟩), ?_⟩
        exact follows.flag i
    · rintro ⟨j, cancels, flag⟩
      rcases cancels_concat_iff.mp cancels with cancels | ⟨i, rfl, rfl⟩
      · rw [follows.getElem?_step s cancels.lt] at flag
        exact .inl ⟨j, cancels, flag⟩
      · exact .inr ⟨i, rfl, Option.some.inj (flag.symm.trans (follows.flag i))⟩

/-! ### Runs -/

def after (steps : List HandleStep) : Handles :=
  steps.foldl step fresh

theorem follows_after (steps : List HandleStep) : Follows steps (after steps) := by
  induction steps using List.reverseRecOn with
  | nil => exact follows_fresh
  | append_singleton steps s ih =>
      rw [after, List.foldl_append]
      exact ih.step s

theorem flagOf_foldl (hs : Handles) (steps : List HandleStep) :
    hs.flagOf <+: (steps.foldl step hs).flagOf := by
  induction steps generalizing hs with
  | nil => exact List.prefix_rfl
  | cons s steps ih => exact (flagOf_step hs s).trans (ih (hs.step s))

/-- Later steps leave the families of the handles as they are. -/
theorem sameFamily_iff_of_prefix (before : past <+: steps) (first : j < handleCount past)
    (second : k < handleCount past) : SameFamily past j k ↔ SameFamily steps j k := by
  refine ⟨SameFamily.mono before, ?_⟩
  intro family
  have more := handleCount_mono before
  obtain ⟨later, rfl⟩ := before
  have kept : ∀ {n}, n < handleCount past →
      (after (past ++ later)).flagOf[n]? = (after past).flagOf[n]? := by
    intro n inside
    rw [← (follows_after past).count] at inside
    rw [after, List.foldl_append, List.getElem?_eq_getElem inside]
    exact List.prefix_iff_getElem?.mp (flagOf_foldl (after past) later) n inside
  rw [← (follows_after _).family (first.trans_le more) (second.trans_le more), kept first,
    kept second] at family
  exact ((follows_after past).family first second).mp family

theorem states_eq_true_iff (steps : List HandleStep) (k : Nat) :
    (after steps).states[k]? = some true ↔
      k < handleCount steps ∧ ∃ j, Cancels steps j ∧ SameFamily steps k j := by
  have follows := follows_after steps
  have cancelled : (after steps).states[k]? = some true ↔
      ∃ f, (after steps).flagOf[k]? = some f ∧ (after steps).raised[f]? = some true := by
    rw [states, List.getElem?_map, Option.map_eq_some_iff]
    simp only [List.getD_eq_getElem?_getD, Option.getD_eq_iff]
    simp
  rw [cancelled]
  constructor
  · rintro ⟨f, flag, raised⟩
    have inside : k < handleCount steps := by
      rw [← follows.count]
      exact (List.getElem?_eq_some_iff.mp flag).1
    obtain ⟨j, cancels, flag'⟩ := (follows.raised f).mp raised
    exact ⟨inside, j, cancels, (follows.family inside cancels.lt).mp (flag.trans flag'.symm)⟩
  · rintro ⟨inside, j, cancels, family⟩
    have flag := (follows.family inside cancels.lt).mpr family
    have there : j < (after steps).flagOf.length := by
      rw [follows.count]
      exact cancels.lt
    rw [List.getElem?_eq_getElem there] at flag
    exact ⟨_, flag, (follows.raised _).mpr ⟨j, cancels, List.getElem?_eq_getElem there⟩⟩

theorem getElem?_trail (hs : Handles) (steps : List HandleStep) (t : Nat) :
    (hs.trail steps)[t]? =
      if t < steps.length then some ((steps.take (t + 1)).foldl step hs) else none := by
  induction steps generalizing hs t with
  | nil => rfl
  | cons s steps ih =>
      cases t with
      | zero => rfl
      | succ t =>
          rw [trail, List.getElem?_cons_succ, ih, List.length_cons, List.take_succ_cons]
          simp

theorem length_trail (hs : Handles) (steps : List HandleStep) :
    (hs.trail steps).length = steps.length := by
  induction steps generalizing hs with
  | nil => rfl
  | cons s steps ih => rw [trail, List.length_cons, List.length_cons, ih]

theorem eq_after_of_trail {t : Nat} (there : (fresh.trail steps)[t]? = some hs) :
    hs = after (steps.take (t + 1)) := by
  rw [getElem?_trail] at there
  split at there
  · exact (Option.some.inj there).symm
  · cases there

/-- After every step a handle is cancelled exactly if a step so far has cancelled by a handle of its
family. The families of handles that are there do not change any more, and what is cancelled stays
so. -/
theorem cancelled_iff_family (steps : List HandleStep) :
    (fresh.trail steps).length = steps.length ∧
      ∀ t hs, (fresh.trail steps)[t]? = some hs →
        hs.states.length = handleCount (steps.take (t + 1)) ∧
        (∀ k < hs.states.length, hs.states[k]? = some true ↔
          ∃ j, Cancels (steps.take (t + 1)) j ∧ SameFamily (steps.take (t + 1)) k j) ∧
        (∀ j < hs.states.length, ∀ k < hs.states.length,
          (SameFamily (steps.take (t + 1)) j k ↔ SameFamily steps j k)) ∧
        ∀ t' hs', t ≤ t' → (fresh.trail steps)[t']? = some hs' →
          ∀ k : Nat, hs.states[k]? = some true → hs'.states[k]? = some true := by
  refine ⟨length_trail fresh steps, ?_⟩
  intro t hs there
  obtain rfl := eq_after_of_trail there
  have count : (after (steps.take (t + 1))).states.length = handleCount (steps.take (t + 1)) := by
    rw [states, List.length_map]
    exact (follows_after _).count
  rw [count]
  refine ⟨rfl, ?_, ?_, ?_⟩
  · intro k inside
    rw [states_eq_true_iff]
    exact and_iff_right inside
  · intro j first k second
    exact sameFamily_iff_of_prefix (List.take_prefix _ _) first second
  · intro t' hs' later there' k
    obtain rfl := eq_after_of_trail there'
    have before : steps.take (t + 1) <+: steps.take (t' + 1) :=
      List.take_prefix_take_left (by omega)
    rw [states_eq_true_iff, states_eq_true_iff]
    rintro ⟨inside, j, cancels, family⟩
    exact ⟨inside.trans_le (handleCount_mono before), j, cancels.mono before, family.mono before⟩

/-- Of two families, one is cancelled by a clone of its first handle. A handle cloned after that is
cancelled, and one cloned in the other family is not. -/
theorem cancelled_iff_family_two_families :
    let steps : List HandleStep := [.clone 0, .new, .cancel 1, .clone 0, .clone 2]
    (fresh.trail steps)[4]? = some ⟨[0, 0, 1, 0, 1], [true, false]⟩ ∧
      (∃ j, Cancels steps j ∧ SameFamily steps 3 j) ∧
      ¬ ∃ j, Cancels steps j ∧ SameFamily steps 4 j := by
  intro steps
  have there : (fresh.trail steps)[4]? = some ⟨[0, 0, 1, 0, 1], [true, false]⟩ := rfl
  have cancelled := ((cancelled_iff_family steps).2 4 _ there).2.1
  refine ⟨there, (cancelled 3 (by decide)).mp rfl, ?_⟩
  intro family
  exact absurd ((cancelled 4 (by decide)).mpr family) (by decide)

end Handles

end LayerLint
