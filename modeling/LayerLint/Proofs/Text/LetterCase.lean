import LayerLint.Text.Letter
import LayerLint.Text.LetterCase
import Mathlib.Data.List.Chain
import Mathlib.Data.List.TakeWhile

/-! How the classes of letters lie to each other: a small letter is alphabetic, and it is no
capital. The tables are sorted by where their runs begin, so that two of them are compared in one
sweep; the code points of a run are looked at one by one only where runs overlap. -/

namespace LayerLint.Text

/-! ### Runs -/

namespace Run

def members (r : Run) : List Nat :=
  List.range' r.first ((r.last - r.first) / r.step + 1) r.step

def within (r s : Run) : Bool :=
  s.step == 1 && s.first ≤ r.first && r.last ≤ s.last

def apartFrom (r s : Run) : Bool :=
  r.members.all fun n => !s.contains n

def InOrder (rs : List Run) : Prop :=
  rs.Pairwise fun r s => r.first ≤ s.first

theorem contains_iff {r : Run} {n : Nat} :
    r.contains n = true ↔ r.first ≤ n ∧ n ≤ r.last ∧ (n - r.first) % r.step = 0 := by
  simp only [contains, Bool.and_eq_true, decide_eq_true_eq, beq_iff_eq, and_assoc]

theorem mem_members {r : Run} {n : Nat} (inside : r.contains n = true) : n ∈ r.members := by
  obtain ⟨low, high, step⟩ := contains_iff.mp inside
  rw [members, List.mem_range']
  refine ⟨(n - r.first) / r.step, ?_, ?_⟩
  · exact Nat.lt_succ_of_le (Nat.div_le_div_right (Nat.sub_le_sub_right high r.first))
  · rw [Nat.mul_div_cancel' (Nat.dvd_of_mod_eq_zero step)]
    omega

theorem contains_of_within {r s : Run} {n : Nat} (within : r.within s = true)
    (inside : r.contains n = true) : s.contains n = true := by
  simp only [Run.within, Bool.and_eq_true, beq_iff_eq, decide_eq_true_eq] at within
  obtain ⟨⟨step, low⟩, high⟩ := within
  obtain ⟨low', high', -⟩ := contains_iff.mp inside
  exact contains_iff.mpr ⟨low.trans low', high'.trans high, by rw [step, Nat.mod_one]⟩

theorem not_contains_of_apartFrom {r s : Run} {n : Nat} (apart : r.apartFrom s = true)
    (inside : r.contains n = true) : ¬ s.contains n = true := by
  simpa using List.all_eq_true.mp apart n (mem_members inside)

theorem lt_first_of_mem_dropWhile {table : List Run} (ordered : InOrder table) {bound : Nat}
    {s : Run} (member : s ∈ table.dropWhile (·.first ≤ bound)) : bound < s.first := by
  induction table with
  | nil => cases member
  | cons t table ih =>
      obtain ⟨least, ordered⟩ := List.pairwise_cons.mp ordered
      rw [List.dropWhile_cons] at member
      split at member
      · exact ih ordered member
      · next later =>
          rw [decide_eq_true_eq, Nat.not_le] at later
          rcases List.mem_cons.mp member with rfl | below
          · exact later
          · exact Nat.lt_of_lt_of_le later (least s below)

end Run

/-! ### One sweep over two tables -/

/-- Of some runs, those that are not inside a run of a table. -/
def leftOver : List Run → List Run → List Run
  | [], _ => []
  | r :: rs, table =>
    match table.dropWhile (·.last < r.first) with
    | [] => r :: leftOver rs []
    | s :: near => if r.within s then leftOver rs (s :: near) else r :: leftOver rs (s :: near)

theorem within_or_mem_leftOver {rs table : List Run} {r : Run} (member : r ∈ rs) :
    (∃ s ∈ table, r.within s = true) ∨ r ∈ leftOver rs table := by
  induction rs generalizing table with
  | nil => cases member
  | cons t rs ih =>
      have kept : ∀ {s}, s ∈ table.dropWhile (·.last < t.first) → s ∈ table :=
        fun later => (List.dropWhile_sublist _).subset later
      rw [leftOver]
      cases near : table.dropWhile (·.last < t.first) with
      | nil =>
          rcases List.mem_cons.mp member with rfl | below
          · exact .inr List.mem_cons_self
          · have rest : (∃ s ∈ ([] : List Run), r.within s = true) ∨ r ∈ leftOver rs [] := ih below
            simp only [List.not_mem_nil, false_and, exists_false, false_or] at rest
            exact .inr (List.mem_cons_of_mem t rest)
      | cons s near' =>
          rw [near] at kept
          have rest : r ∈ rs →
              (∃ s ∈ table, r.within s = true) ∨ r ∈ leftOver rs (s :: near') := by
            intro below
            refine (ih below).imp_left ?_
            rintro ⟨s', member', inside⟩
            exact ⟨s', kept member', inside⟩
          dsimp only
          split
          · next inside =>
              rcases List.mem_cons.mp member with rfl | below
              · exact .inl ⟨s, kept List.mem_cons_self, inside⟩
              · exact rest below
          · rcases List.mem_cons.mp member with rfl | below
            · exact .inr List.mem_cons_self
            · exact (rest below).imp_right (List.mem_cons_of_mem t)

/-- Whether runs have no code point in common with the runs of a table; both have to be in order. -/
def meetNone : List Run → List Run → Bool
  | [], _ => true
  | r :: rs, table =>
    match table.dropWhile (·.last < r.first) with
    | [] => true
    | s :: near =>
      ((s :: near).takeWhile (·.first ≤ r.last)).all r.apartFrom && meetNone rs (s :: near)

theorem not_contains_of_meetNone {rs table : List Run} (apart : meetNone rs table = true)
    (sorted : Run.InOrder rs) (ordered : Run.InOrder table) {r s : Run} (left : r ∈ rs)
    (right : s ∈ table) {n : Nat} (inside : r.contains n = true) : ¬ s.contains n = true := by
  intro common
  obtain ⟨low, high, -⟩ := Run.contains_iff.mp inside
  obtain ⟨low', high', -⟩ := Run.contains_iff.mp common
  induction rs generalizing table with
  | nil => cases left
  | cons t rs ih =>
      obtain ⟨least, sorted⟩ := List.pairwise_cons.mp sorted
      have first : t.first ≤ r.first := by
        rcases List.mem_cons.mp left with rfl | below
        · exact Nat.le_refl _
        · exact least r below
      -- The runs passed over end before `t` begins, and so before every later run does.
      have near : s ∈ table.dropWhile (·.last < t.first) := by
        rw [← List.takeWhile_append_dropWhile (p := (·.last < t.first)) (l := table)] at right
        rcases List.mem_append.mp right with passed | near
        · have ends := List.mem_takeWhile_imp passed
          rw [decide_eq_true_eq] at ends
          omega
        · exact near
      have ordered' := ordered.sublist (List.dropWhile_sublist (·.last < t.first))
      rw [meetNone] at apart
      cases split : table.dropWhile (·.last < t.first) with
      | nil => rw [split] at near; cases near
      | cons s' near' =>
          rw [split] at near ordered' apart
          simp only [Bool.and_eq_true] at apart
          rcases List.mem_cons.mp left with rfl | below
          · rw [← List.takeWhile_append_dropWhile (p := (·.first ≤ r.last)) (l := s' :: near')]
              at near
            rcases List.mem_append.mp near with overlapping | beyond
            · exact Run.not_contains_of_apartFrom
                (List.all_eq_true.mp apart.1 s overlapping) inside common
            · have begins := Run.lt_first_of_mem_dropWhile ordered' beyond
              omega
          · exact ih apart.2 sorted ordered' below near

/-! ### Small letters -/

theorem CharClass.contains_iff {k : CharClass} {c : Char} :
    k.contains c = true ↔ ∃ r ∈ k.toList, r.contains c.toNat = true := by
  rw [contains, ← Array.any_toList, List.any_eq_true]

theorem lowercaseChars_leftOver :
    (leftOver (leftOver lowercaseChars.toList letters.toList) alphabeticSigns.toList).all
      (fun r => r.members.all fun n => letters.toList.any (·.contains n)) = true := by
  decide +kernel

theorem lowercaseChars_meetNone :
    meetNone lowercaseChars.toList uppercaseChars.toList = true := by
  decide +kernel

theorem inOrder_lowercaseChars : Run.InOrder lowercaseChars.toList := by
  apply List.isChain_iff_pairwise.mp
  decide +kernel

theorem inOrder_uppercaseChars : Run.InOrder uppercaseChars.toList := by
  apply List.isChain_iff_pairwise.mp
  decide +kernel

theorem letter_or_sign_of_lowercase {c : Char} (small : lowercaseChars.contains c = true) :
    letters.contains c = true ∨ alphabeticSigns.contains c = true := by
  simp only [CharClass.contains_iff] at small ⊢
  obtain ⟨r, member, inside⟩ := small
  rcases within_or_mem_leftOver member with ⟨s, letter, within⟩ | left
  · exact .inl ⟨s, letter, Run.contains_of_within within inside⟩
  · rcases within_or_mem_leftOver left with ⟨s, sign, within⟩ | left
    · exact .inr ⟨s, sign, Run.contains_of_within within inside⟩
    · -- What is left over lies across several runs.
      have each := List.all_eq_true.mp lowercaseChars_leftOver r left
      have here := List.all_eq_true.mp each _ (Run.mem_members inside)
      exact .inl (List.any_eq_true.mp here)

/-- A small letter is alphabetic. -/
theorem isAlphabetic_of_isLowercase {c : Char} (small : isLowercase c = true) :
    isAlphabetic c = true := by
  rw [isLowercase] at small
  rw [isAlphabetic]
  split at small
  · next ascii => rw [if_pos ascii, isAsciiLetter, small, Bool.true_or]
  · next other => rw [if_neg other, Bool.or_eq_true]; exact letter_or_sign_of_lowercase small

/-- A small letter is no capital. -/
theorem isUppercase_of_isLowercase {c : Char} (small : isLowercase c = true) :
    isUppercase c = false := by
  rw [← Bool.not_eq_true]
  intro capital
  rw [isLowercase] at small
  rw [isUppercase] at capital
  split at small
  · next ascii =>
      rw [if_pos ascii] at capital
      simp only [Bool.and_eq_true, decide_eq_true_eq] at small capital
      exact absurd (Char.le_trans small.1 capital.2) (by decide)
  · next other =>
      rw [if_neg other] at capital
      obtain ⟨r, left, inside⟩ := CharClass.contains_iff.mp small
      obtain ⟨s, right, common⟩ := CharClass.contains_iff.mp capital
      exact not_contains_of_meetNone lowercaseChars_meetNone inOrder_lowercaseChars
        inOrder_uppercaseChars left right inside common

end LayerLint.Text
