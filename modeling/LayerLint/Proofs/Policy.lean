import LayerLint.Policy

/-! Which settings make a policy. Settings are valid exactly if all patterns in them can be read, no
limit is 0 and there are extensions. The policy then holds what the settings state, with a matcher
for each pattern. -/

theorem Except.bind_eq_ok_iff {ε α β : Type} {x : Except ε α} {f : α → Except ε β} {b : β} :
    x >>= f = .ok b ↔ ∃ a, x = .ok a ∧ f a = .ok b := by
  cases x with
  | error e =>
      constructor
      · intro ok
        cases ok
      · rintro ⟨a, ok, -⟩
        cases ok
  | ok a =>
      constructor
      · exact fun ok => ⟨a, rfl, ok⟩
      · rintro ⟨_, ⟨⟩, ok⟩
        exact ok

namespace LayerLint

namespace Settings

/-! ### Patterns -/

section

variable {ε : Type} {read : String → Except ε (String → Bool)} {fault : String → ε → SettingsFault}

/-- Patterns are read if each of them can be, and the matchers are theirs, in their order. -/
theorem readMatchers_eq_ok_iff {patterns : List String} {matchers : List Matcher} :
    readMatchers read fault patterns = .ok matchers ↔
      matchers.map Matcher.pattern = patterns ∧ ∀ m ∈ matchers, read m.pattern = .ok m.fits := by
  induction patterns generalizing matchers with
  | nil =>
      rw [readMatchers, List.mapM_nil, List.map_eq_nil_iff]
      constructor
      · intro none
        obtain rfl := Except.ok.inj none
        exact ⟨rfl, List.forall_mem_nil _⟩
      · rintro ⟨rfl, -⟩
        rfl
  | cons pattern patterns ih =>
      have first (m : Matcher) :
          ((read pattern).map (Matcher.mk pattern)).mapError (fault pattern) = .ok m ↔
            m.pattern = pattern ∧ read m.pattern = .ok m.fits := by
        constructor
        · intro own
          cases known : read pattern with
          | error e =>
              rw [known] at own
              cases own
          | ok fits =>
              rw [known] at own
              obtain rfl := Except.ok.inj own
              exact ⟨rfl, known⟩
        · rintro ⟨rfl, known⟩
          rw [known]
          rfl
      rw [readMatchers, List.mapM_cons, Except.bind_eq_ok_iff]
      simp only [first, Except.bind_eq_ok_iff]
      constructor
      · rintro ⟨m, ⟨own, known⟩, others, rest, made⟩
        obtain rfl := Except.ok.inj made
        obtain ⟨patterns', known'⟩ := ih.mp rest
        exact ⟨List.cons_eq_cons.mpr ⟨own, patterns'⟩, List.forall_mem_cons.mpr ⟨known, known'⟩⟩
      · rintro ⟨stated, known⟩
        obtain ⟨m, others, rfl, own, patterns'⟩ := List.map_eq_cons_iff.mp stated
        obtain ⟨known, known'⟩ := List.forall_mem_cons.mp known
        exact ⟨m, ⟨own, known⟩, others, ih.mpr ⟨patterns', known'⟩, rfl⟩

theorem mem_readMatchers {patterns : List String} {matchers : List Matcher}
    (made : readMatchers read fault patterns = .ok matchers) {m : Matcher} :
    m ∈ matchers ↔ m.pattern ∈ patterns ∧ read m.pattern = .ok m.fits := by
  obtain ⟨rfl, known⟩ := readMatchers_eq_ok_iff.mp made
  constructor
  · exact fun member => ⟨List.mem_map_of_mem member, known m member⟩
  · rintro ⟨stated, fits⟩
    obtain ⟨m', member, same⟩ := List.mem_map.mp stated
    have also : m'.fits = m.fits := Except.ok.inj ((known m' member).symm.trans (same ▸ fits))
    cases m
    cases m'
    cases same
    cases also
    exact member

end

/-! ### Validity -/

theorem checkPositive_eq_ok_iff {key : Key} {n : UInt64} {u : Unit} :
    checkPositive key n = .ok u ↔ n ≠ 0 := by
  rw [checkPositive]
  split <;> simp [*]

theorem checkExtensions_eq_ok_iff {extensions : List String} {u : Unit} :
    checkExtensions extensions = .ok u ↔ extensions ≠ [] := by
  rw [checkExtensions]
  split <;> simp_all

variable [Engine] {s : Settings} {p : Policy}

/-- The settings that are valid, and the policies that they make. -/
theorem policy_eq_ok_iff :
    s.policy = .ok p ↔
      ∃ ignores sensitiveData genericTestNames,
        readGlobs s.ignores = .ok ignores ∧
        readRegexes .sensitiveDataPatterns s.sensitiveDataPatterns = .ok sensitiveData ∧
        readRegexes .genericTestNames s.genericTestNames = .ok genericTestNames ∧
        s.maxMethodLines ≠ 0 ∧ s.namingMinWords ≠ 0 ∧ s.maxNesting ≠ 0 ∧ s.extensions ≠ [] ∧
        s.policyWith ignores sensitiveData genericTestNames = p := by
  rw [policy]
  simp only [Except.bind_eq_ok_iff, checkPositive_eq_ok_iff, checkExtensions_eq_ok_iff,
    exists_const, exists_and_left, pure, Except.pure, Except.ok.injEq]

theorem exists_of_policy (valid : s.policy = .ok p) :
    ∃ ignores sensitiveData genericTestNames, readGlobs s.ignores = .ok ignores ∧
      s.policyWith ignores sensitiveData genericTestNames = p := by
  obtain ⟨ignores, sensitiveData, genericTestNames, globs, -, -, -, -, -, -, made⟩ :=
    policy_eq_ok_iff.mp valid
  exact ⟨ignores, sensitiveData, genericTestNames, globs, made⟩

theorem rules_of_policy (valid : s.policy = .ok p) : p.rules = s.effectiveRules := by
  obtain ⟨ignores, sensitiveData, genericTestNames, -, rfl⟩ := exists_of_policy valid
  rfl

theorem pageDirs_of_policy (valid : s.policy = .ok p) :
    p.pageDirs = s.pageDirs.map Text.lower := by
  obtain ⟨ignores, sensitiveData, genericTestNames, -, rfl⟩ := exists_of_policy valid
  rfl

/-- What is computed from the policy of settings is true of a policy. -/
theorem exists_policy_of_computed {α : Type} {f : Policy → α} {a : α}
    (computed : s.policy.toOption.map f = some a) : ∃ p, s.policy = .ok p ∧ f p = a := by
  cases valid : s.policy with
  | error fault =>
      rw [valid] at computed
      cases computed
  | ok p =>
      rw [valid] at computed
      exact ⟨p, rfl, Option.some.inj computed⟩

end Settings

end LayerLint
