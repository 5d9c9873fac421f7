import LayerLint.Proofs.Settings.Values

/-! Settings are read by key. An object may state them in any order and among other members; where
a setting is not stated, it has its default. A list states the first ones in their order. -/

namespace LayerLint

namespace Settings

open Json

/-! ### Objects -/

/-- A name and any document as its value, with a colon between them. -/
inductive IsMember : String × List Char → List Char → Prop
  | mk {name : String} {a ks b c cs d : List Char} : Blanks a → SpellsText name.toList ks →
      Blanks b → Blanks c → IsValue cs → Blanks d →
      IsMember (name, cs) (a ++ '"' :: (ks ++ '"' :: (b ++ ':' :: (c ++ (cs ++ d)))))

/-- The members after the first one, each with a comma before it. -/
inductive HasMore : List (String × List Char) → List Char → Prop
  | nil : HasMore [] []
  | cons {m : String × List Char} {ms : List (String × List Char)} {cs ds : List Char} :
      IsMember m cs → HasMore ms ds → HasMore (m :: ms) (',' :: (cs ++ ds))

inductive HasMembers : List (String × List Char) → List Char → Prop
  | none {ws : List Char} : Blanks ws → HasMembers [] ws
  | some {m : String × List Char} {ms : List (String × List Char)} {cs ds : List Char} :
      IsMember m cs → HasMore ms ds → HasMembers (m :: ms) (cs ++ ds)

def IsObject (ms : List (String × List Char)) (text : String) : Prop :=
  ∃ a cs b, Blanks a ∧ HasMembers ms cs ∧ Blanks b ∧
    text.toList = a ++ '\x7b' :: (cs ++ '\x7d' :: b)

def known (ms : List (String × List Char)) : List (Key × List Char) :=
  ms.filterMap fun m => (Key.ofName? m.1).map (·, m.2)

theorem known_cons_of_some {m : String × List Char} {k : Key} (is : Key.ofName? m.1 = some k)
    (ms : List (String × List Char)) : known (m :: ms) = (k, m.2) :: known ms := by
  rw [known, List.filterMap_cons, is]
  rfl

theorem known_cons_of_none {m : String × List Char} (is : Key.ofName? m.1 = none)
    (ms : List (String × List Char)) : known (m :: ms) = known ms := by
  rw [known, List.filterMap_cons, is]
  rfl

def readNamed (fuel : Nat) (seen : List Key) (s : Settings) (name : String) : Read Settings := do
  match Key.ofName? name with
  | some key =>
    if seen.contains key then
      throw ⟨.duplicateField key.name, afterObjectEnd (← get)⟩
    readColon
    let s ← readValue s key
    readMembers fuel false (key :: seen) s
  | none =>
    readColon
    skipValue (2 * (← get).rest.length + 2)
    readMembers fuel false seen s

section

variable {name : String} {k : Key} {seen : List Key} {s : Settings} {fuel : Nat} {cs : List Char}

theorem readMembers_succ (fuel : Nat) (first : Bool) (seen : List Key) (s : Settings) :
    readMembers (fuel + 1) first seen s = (do
      if ← hasMember first then
        let name ← readText
        readNamed fuel seen s name
      else return s) :=
  rfl

theorem readNamed_seen (is : Key.ofName? name = some k) (again : k ∈ seen) :
    Refuses (readNamed fuel seen s name) cs := by
  have there : seen.contains k = true := List.contains_iff_mem.mpr again
  simp only [readNamed, is, there, if_true]
  exact .of_bind fun _ cs => (refuses_throw _ cs).bind

theorem readNamed_new (is : Key.ofName? name = some k) (new : k ∉ seen) :
    readNamed fuel seen s name = (do
      readColon
      let s ← readValue s k
      readMembers fuel false (k :: seen) s) := by
  have absent : seen.contains k = false := by simpa using new
  simp only [readNamed, is, absent, Bool.false_eq_true, if_false]

theorem readNamed_unknown (is : Key.ofName? name = none) :
    readNamed fuel seen s name = (do
      readColon
      skipValue (2 * (← get).rest.length + 2)
      readMembers fuel false seen s) := by
  simp only [readNamed, is]

end

theorem HasMore.ends {ms : List (String × List Char)} {ds : List Char} (more : HasMore ms ds)
    {d : List Char} (blanks : Blanks d) (rest : List Char) :
    Ends (d ++ (ds ++ '\x7d' :: rest)) := by
  apply Ends.of_blanks blanks
  cases more with
  | nil => exact ends_brace rest
  | cons _ _ => exact ends_comma _

section

variable {other s : Settings} {seen : List Key} {fuel : Nat} {m : String × List Char}
  {ms : List (String × List Char)} {cs ds rest : List Char} {first : Bool} {before : List Char}

/-- The name of a member is read, and its value and the other members are left. -/
theorem IsMember.exists_split (member : IsMember m cs) (leads : Leads first before)
    (tail : List Char) : ∃ mid b c d, Blanks b ∧ Blanks c ∧ Blanks d ∧ IsValue m.2 ∧
      Reads (hasMember first) (before ++ (cs ++ tail)) true mid ∧
      Reads readText mid m.1 (b ++ ':' :: (c ++ (m.2 ++ (d ++ tail)))) := by
  cases member with
  | @mk name a ks b c cs d blanks text blanksName blanksColon value blanksAfter =>
      have read := reads_readText text (b ++ ':' :: (c ++ (cs ++ (d ++ tail))))
      rw [String.ofList_toList] at read
      refine ⟨_, b, c, d, blanksName, blanksColon, blanksAfter, value, ?_, read⟩
      simp only [List.append_assoc, List.cons_append]
      exact reads_hasMember leads blanks _

/-- The known members state values of `other`, for different keys that have not been seen. -/
structure Fits (other : Settings) (seen : List Key) (ms : List (String × List Char)) : Prop where
  values : ∀ kc ∈ known ms, ∃ v, other.Has kc.1 v ∧ Spells v kc.2
  distinct : ((known ms).map Prod.fst).Nodup
  fresh : ∀ kc ∈ known ms, kc.1 ∉ seen

theorem Fits.of_unknown (fits : Fits other seen (m :: ms)) (is : Key.ofName? m.1 = none) :
    Fits other seen ms := by
  obtain ⟨values, distinct, fresh⟩ := fits
  rw [known_cons_of_none is] at values distinct fresh
  exact ⟨values, distinct, fresh⟩

theorem Fits.of_known {k : Key} (fits : Fits other seen (m :: ms))
    (is : Key.ofName? m.1 = some k) :
    k ∉ seen ∧ (∃ v, other.Has k v ∧ Spells v m.2) ∧ Fits other (k :: seen) ms := by
  obtain ⟨values, distinct, fresh⟩ := fits
  rw [known_cons_of_some is] at values distinct fresh
  obtain ⟨own, values⟩ := List.forall_mem_cons.mp values
  obtain ⟨new, fresh⟩ := List.forall_mem_cons.mp fresh
  obtain ⟨once, distinct⟩ := List.nodup_cons.mp distinct
  refine ⟨new, own, values, distinct, fun kc there again => ?_⟩
  rcases List.mem_cons.mp again with same | again
  · exact once (List.mem_map.mpr ⟨kc, there, same⟩)
  · exact fresh kc there again

def keysOf (ms : List (String × List Char)) : List Key :=
  (known ms).map Prod.fst

/-- One member is read. A known key takes the value that is spelled. -/
theorem reads_readMembers_cons (member : IsMember m cs) (more : HasMore ms ds)
    (leads : Leads first before) (fits : Fits other seen (m :: ms))
    (later : ∀ seen s, Fits other seen ms → ∀ d, Blanks d →
      Reads (readMembers fuel false seen s) (d ++ (ds ++ '\x7d' :: rest))
        ((keysOf ms).foldl (adopt other) s) ('\x7d' :: rest)) :
    Reads (readMembers (fuel + 1) first seen s) (before ++ (cs ++ (ds ++ '\x7d' :: rest)))
      ((keysOf (m :: ms)).foldl (adopt other) s) ('\x7d' :: rest) := by
  obtain ⟨mid, b, c, d, blanksName, blanksColon, blanksAfter, value, isNext, name⟩ :=
    member.exists_split leads (ds ++ '\x7d' :: rest)
  have ends := more.ends blanksAfter rest
  rw [readMembers_succ]
  refine isNext.bind (name.bind ?_)
  cases is : Key.ofName? m.1 with
  | none =>
      rw [readNamed_unknown is, keysOf, known_cons_of_none is]
      refine (reads_readColon blanksName _).bind (Reads.get_bind fun mark => ?_)
      refine ((passes _).value value ?_ blanksColon ends).bind
        (later seen s (fits.of_unknown is) d blanksAfter)
      simp only [List.length_append]
      omega
  | some k =>
      obtain ⟨new, ⟨v, has, spells⟩, fits⟩ := fits.of_known is
      rw [readNamed_new is new, keysOf, known_cons_of_some is]
      refine (reads_readColon blanksName _).bind ?_
      refine (reads_readValue blanksColon s has spells ends).bind ?_
      exact later (k :: seen) (adopt other s k) fits d blanksAfter

theorem reads_readMembers_more (more : HasMore ms ds) (enough : ms.length < fuel)
    (fits : Fits other seen ms) {d : List Char} (blanks : Blanks d) (rest : List Char) :
    Reads (readMembers fuel false seen s) (d ++ (ds ++ '\x7d' :: rest))
      ((keysOf ms).foldl (adopt other) s) ('\x7d' :: rest) := by
  induction more generalizing fuel seen s d with
  | nil =>
      obtain ⟨fuel, rfl⟩ := Nat.exists_eq_add_one.mpr enough
      exact (reads_hasMember_end false blanks rest).bind (.pure _ _)
  | @cons m ms cs ds member more ih =>
      obtain ⟨fuel, rfl⟩ := Nat.exists_eq_add_one.mpr (Nat.zero_lt_of_lt enough)
      rw [List.length_cons, Nat.add_lt_add_iff_right] at enough
      have read := reads_readMembers_cons (s := s) member more (.next blanks) fits
        fun seen s fits d blanks => ih enough fits blanks
      simpa only [List.append_assoc, List.cons_append, List.nil_append] using read

/-- Known members are read among others, in whatever order they stand. -/
theorem reads_readMembers (members : HasMembers ms cs) (enough : ms.length < fuel)
    (fits : Fits other [] ms) (rest : List Char) :
    Reads (readMembers fuel true [] s) (cs ++ '\x7d' :: rest)
      ((keysOf ms).foldl (adopt other) s) ('\x7d' :: rest) := by
  obtain ⟨fuel, rfl⟩ := Nat.exists_eq_add_one.mpr (Nat.zero_lt_of_lt enough)
  cases members with
  | none blanks => exact (reads_hasMember_end true blanks rest).bind (.pure _ _)
  | some member more =>
      rw [List.length_cons, Nat.add_lt_add_iff_right] at enough
      have read := reads_readMembers_cons (s := s) member more .first fits
        fun seen s fits d blanks => reads_readMembers_more more enough fits blanks rest
      rwa [List.nil_append, ← List.append_assoc] at read

def Repeats (seen : List Key) (ms : List (String × List Char)) : Prop :=
  ¬ (keysOf ms).Nodup ∨ ∃ k ∈ keysOf ms, k ∈ seen

theorem not_repeats_nil (seen : List Key) : ¬ Repeats seen [] := by
  rintro (twice | ⟨k, member, -⟩)
  · exact twice List.nodup_nil
  · cases member

theorem Repeats.of_unknown (repeats : Repeats seen (m :: ms)) (is : Key.ofName? m.1 = none) :
    Repeats seen ms := by
  rwa [Repeats, keysOf, known_cons_of_none is] at repeats

theorem Repeats.of_known {k : Key} (repeats : Repeats seen (m :: ms))
    (is : Key.ofName? m.1 = some k) (new : k ∉ seen) : Repeats (k :: seen) ms := by
  rw [Repeats, keysOf, known_cons_of_some is, List.map_cons, List.nodup_cons] at repeats
  rcases repeats with twice | ⟨l, member, again⟩
  · by_cases later : k ∈ keysOf ms
    · exact .inr ⟨k, later, List.mem_cons_self⟩
    · exact .inl fun distinct => twice ⟨later, distinct⟩
  · rcases List.mem_cons.mp member with rfl | later
    · exact absurd again new
    · exact .inr ⟨l, later, List.mem_cons_of_mem k again⟩

/-- Nothing is read past the name of a member whose key has been seen. Up to there, whatever
document stands for a value, it is refused or read to its end. -/
theorem refuses_readMembers_cons (member : IsMember m cs) (more : HasMore ms ds)
    (leads : Leads first before) (repeats : Repeats seen (m :: ms))
    (later : ∀ seen s, Repeats seen ms → ∀ d, Blanks d →
      Refuses (readMembers fuel false seen s) (d ++ (ds ++ '\x7d' :: rest))) :
    Refuses (readMembers (fuel + 1) first seen s)
      (before ++ (cs ++ (ds ++ '\x7d' :: rest))) := by
  obtain ⟨mid, b, c, d, blanksName, blanksColon, blanksAfter, value, isNext, name⟩ :=
    member.exists_split leads (ds ++ '\x7d' :: rest)
  have ends := more.ends blanksAfter rest
  rw [readMembers_succ]
  refine isNext.bind_refuses (name.bind_refuses ?_)
  cases is : Key.ofName? m.1 with
  | none =>
      rw [readNamed_unknown is]
      refine (reads_readColon blanksName _).bind_refuses (.get_bind fun mark => ?_)
      refine ((passes _).value value ?_ blanksColon ends).bind_refuses
        (later seen s (repeats.of_unknown is) d blanksAfter)
      simp only [List.length_append]
      omega
  | some k =>
      by_cases again : k ∈ seen
      · exact readNamed_seen is again
      -- The value need not be of the type of its key; it is enough where its reader stops.
      · rw [readNamed_new is again]
        refine (reads_readColon blanksName _).bind_refuses ?_
        refine (leaves_readValue blanksColon s k value ends).bind_refuses fun s => ?_
        exact later (k :: seen) s (repeats.of_known is again) d blanksAfter

theorem refuses_readMembers_more (more : HasMore ms ds) (enough : ms.length < fuel)
    (repeats : Repeats seen ms) {d : List Char} (blanks : Blanks d) (rest : List Char) :
    Refuses (readMembers fuel false seen s) (d ++ (ds ++ '\x7d' :: rest)) := by
  induction more generalizing fuel seen s d with
  | nil => exact absurd repeats (not_repeats_nil seen)
  | @cons m ms cs ds member more ih =>
      obtain ⟨fuel, rfl⟩ := Nat.exists_eq_add_one.mpr (Nat.zero_lt_of_lt enough)
      rw [List.length_cons, Nat.add_lt_add_iff_right] at enough
      have refused := refuses_readMembers_cons (s := s) member more (.next blanks) repeats
        fun seen s repeats d blanks => ih enough repeats blanks
      simpa only [List.append_assoc, List.cons_append, List.nil_append] using refused

theorem refuses_readMembers (members : HasMembers ms cs) (enough : ms.length < fuel)
    (repeats : Repeats [] ms) (rest : List Char) :
    Refuses (readMembers fuel true [] s) (cs ++ '\x7d' :: rest) := by
  obtain ⟨fuel, rfl⟩ := Nat.exists_eq_add_one.mpr (Nat.zero_lt_of_lt enough)
  cases members with
  | none blanks => exact absurd repeats (not_repeats_nil [])
  | some member more =>
      rw [List.length_cons, Nat.add_lt_add_iff_right] at enough
      have refused := refuses_readMembers_cons (s := s) member more .first repeats
        fun seen s repeats d blanks => refuses_readMembers_more more enough repeats blanks rest
      rwa [List.nil_append, ← List.append_assoc] at refused

end

theorem HasMore.length_le {ms : List (String × List Char)} {ds : List Char}
    (more : HasMore ms ds) : ms.length ≤ ds.length := by
  induction more with
  | nil => exact Nat.le_refl 0
  | cons _ _ ih =>
      simp only [List.length_cons, List.length_append]
      omega

theorem HasMembers.length_le {ms : List (String × List Char)} {cs : List Char}
    (members : HasMembers ms cs) : ms.length ≤ cs.length := by
  cases members with
  | none _ => exact Nat.zero_le _
  | some member more =>
      have others := more.length_le
      cases member
      simp only [List.length_cons, List.length_append]
      omega

theorem HasMembers.length_lt {ms : List (String × List Char)} {cs : List Char}
    (members : HasMembers ms cs) (tail : List Char) : ms.length < (cs ++ tail).length + 1 := by
  have few := members.length_le
  rw [List.length_append]
  omega

/-- The settings of an object, at their defaults where no member states them. -/
theorem ofText_of_isObject {s : Settings} {ms : List (String × List Char)} {text : String}
    (object : IsObject ms text) (fits : Fits s [] ms)
    (absent : ∀ k, k ∉ keysOf ms → s.valueOf k = ({} : Settings).valueOf k) :
    ofText text = .ok s := by
  obtain ⟨a, cs, b, before, members, behind, chars⟩ := object
  have all := reads_readMembers (s := {}) members (members.length_lt ('\x7d' :: b)) fits b
  rw [foldl_adopt_eq absent] at all
  have reads : Reads Settings.read (a ++ '\x7b' :: (cs ++ '\x7d' :: b)) s b := by
    refine (reads_past before rfl _).bind ((reads_bump '\x7b' _).bind ?_)
    refine Reads.get_bind fun m => all.bind ?_
    exact (reads_past blanks_nil rfl b).bind ((reads_bump '\x7d' b).bind (.pure _ _))
  rw [← chars] at reads
  exact (reads.bind ((reads_past_end behind).bind (.pure s []))).run'

theorem ofText_ne_of_repeats {ms : List (String × List Char)} {text : String}
    (object : IsObject ms text) (repeats : Repeats [] ms) (s : Settings) :
    ofText text ≠ .ok s := by
  obtain ⟨a, cs, b, before, members, behind, chars⟩ := object
  have refused (s : Settings) :=
    refuses_readMembers (s := s) members (members.length_lt ('\x7d' :: b)) repeats b
  have refuses : Refuses Settings.read (a ++ '\x7b' :: (cs ++ '\x7d' :: b)) := by
    refine (reads_past before rfl _).bind_refuses ((reads_bump '\x7b' _).bind_refuses ?_)
    exact .get_bind fun m => (refused {}).bind
  rw [← chars] at refuses
  exact refuses.bind.run'_ne s

/-! ### Lists -/

/-- The values of a list are read for the first keys. -/
theorem reads_readValues {other s : Settings} {keys : List Key} {vs : List Value} {cs : List Char}
    (spells : SpellsItems vs cs) (few : vs.length ≤ keys.length)
    (has : ∀ kv ∈ keys.zip vs, other.Has kv.1 kv.2) {first : Bool} {before : List Char}
    (leads : Leads first before) (rest : List Char) :
    ∃ d, Blanks d ∧ Reads (readValues first keys s) (before ++ (cs ++ ']' :: rest))
      (((keys.zip vs).map Prod.fst).foldl (adopt other) s) (d ++ ']' :: rest) := by
  induction keys generalizing s vs cs first before with
  | nil =>
      obtain rfl := List.length_eq_zero_iff.mp (Nat.le_zero.mp few)
      cases spells
  | cons k keys ih =>
      cases spells with
      | @last v a ds b blanks spelled behind =>
          obtain ⟨own, -⟩ := List.forall_mem_cons.mp has
          have read := reads_readValue blanks_nil s own spelled
            (.of_blanks behind (ends_bracket rest))
          obtain ⟨c, es, rfl, visible, other⟩ := spelled.head
          simp only [List.append_assoc, List.cons_append]
          have isNext := reads_hasItem leads blanks visible other (es ++ (b ++ ']' :: rest))
          -- After the last key the end of the list is not looked for.
          cases keys with
          | nil => exact ⟨b, behind, isNext.bind (read.bind (.pure _ _))⟩
          | cons l keys =>
              refine ⟨[], blanks_nil, isNext.bind (read.bind ?_)⟩
              exact (reads_hasItem_end false behind rest).bind (.pure _ _)
      | @next v vs a ds b es blanks spelled behind more =>
          obtain ⟨own, has⟩ := List.forall_mem_cons.mp has
          obtain ⟨d, blanksEnd, others⟩ := ih (s := adopt other s k) more
            (Nat.le_of_succ_le_succ few) has (.next behind)
          have read := reads_readValue blanks_nil s own spelled
            (.of_blanks behind (ends_comma (es ++ ']' :: rest)))
          obtain ⟨c, fs, rfl, visible, other⟩ := spelled.head
          simp only [List.append_assoc, List.cons_append, List.nil_append] at others ⊢
          exact ⟨d, blanksEnd, (reads_hasItem leads blanks visible other _).bind
            (read.bind others)⟩

theorem ofText_of_list {s : Settings} {vs : List Value} {text : String}
    (spells : SpellsDocument (.array vs) text) (few : vs.length ≤ Key.all.length)
    (has : ∀ kv ∈ Key.all.zip vs, s.Has kv.1 kv.2)
    (absent : ∀ k ∉ (Key.all.zip vs).map Prod.fst, s.valueOf k = ({} : Settings).valueOf k) :
    ofText text = .ok s := by
  obtain ⟨a, cs, b, before, spelled, behind, chars⟩ := spells
  have reads : Reads Settings.read (a ++ (cs ++ b)) s b := by
    cases spelled with
    | @emptyArray ws blanks =>
        have all : s = {} := by
          have unset := foldl_adopt_eq absent
          rw [List.zip_nil_right] at unset
          exact unset.symm
        subst all
        have none : Reads (readValues true Key.all {}) (ws ++ ']' :: b) {} (']' :: b) :=
          (reads_hasItem_end true blanks b).bind (.pure _ _)
        simp only [List.append_assoc, List.cons_append, List.nil_append]
        refine (reads_past before rfl _).bind ((reads_bump '[' _).bind (none.bind ?_))
        exact (reads_endList b).bind (.pure _ _)
    | @array _ ds items =>
        obtain ⟨d, blanks, all⟩ := reads_readValues (s := {}) items few has .first b
        rw [foldl_adopt_eq absent] at all
        simp only [List.append_assoc, List.cons_append, List.nil_append]
        refine (reads_past before rfl _).bind ((reads_bump '[' _).bind (all.bind ?_))
        exact ((reads_past blanks rfl b).bind (reads_bump ']' b)).bind (.pure _ _)
  rw [← chars] at reads
  exact (reads.bind ((reads_past_end behind).bind (.pure s []))).run'

/-! ### By key, not by position -/

/-- The known members of an object spell the given values, in some order. -/
def States (ms : List (String × List Char)) (values : List (Key × Value)) : Prop :=
  ∃ listed : List (Key × Value), listed.Perm values ∧
    List.Forall₂ (fun m kv => m.1 = kv.1 ∧ Spells kv.2 m.2) (known ms) listed

theorem States.keysOf_perm {ms : List (String × List Char)} {values : List (Key × Value)}
    (states : States ms values) : (keysOf ms).Perm (values.map Prod.fst) := by
  obtain ⟨listed, perm, spelled⟩ := states
  have keys : keysOf ms = listed.map Prod.fst := by
    rw [keysOf, ← List.forall₂_eq_eq_eq, List.forall₂_map_left_iff, List.forall₂_map_right_iff]
    exact spelled.imp fun _ _ both => both.1
  rw [keys]
  exact perm.map Prod.fst

theorem States.fits {s : Settings} {ms : List (String × List Char)} {values : List (Key × Value)}
    (states : States ms values) (distinct : (values.map Prod.fst).Nodup)
    (has : ∀ kv ∈ values, s.Has kv.1 kv.2) : Fits s [] ms := by
  have nodup := states.keysOf_perm.nodup_iff.mpr distinct
  obtain ⟨listed, perm, spelled⟩ := states
  refine ⟨fun kc member => ?_, nodup, fun _ _ => List.not_mem_nil⟩
  obtain ⟨⟨i, inside⟩, rfl⟩ := List.get_of_mem member
  obtain ⟨length, pairs⟩ := List.forall₂_iff_get.mp spelled
  obtain ⟨same, spells⟩ := pairs i inside (length ▸ inside)
  refine ⟨_, ?_, spells⟩
  rw [same]
  exact has _ (perm.mem_iff.mp (List.get_mem _ _))

/-- Settings are read by key. Values of different keys, each of the type of its key, give the same
settings in whatever order an object states them, among whatever other members, and all else is
at its default; a list of the values for the first keys gives them too. No settings are read from
an object that states a known key twice. -/
theorem ofText_by_key :
    (∀ values : List (Key × Value), (values.map Prod.fst).Nodup →
      (∀ kv ∈ values, ∃ s : Settings, s.Has kv.1 kv.2) →
      ∃ s : Settings, (∀ kv ∈ values, s.Has kv.1 kv.2) ∧
        (∀ k ∉ values.map Prod.fst, s.valueOf k = ({} : Settings).valueOf k) ∧
        (∀ ms text, IsObject ms text → States ms values → ofText text = .ok s) ∧
        ∀ vs text, vs.length ≤ Key.all.length → values = Key.all.zip vs →
          SpellsDocument (.array vs) text → ofText text = .ok s) ∧
    ∀ ms text, IsObject ms text → ¬ (keysOf ms).Nodup → ∀ s, ofText text ≠ .ok s := by
  refine ⟨fun values distinct typed => ?_, fun ms text object twice =>
    ofText_ne_of_repeats object (.inl twice)⟩
  obtain ⟨s, has, absent⟩ := exists_settings distinct typed
  refine ⟨s, has, absent, fun ms text object states => ?_, fun vs text few is spells => ?_⟩
  · refine ofText_of_isObject object (states.fits distinct has) fun k none => absent k ?_
    exact fun there => none (states.keysOf_perm.mem_iff.mpr there)
  · subst is
    exact ofText_of_list spells few has absent

theorem isMember_quoted (name : String) {cs : List Char} (value : IsValue cs) :
    IsMember (name, cs) (quoted name ++ ':' :: cs) := by
  have member := IsMember.mk blanks_nil (spellsText_escape name.toList) blanks_nil blanks_nil value
    blanks_nil
  simpa [quoted] using member

/-- One setting among members with an unknown key is read; the same setting twice is refused. -/
theorem ofText_by_key_among_others :
    let ms := [("a", ['-', '1', 'e', '3']), ("maxNesting", ['7']), ("a", ['n', 'u', 'l', 'l'])]
    let text := "\x7b\"a\":-1e3,\"maxNesting\":7,\"a\":null\x7d"
    let twice := "\x7b\"maxNesting\":7,\"maxNesting\":7\x7d"
    IsObject ms text ∧ States ms [(.maxNesting, .number 7)] ∧
      ofText text = .ok { maxNesting := 7 } ∧ ∀ s, ofText twice ≠ .ok s := by
  intro ms text twice
  have number : IsValue ['7'] := .of_spells (.number 7)
  have exponent : IsExponent ('e' :: ([] ++ ['3'])) :=
    .some List.mem_cons_self List.mem_cons_self
      ⟨List.cons_ne_nil _ _, List.forall_mem_singleton.mpr rfl⟩
  have large : IsNumber (['1'] ++ ([] ++ ('e' :: ([] ++ ['3'])))) :=
    .mk (.digits (by decide) (List.forall_mem_singleton.mpr rfl)) .none exponent
  have members : HasMembers ms "\"a\":-1e3,\"maxNesting\":7,\"a\":null".toList :=
    .some (isMember_quoted "a" (.negative large)) (.cons (isMember_quoted "maxNesting" number)
      (.cons (isMember_quoted "a" (.word List.mem_cons_self)) .nil))
  have object : IsObject ms text := ⟨[], _, [], blanks_nil, members, blanks_nil, by decide⟩
  have states : States ms [(.maxNesting, .number 7)] :=
    ⟨_, .refl _, .cons ⟨rfl, .number 7⟩ .nil⟩
  have pair : HasMembers [("maxNesting", ['7']), ("maxNesting", ['7'])]
      "\"maxNesting\":7,\"maxNesting\":7".toList :=
    .some (isMember_quoted "maxNesting" number) (.cons (isMember_quoted "maxNesting" number) .nil)
  obtain ⟨s, has, absent, same, -⟩ := ofText_by_key.1 [(.maxNesting, .number 7)] (by decide)
    (List.forall_mem_singleton.mpr ⟨{ maxNesting := 7 }, rfl⟩)
  have only : s = { maxNesting := 7 } := by
    apply eq_of_valueOf
    intro k
    by_cases is : k = .maxNesting
    · subst is
      exact (has _ List.mem_cons_self).symm
    · rw [absent k (by simpa using is)]
      cases k with
      | maxNesting => exact absurd rfl is
      | _ => rfl
  refine ⟨object, states, only ▸ same ms text object states, ?_⟩
  exact ofText_by_key.2 _ twice ⟨[], _, [], blanks_nil, pair, blanks_nil, by decide⟩ (by decide)

end Settings

end LayerLint
