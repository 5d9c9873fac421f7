import LayerLint.Policy
import LayerLint.Proofs.Settings.ByKey

/-! Settings are what is read from their text. More generally every document that states all
settings is read as these settings, whatever blanks stand in it and however its texts are
escaped. -/

namespace LayerLint

namespace Settings

open Json

theorem Key.mem_all (k : Key) : k ∈ Key.all := by
  cases k <;> decide

theorem HasMembers.more {ms : List (String × List Char)} {cs : List Char}
    (members : HasMembers ms cs) (nonempty : ms ≠ []) : HasMore ms (',' :: cs) := by
  cases members with
  | none _ => exact absurd rfl nonempty
  | some member more => exact .cons member more

theorem IsMember.of_spells {k : String} {v : Value} {cs : List Char}
    (spells : SpellsMember (k, v) cs) : ∃ ds, IsMember (k, ds) cs ∧ Spells v ds := by
  cases spells with
  | mk a text b c spelled d => exact ⟨_, .mk a text b c (.of_spells spelled) d, spelled⟩

/-- The members that spell values, each with the text of its value. -/
theorem exists_hasMembers {vs : List (String × Value)} {cs : List Char}
    (spells : SpellsMembers vs cs) : ∃ ms, HasMembers ms cs ∧
      List.Forall₂ (fun m kv => m.1 = kv.1 ∧ Spells kv.2 m.2) ms vs := by
  induction vs generalizing cs with
  | nil => cases spells
  | cons kv vs ih =>
      cases spells with
      | last member =>
          obtain ⟨ds, member, spelled⟩ := IsMember.of_spells member
          have members := HasMembers.some member .nil
          rw [List.append_nil] at members
          exact ⟨_, members, .cons ⟨rfl, spelled⟩ .nil⟩
      | next member more =>
          obtain ⟨ds, member, spelled⟩ := IsMember.of_spells member
          obtain ⟨ms, members, same⟩ := ih more
          have nonempty : ms ≠ [] := by
            rintro rfl
            cases same
            cases more
          exact ⟨_, .some member (members.more nonempty), .cons ⟨rfl, spelled⟩ same⟩

theorem known_of_names {s : Settings} {ms : List (String × List Char)} {keys : List Key}
    (named : List.Forall₂ (fun m k => m.1 = k.name ∧ Spells (s.valueOf k) m.2) ms keys) :
    List.Forall₂ (fun m kv => m.1 = kv.1 ∧ Spells kv.2 m.2) (known ms)
      (keys.map fun k => (k, s.valueOf k)) := by
  induction named with
  | nil => exact .nil
  | @cons m k ms keys first _ ih =>
      have is : Key.ofName? m.1 = some k := by rw [first.1, Key.ofName?_name]
      rw [known_cons_of_some is]
      exact .cons ⟨rfl, first.2⟩ ih

/-- Settings are read from every document that states them all. -/
theorem ofText_of_spellsDocument {s : Settings} {text : String}
    (spells : SpellsDocument s.value text) : Settings.ofText text = .ok s := by
  obtain ⟨a, cs, b, before, spelled, behind, chars⟩ := spells
  cases spelled with
  | @object _ ds members =>
      obtain ⟨ms, members, named⟩ := exists_hasMembers members
      have states : States ms (Key.all.map fun k => (k, s.valueOf k)) :=
        ⟨_, .refl _, known_of_names (List.forall₂_map_right_iff.mp named)⟩
      have keys : (Key.all.map fun k => (k, s.valueOf k)).map Prod.fst = Key.all := by
        rw [List.map_map]
        exact List.map_id _
      have object : IsObject ms text := by
        refine ⟨a, ds, b, before, members, behind, ?_⟩
        rw [chars, List.cons_append, List.append_assoc, List.singleton_append]
      refine ofText_of_isObject object (states.fits (keys ▸ Key.nodup_all) ?_) fun k absent => ?_
      · intro kv member
        obtain ⟨k, -, rfl⟩ := List.mem_map.mp member
        exact s.has_valueOf k
      · exact absurd (states.keysOf_perm.mem_iff.mpr (keys ▸ k.mem_all)) absent

theorem ofText_text (s : Settings) : Settings.ofText s.text = .ok s :=
  ofText_of_spellsDocument (spellsDocument_text s.value)

/-- Settings survive writing and reading. Their text is a document with a member for each setting,
and reading it gives the same settings, so that the same faults are found in them, the same rules
run and the same policy comes of them. -/
theorem text_round_trip [Engine] (s : Settings) :
    SpellsDocument s.value s.text ∧
      ∃ s', Settings.ofText s.text = .ok s' ∧ s' = s ∧ s'.check = s.check ∧
        s'.effectiveRules = s.effectiveRules ∧ s'.policy = s.policy :=
  ⟨spellsDocument_text s.value, s, s.ofText_text, rfl, rfl, rfl, rfl⟩

end Settings

end LayerLint
