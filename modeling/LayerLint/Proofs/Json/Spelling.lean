import LayerLint.Json.Basic
import LayerLint.Json.Cursor

/-! How documents are spelled. A document has many spellings: blanks may stand around its parts, and
a character of a text may be escaped or stand for itself. What the writer gives is one of them. -/

namespace LayerLint.Json

def Blanks (cs : List Char) : Prop :=
  ∀ c ∈ cs, isSpace c = true

/-- How a character may stand in a text: as itself, as an escape of one letter, as a code, or as the
codes of its two halves. -/
inductive SpellsChar : Char → List Char → Prop
  | itself {c : Char} : 32 ≤ c.toNat → c ≠ '"' → c ≠ '\\' → SpellsChar c [c]
  | letter {c x : Char} : escaped? x = some c → SpellsChar c ['\\', x]
  | code {a b c d : Char} {n : Nat} : hexOf? a b c d = some n → isHighHalf n = false →
      isLowHalf n = false → SpellsChar (Char.ofNat n) ['\\', 'u', a, b, c, d]
  | halves {a b c d e f g h : Char} {n k : Nat} : hexOf? a b c d = some n →
      hexOf? e f g h = some k → isHighHalf n = true → isLowHalf k = true →
      SpellsChar (Char.ofNat ((n - 0xD800) * 1024 + (k - 0xDC00) + 65536))
        ['\\', 'u', a, b, c, d, '\\', 'u', e, f, g, h]

/-- How the characters of a text may stand between its quotes. -/
inductive SpellsText : List Char → List Char → Prop
  | nil : SpellsText [] []
  | cons {c : Char} {s xs cs : List Char} :
      SpellsChar c xs → SpellsText s cs → SpellsText (c :: s) (xs ++ cs)

mutual

/-- A document is spelled by a text that begins and ends with it. -/
inductive Spells : Value → List Char → Prop
  | number (n : Nat) : Spells (.number n) (Nat.toDigits 10 n)
  | string {s : String} {cs : List Char} :
      SpellsText s.toList cs → Spells (.string s) ('"' :: (cs ++ ['"']))
  | emptyArray {ws : List Char} : Blanks ws → Spells (.array []) ('[' :: (ws ++ [']']))
  | array {vs : List Value} {cs : List Char} :
      SpellsItems vs cs → Spells (.array vs) ('[' :: (cs ++ [']']))
  | emptyObject {ws : List Char} : Blanks ws → Spells (.object []) ('\x7b' :: (ws ++ ['\x7d']))
  | object {ms : List (String × Value)} {cs : List Char} :
      SpellsMembers ms cs → Spells (.object ms) ('\x7b' :: (cs ++ ['\x7d']))

/-- Items with commas between them; there is at least one. -/
inductive SpellsItems : List Value → List Char → Prop
  | last {v : Value} {a cs b : List Char} :
      Blanks a → Spells v cs → Blanks b → SpellsItems [v] (a ++ (cs ++ b))
  | next {v : Value} {vs : List Value} {a cs b ds : List Char} :
      Blanks a → Spells v cs → Blanks b → SpellsItems vs ds →
      SpellsItems (v :: vs) (a ++ (cs ++ (b ++ ',' :: ds)))

/-- A name and its value, with a colon between them. -/
inductive SpellsMember : String × Value → List Char → Prop
  | mk {k : String} {v : Value} {a ks b c cs d : List Char} :
      Blanks a → SpellsText k.toList ks → Blanks b → Blanks c → Spells v cs → Blanks d →
      SpellsMember (k, v) (a ++ '"' :: (ks ++ '"' :: (b ++ ':' :: (c ++ (cs ++ d)))))

/-- Members with commas between them; there is at least one. -/
inductive SpellsMembers : List (String × Value) → List Char → Prop
  | last {m : String × Value} {cs : List Char} : SpellsMember m cs → SpellsMembers [m] cs
  | next {m : String × Value} {ms : List (String × Value)} {cs ds : List Char} :
      SpellsMember m cs → SpellsMembers ms ds → SpellsMembers (m :: ms) (cs ++ ',' :: ds)

end

def SpellsDocument (v : Value) (text : String) : Prop :=
  ∃ a cs b, Blanks a ∧ Spells v cs ∧ Blanks b ∧ text.toList = a ++ (cs ++ b)

/-! ### The writer -/

theorem blanks_nil : Blanks [] := by
  intro c member
  cases member

theorem blanks_single : Blanks [' '] := by
  intro c member
  rw [List.mem_singleton.mp member]
  rfl

theorem blanks_newLine (depth : Nat) : Blanks (newLine depth) := by
  intro c member
  rcases List.mem_cons.mp member with rfl | member
  · rfl
  · rw [List.eq_of_mem_replicate member]
    rfl

theorem hexValue?_hexDigit : ∀ n < 16, hexValue? (hexDigit n) = some n := by
  decide

theorem hexOf?_of_lt {n : Nat} (lt : n < 256) :
    hexOf? '0' '0' (hexDigit (n / 16)) (hexDigit (n % 16)) = some n := by
  have zero : hexValue? '0' = some 0 := by decide
  have high := hexValue?_hexDigit (n / 16) (by omega)
  have low := hexValue?_hexDigit (n % 16) (by omega)
  simp only [hexOf?, zero, high, low, Option.bind_eq_bind, Option.bind_some, Option.pure_def,
    Option.some.injEq]
  omega

/-- Every character is written in one of its spellings. -/
theorem spellsChar_escape (c : Char) : SpellsChar c (escape c) := by
  unfold escape
  split
  · exact .letter rfl
  · exact .letter rfl
  · exact .letter rfl
  · exact .letter rfl
  · exact .letter rfl
  · exact .letter rfl
  · exact .letter rfl
  · next quote backslash _ _ _ _ _ =>
      split
      · next control =>
          have halves : isHighHalf c.toNat = false ∧ isLowHalf c.toNat = false := by
            simp only [isHighHalf, isLowHalf, Bool.and_eq_false_iff, decide_eq_false_iff_not]
            omega
          have code := SpellsChar.code (hexOf?_of_lt (n := c.toNat) (by omega)) halves.1 halves.2
          rwa [Char.ofNat_toNat] at code
      · next visible => exact .itself (Nat.le_of_not_lt visible) quote backslash

theorem spellsText_escape (s : List Char) : SpellsText s (s.flatMap escape) := by
  induction s with
  | nil => exact .nil
  | cons c s ih => exact .cons (spellsChar_escape c) ih

mutual

/-- What the writer gives spells the document. -/
theorem spells_write (depth : Nat) : (v : Value) → Spells v (write depth v)
  | .number n => by
      rw [write, Nat.toString_eq_repr, Nat.toList_repr]
      exact .number n
  | .string s => by
      rw [write, quoted]
      exact .string (spellsText_escape s.toList)
  | .array [] => by
      rw [write]
      exact .emptyArray blanks_nil
  | .array (v :: vs) => by
      have items := spellsItems_write (depth + 1) vs (spells_write (depth + 1) v)
        (blanks_newLine depth)
      simpa only [write, List.append_assoc] using Spells.array items
  | .object [] => by
      rw [write]
      exact .emptyObject blanks_nil
  | .object ((k, v) :: ms) => by
      have members := spellsMembers_write (depth + 1) k ms (spells_write (depth + 1) v)
        (blanks_newLine depth)
      simpa only [write, writeMember, quoted, List.append_assoc, List.cons_append,
        List.nil_append] using Spells.object members

theorem spellsItems_write (depth : Nat) : (vs : List Value) → {v : Value} → {cs b : List Char} →
    Spells v cs → Blanks b →
      SpellsItems (v :: vs) (newLine depth ++ (cs ++ (writeItems depth vs ++ b)))
  | [], v, cs, b, spells, blanks => by
      rw [writeItems, List.nil_append]
      exact .last (blanks_newLine depth) spells blanks
  | w :: ws, v, cs, b, spells, blanks => by
      have rest := spellsItems_write depth ws (spells_write depth w) blanks
      simpa only [writeItems, List.append_assoc, List.cons_append, List.nil_append] using
        SpellsItems.next (blanks_newLine depth) spells blanks_nil rest

theorem spellsMembers_write (depth : Nat) (k : String) : (ms : List (String × Value)) →
    {v : Value} → {cs b : List Char} → Spells v cs → Blanks b →
      SpellsMembers ((k, v) :: ms)
        (newLine depth ++ '"' :: (k.toList.flatMap escape ++ '"' :: ':' :: ' ' ::
          (cs ++ (writeMembers depth ms ++ b))))
  | [], v, cs, b, spells, blanks => by
      rw [writeMembers, List.nil_append]
      simpa only [List.nil_append, List.cons_append] using SpellsMembers.last
        (.mk (blanks_newLine depth) (spellsText_escape k.toList) blanks_nil blanks_single spells
          blanks)
  | (l, w) :: ms, v, cs, b, spells, blanks => by
      have rest := spellsMembers_write depth l ms (spells_write depth w) blanks
      have first := SpellsMember.mk (blanks_newLine depth) (spellsText_escape k.toList) blanks_nil
        blanks_single spells blanks_nil
      simpa only [writeMembers, writeMember, quoted, List.append_assoc, List.cons_append,
        List.nil_append, List.append_nil] using SpellsMembers.next first rest

end

theorem spellsDocument_text (v : Value) : SpellsDocument v v.text := by
  refine ⟨[], write 0 v, [], blanks_nil, spells_write 0 v, blanks_nil, ?_⟩
  rw [Value.text, String.toList_ofList, List.append_nil, List.nil_append]

end LayerLint.Json
