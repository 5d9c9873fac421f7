import LayerLint.Text.Utf8
import Mathlib.Data.String.Basic

/-! Texts compare by their characters as they compare by their bytes in UTF-8. -/

namespace LayerLint.Text

theorem utf8_eq (s : String) : utf8 s = s.toList.flatMap String.utf8EncodeChar := by
  rw [utf8, String.toUTF8, ← String.utf8Encode_toList, List.utf8Encode,
    List.toList_data_toByteArray]

/-! ### Digits to base 64 -/

/-- Numbers compare by what stands before the last digit, then by that digit. -/
theorem lt_of_digit {m n : Nat} (lt : m < n) :
    m / 64 < n / 64 ∨ m / 64 = n / 64 ∧ m % 64 < n % 64 := by
  omega

theorem lt_of_two_digits {m n : Nat} (lt : m < n) :
    m / 4096 < n / 4096 ∨ m / 4096 = n / 4096 ∧
      (m / 64 % 64 < n / 64 % 64 ∨ m / 64 % 64 = n / 64 % 64 ∧ m % 64 < n % 64) := by
  have split := fun k : Nat => Nat.div_div_eq_div_mul k 64 64
  rcases lt_of_digit lt with upper | ⟨same, last⟩
  · have digit := lt_of_digit upper
    rw [split, split] at digit
    exact digit.imp_right fun h => ⟨h.1, .inl h.2⟩
  · have upper := split m
    rw [same, split] at upper
    exact .inr ⟨upper.symm, .inr ⟨by rw [same], last⟩⟩

theorem lt_of_three_digits {m n : Nat} (lt : m < n) :
    m / 262144 < n / 262144 ∨ m / 262144 = n / 262144 ∧
      (m / 4096 % 64 < n / 4096 % 64 ∨ m / 4096 % 64 = n / 4096 % 64 ∧
        (m / 64 % 64 < n / 64 % 64 ∨ m / 64 % 64 = n / 64 % 64 ∧ m % 64 < n % 64)) := by
  have split := fun k : Nat => Nat.div_div_eq_div_mul k 4096 64
  rcases lt_of_two_digits lt with upper | ⟨same, rest⟩
  · have digit := lt_of_digit upper
    rw [split, split] at digit
    exact digit.imp_right fun h => ⟨h.1, .inl h.2⟩
  · have upper := split m
    rw [same, split] at upper
    exact .inr ⟨upper.symm, .inr ⟨by rw [same], rest⟩⟩

/-! ### Codes of characters -/

theorem val_lt (c : Char) : c.val.toNat < 1114112 := by
  rcases c.valid with low | high
  · exact Nat.lt_trans low (by decide)
  · exact high.2

theorem byte_cons_lt {a b : Nat} {l l' : List UInt8} (ha : a < 256) (hb : b < 256)
    (lt : a < b ∨ a = b ∧ l < l') : UInt8.ofNat a :: l < UInt8.ofNat b :: l' := by
  rw [List.cons_lt_cons_iff, UInt8.lt_iff_toNat_lt, UInt8.toNat_ofNat_of_lt' ha,
    UInt8.toNat_ofNat_of_lt' hb]
  exact lt.imp_right fun h => ⟨congrArg UInt8.ofNat h.1, h.2⟩

/-- Bytes after the first one of a code compare by the digit that they hold. -/
theorem digit_cons_lt {m n : Nat} {l l' : List UInt8}
    (lt : m % 64 < n % 64 ∨ m % 64 = n % 64 ∧ l < l') :
    UInt8.ofNat (m % 64 + 128) :: l < UInt8.ofNat (n % 64 + 128) :: l' := by
  refine byte_cons_lt (by omega) (by omega) ?_
  exact lt.imp (fun h => by omega) fun h => ⟨by omega, h.2⟩

/-- The codes of two characters differ at some byte, and there in the order of the characters. -/
theorem utf8EncodeChar_lt {c d : Char} (lt : c < d) (cs ds : List UInt8) :
    String.utf8EncodeChar c ++ cs < String.utf8EncodeChar d ++ ds := by
  have values : c.val.toNat < d.val.toNat := lt
  have below := val_lt d
  unfold String.utf8EncodeChar
  generalize c.val.toNat = m at values
  generalize d.val.toNat = n at values below
  simp only
  split_ifs
  · exact byte_cons_lt (by omega) (by omega) (.inl values)
  · exact byte_cons_lt (by omega) (by omega) (.inl (by omega))
  · exact byte_cons_lt (by omega) (by omega) (.inl (by omega))
  · exact byte_cons_lt (by omega) (by omega) (.inl (by omega))
  · omega
  · refine byte_cons_lt (by omega) (by omega) ((lt_of_digit values).imp (by omega) fun h => ?_)
    exact ⟨by rw [h.1], digit_cons_lt (.inl h.2)⟩
  · exact byte_cons_lt (by omega) (by omega) (.inl (by omega))
  · exact byte_cons_lt (by omega) (by omega) (.inl (by omega))
  · omega
  · omega
  · refine byte_cons_lt (by omega) (by omega)
      ((lt_of_two_digits values).imp (by omega) fun h => ⟨by rw [h.1], digit_cons_lt ?_⟩)
    exact h.2.imp_right fun h => ⟨h.1, digit_cons_lt (.inl h.2)⟩
  · exact byte_cons_lt (by omega) (by omega) (.inl (by omega))
  · omega
  · omega
  · omega
  · refine byte_cons_lt (by omega) (by omega)
      ((lt_of_three_digits values).imp (by omega) fun h => ⟨by rw [h.1], digit_cons_lt ?_⟩)
    refine h.2.imp_right fun h => ⟨h.1, digit_cons_lt ?_⟩
    exact h.2.imp_right fun h => ⟨h.1, digit_cons_lt (.inl h.2)⟩

/-! ### Texts -/

theorem flatMap_utf8_lt {cs ds : List Char} (lt : cs < ds) :
    cs.flatMap String.utf8EncodeChar < ds.flatMap String.utf8EncodeChar := by
  induction lt with
  | @nil d ds =>
      obtain ⟨b, bs, code⟩ := List.exists_cons_of_ne_nil (String.utf8EncodeChar_ne_nil (c := d))
      rw [List.flatMap_nil, List.flatMap_cons, code]
      exact List.nil_lt_cons _ _
  | rel lt =>
      rw [List.flatMap_cons, List.flatMap_cons]
      exact utf8EncodeChar_lt lt _ _
  | cons tail ih =>
      rw [List.flatMap_cons, List.flatMap_cons]
      exact List.append_left_lt ih

theorem utf8_lt_of_lt {s t : String} (lt : s < t) : utf8 s < utf8 t := by
  rw [utf8_eq, utf8_eq]
  exact flatMap_utf8_lt lt

/-- The order of texts by characters is the order of their bytes. -/
theorem lt_iff_utf8_lt (s t : String) : s < t ↔ utf8 s < utf8 t := by
  refine ⟨utf8_lt_of_lt, fun bytes => ?_⟩
  rcases lt_trichotomy s t with lt | same | gt
  · exact lt
  · exact absurd (same ▸ bytes) (List.lt_irrefl _)
  · exact absurd bytes (List.lt_asymm (utf8_lt_of_lt gt))

end LayerLint.Text
