import LayerLint.Proofs.Text.ByteOrder

/-! The bytes of a text are read back as this text, also where bytes are read with replacements. -/

namespace LayerLint.Text

theorem toNat_byte {n : Nat} (small : n < 256) : (UInt8.ofNat n).toNat = n :=
  UInt8.toNat_ofNat_of_lt' small

section

variable {b c d e low high : Nat} (rest : List UInt8)

theorem charsOfBytes_of_ascii (small : b < 128) :
    charsOfBytes (.ofNat b :: rest) = Char.ofNat b :: charsOfBytes rest := by
  have ascii : UInt8.ofNat b < 0x80 := by
    rw [UInt8.lt_iff_toNat_lt, toNat_byte (by omega)]
    exact small
  rw [charsOfBytes, if_pos ascii, toNat_byte (by omega)]

variable (lead : 128 ≤ b) (byte : b < 256)
include lead byte

theorem not_ascii : ¬ UInt8.ofNat b < 0x80 := by
  rw [UInt8.lt_iff_toNat_lt, toNat_byte byte]
  exact Nat.not_lt_of_le lead

theorem charsOfBytes_of_two (code : leadByte? b = some (low, high, 2)) (byte₂ : c < 256)
    (second : low ≤ c ∧ c ≤ high) :
    charsOfBytes (.ofNat b :: .ofNat c :: rest) =
      Char.ofNat (b % 32 * 64 + c % 64) :: charsOfBytes rest := by
  rw [charsOfBytes, if_neg (not_ascii lead byte)]
  simp [toNat_byte byte, toNat_byte byte₂, code, second]

theorem charsOfBytes_of_three (code : leadByte? b = some (low, high, 3)) (byte₂ : c < 256)
    (second : low ≤ c ∧ c ≤ high) (byte₃ : d < 256) (third : continues d = true) :
    charsOfBytes (.ofNat b :: .ofNat c :: .ofNat d :: rest) =
      Char.ofNat ((b % 16 * 64 + c % 64) * 64 + d % 64) :: charsOfBytes rest := by
  rw [charsOfBytes, if_neg (not_ascii lead byte)]
  simp [toNat_byte byte, toNat_byte byte₂, toNat_byte byte₃, code, second, third]

theorem charsOfBytes_of_four (code : leadByte? b = some (low, high, 4)) (byte₂ : c < 256)
    (second : low ≤ c ∧ c ≤ high) (byte₃ : d < 256) (third : continues d = true) (byte₄ : e < 256)
    (fourth : continues e = true) :
    charsOfBytes (.ofNat b :: .ofNat c :: .ofNat d :: .ofNat e :: rest) =
      Char.ofNat (((b % 8 * 64 + c % 64) * 64 + d % 64) * 64 + e % 64) :: charsOfBytes rest := by
  rw [charsOfBytes, if_neg (not_ascii lead byte)]
  simp [toNat_byte byte, toNat_byte byte₂, toNat_byte byte₃, toNat_byte byte₄, code, second, third,
    fourth]

end

/-! ### The codes of characters -/

section

variable {n : Nat}

/-- The first byte of a code of two bytes, with the bounds that the second one keeps. -/
theorem leadByte?_two (above : 0x7F < n) (upTo : n ≤ 0x7FF) :
    ∃ low high, leadByte? (n / 64 % 32 + 192) = some (low, high, 2) ∧
      low ≤ n % 64 + 128 ∧ n % 64 + 128 ≤ high := by
  simp only [leadByte?, Bool.and_eq_true, decide_eq_true_eq, beq_iff_eq]
  rw [if_pos (by omega)]
  exact ⟨_, _, rfl, by omega, by omega⟩

/-- The same for three bytes, where surrogates are left out. -/
theorem leadByte?_three (above : 0x7FF < n) (upTo : n ≤ 0xFFFF)
    (valid : n < 0xD800 ∨ 0xDFFF < n) :
    ∃ low high, leadByte? (n / 4096 % 16 + 224) = some (low, high, 3) ∧
      low ≤ n / 64 % 64 + 128 ∧ n / 64 % 64 + 128 ≤ high := by
  simp only [leadByte?, Bool.and_eq_true, decide_eq_true_eq, beq_iff_eq]
  rw [if_neg (by omega)]
  split_ifs
  · exact ⟨_, _, rfl, by omega, by omega⟩
  · exact ⟨_, _, rfl, by omega, by omega⟩
  · exact ⟨_, _, rfl, by omega, by omega⟩
  all_goals omega

/-- The same for four bytes. -/
theorem leadByte?_four (above : 0xFFFF < n) (upTo : n < 0x110000) :
    ∃ low high, leadByte? (n / 262144 % 8 + 240) = some (low, high, 4) ∧
      low ≤ n / 4096 % 64 + 128 ∧ n / 4096 % 64 + 128 ≤ high := by
  simp only [leadByte?, Bool.and_eq_true, decide_eq_true_eq, beq_iff_eq]
  rw [if_neg (by omega), if_neg (by omega), if_neg (by omega), if_neg (by omega)]
  split_ifs
  · exact ⟨_, _, rfl, by omega, by omega⟩
  · exact ⟨_, _, rfl, by omega, by omega⟩
  · exact ⟨_, _, rfl, by omega, by omega⟩
  · omega

theorem continues_digit (m : Nat) : continues (m % 64 + 128) = true := by
  simp only [continues, Bool.and_eq_true, decide_eq_true_eq]
  omega

end

/-- The code of a character is read back as this character, whatever follows. -/
theorem charsOfBytes_utf8EncodeChar (c : Char) (rest : List UInt8) :
    charsOfBytes (String.utf8EncodeChar c ++ rest) = c :: charsOfBytes rest := by
  have below := val_lt c
  have valid : c.val.toNat < 0xD800 ∨ 0xDFFF < c.val.toNat := c.valid.imp_right And.left
  have back : Char.ofNat c.val.toNat = c := Char.ofNat_toNat c
  unfold String.utf8EncodeChar
  generalize c.val.toNat = n at below valid back
  simp only
  split_ifs with one two three
  · rw [List.singleton_append, charsOfBytes_of_ascii rest (by omega), back]
  · obtain ⟨low, high, lead, second⟩ := leadByte?_two (by omega) two
    have value : (n / 64 % 32 + 192) % 32 * 64 + (n % 64 + 128) % 64 = n := by omega
    have read := charsOfBytes_of_two rest (by omega) (by omega) lead (by omega) second
    rw [value, back] at read
    exact read
  · obtain ⟨low, high, lead, second⟩ := leadByte?_three (by omega) three valid
    have value : ((n / 4096 % 16 + 224) % 16 * 64 + (n / 64 % 64 + 128) % 64) * 64 +
        (n % 64 + 128) % 64 = n := by
      omega
    have read := charsOfBytes_of_three rest (by omega) (by omega) lead (by omega) second (by omega)
      (continues_digit n)
    rw [value, back] at read
    exact read
  · obtain ⟨low, high, lead, second⟩ := leadByte?_four (by omega) below
    have value : (((n / 262144 % 8 + 240) % 8 * 64 + (n / 4096 % 64 + 128) % 64) * 64 +
        (n / 64 % 64 + 128) % 64) * 64 + (n % 64 + 128) % 64 = n := by
      omega
    have read := charsOfBytes_of_four rest (by omega) (by omega) lead (by omega) second (by omega)
      (continues_digit (n / 64)) (by omega) (continues_digit n)
    rw [value, back] at read
    exact read

/-! ### Texts -/

theorem charsOfBytes_utf8 (s : String) : charsOfBytes (utf8 s) = s.toList := by
  rw [utf8_eq]
  induction s.toList with
  | nil => rw [List.flatMap_nil, charsOfBytes]
  | cons c cs ih => rw [List.flatMap_cons, charsOfBytes_utf8EncodeChar, ih]

/-- Bytes are a text exactly if they are the bytes of one. -/
theorem ofUtf8?_eq_some_iff {bytes : List UInt8} {s : String} :
    ofUtf8? bytes = some s ↔ bytes = utf8 s := by
  constructor
  · intro read
    rw [ofUtf8?, String.fromUTF8?] at read
    split at read
    · obtain rfl := Option.some.inj read
      rfl
    · cases read
  · rintro rfl
    have bytes : ByteArray.mk (utf8 s).toArray = s.toUTF8 := rfl
    rw [ofUtf8?, bytes]
    exact dif_pos s.isValidUTF8

end LayerLint.Text
