/-! Texts and their bytes, and texts from bytes that may not be valid UTF-8. -/

namespace LayerLint.Text

def utf8 (s : String) : List UInt8 :=
  s.toUTF8.data.toList

/-- The text that bytes are, if they are one. -/
def ofUtf8? (bytes : List UInt8) : Option String :=
  String.fromUTF8? ⟨bytes.toArray⟩

/-- What stands for bytes that are no character. -/
def replacement : Char :=
  Char.ofNat 0xFFFD

/-- The bounds of the second byte after a first byte, and the number of bytes of the character. -/
def leadByte? (b : Nat) : Option (Nat × Nat × Nat) :=
  if 0xC2 ≤ b && b ≤ 0xDF then some (0x80, 0xBF, 2)
  else if b == 0xE0 then some (0xA0, 0xBF, 3)
  else if b == 0xED then some (0x80, 0x9F, 3)
  else if 0xE1 ≤ b && b ≤ 0xEF then some (0x80, 0xBF, 3)
  else if b == 0xF0 then some (0x90, 0xBF, 4)
  else if 0xF1 ≤ b && b ≤ 0xF3 then some (0x80, 0xBF, 4)
  else if b == 0xF4 then some (0x80, 0x8F, 4)
  else none

def continues (b : Nat) : Bool :=
  0x80 ≤ b && b ≤ 0xBF

/-- The characters of bytes. Where the bytes begin no character, the longest start of one that they
have, or a single byte, is replaced. -/
def charsOfBytes : List UInt8 → List Char
  | [] => []
  | b :: rest =>
    if b < 0x80 then Char.ofNat b.toNat :: charsOfBytes rest
    else
      match leadByte? b.toNat with
      | none => replacement :: charsOfBytes rest
      | some (low, high, size) =>
        match rest with
        | [] => [replacement]
        | c :: rest' =>
          if !(low ≤ c.toNat && c.toNat ≤ high) then replacement :: charsOfBytes (c :: rest')
          else if size == 2 then
            Char.ofNat (b.toNat % 32 * 64 + c.toNat % 64) :: charsOfBytes rest'
          else
            match rest' with
            | [] => [replacement]
            | d :: rest'' =>
              if !continues d.toNat then replacement :: charsOfBytes (d :: rest'')
              else if size == 3 then
                Char.ofNat ((b.toNat % 16 * 64 + c.toNat % 64) * 64 + d.toNat % 64) ::
                  charsOfBytes rest''
              else
                match rest'' with
                | [] => [replacement]
                | e :: rest''' =>
                  if !continues e.toNat then replacement :: charsOfBytes (e :: rest''')
                  else
                    Char.ofNat (((b.toNat % 8 * 64 + c.toNat % 64) * 64 + d.toNat % 64) * 64 +
                      e.toNat % 64) :: charsOfBytes rest'''
termination_by bytes => bytes.length

def textOfBytes (bytes : ByteArray) : String :=
  String.ofList (charsOfBytes bytes.toList)

end LayerLint.Text
