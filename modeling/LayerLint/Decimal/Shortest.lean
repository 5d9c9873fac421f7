/-! The shortest decimal text of a binary floating-point number. -/

namespace LayerLint.Decimal

/-- A positive number `mantissa * 2 ^ (exponent - bias)`; `narrow` tells that the next smaller
number is only half as far away as the next larger one. -/
structure Binary where
  mantissa : Nat
  exponent : Nat
  narrow : Bool

/-- What the exponent of a `Binary` exceeds the true one by. -/
def bias : Nat := 1074

/-- The size of a floating-point number by its bits, without its sign. -/
def Binary.ofBits (bits : UInt64) : Binary :=
  let fraction := bits.toNat % Nat.pow 2 52
  let exponent := bits.toNat / Nat.pow 2 52 % Nat.pow 2 11
  if exponent == 0 then ⟨fraction, 0, false⟩
  else ⟨Nat.pow 2 52 + fraction, exponent - 1, fraction == 0 && 1 < exponent⟩

/-- The numbers that round to a given one, as fractions over one denominator. -/
structure Interval where
  low : Nat
  value : Nat
  high : Nat
  denominator : Nat
  closed : Bool

def Binary.interval (b : Binary) : Interval :=
  let scale := Nat.pow 2 b.exponent
  let low := if b.narrow then 4 * b.mantissa - 1 else 4 * b.mantissa - 2
  { low := low * scale
    value := 4 * b.mantissa * scale
    high := (4 * b.mantissa + 2) * scale
    denominator := 4 * Nat.pow 2 bias
    closed := b.mantissa % 2 == 0 }

/-- Whether `n / d` lies in an interval. -/
def Interval.contains (i : Interval) (n d : Nat) : Bool :=
  if i.closed then i.low * d ≤ n * i.denominator && n * i.denominator ≤ i.high * d
  else i.low * d < n * i.denominator && n * i.denominator < i.high * d

/-- Digits and the exponent of ten by which they are multiplied. -/
structure Digits where
  digits : Nat
  exponent : Int
  deriving DecidableEq, Repr

def tenTo (e : Int) : Nat × Nat :=
  if 0 ≤ e then (Nat.pow 10 e.toNat, 1) else (1, Nat.pow 10 (-e).toNat)

/-- The multiples of `10 ^ e` next to the value that round to it, the nearer one if both do. -/
def Interval.onGrid (i : Interval) (e : Int) : Option Digits :=
  let (num, den) := tenTo e
  let below := i.value * den / (i.denominator * num)
  let above := below + 1
  let fits := fun k => i.contains (k * num) den
  let remainder := i.value * den - below * (i.denominator * num)
  if fits below && (!fits above || 2 * remainder ≤ i.denominator * num) then some ⟨below, e⟩
  else if fits above then some ⟨above, e⟩
  else none

/-- The least power of ten above a value, searched downwards. -/
def magnitude (num den : Nat) : Nat → Int → Int
  | 0, e => e
  | fuel + 1, e =>
    let (n, d) := tenTo (e - 1)
    if n * den ≤ num * d then e else magnitude num den fuel (e - 1)

/-- The first grid, from the coarsest on, that has a number which rounds to the value. -/
def firstOnGrid (i : Interval) : Nat → Int → Option Digits
  | 0, _ => none
  | fuel + 1, e => (i.onGrid e).orElse fun _ => firstOnGrid i fuel (e - 1)

/-- The fewest digits that read back as a number. -/
def shortest (b : Binary) : Digits :=
  let i := b.interval
  let top := magnitude i.value i.denominator 700 310
  (firstOnGrid i 18 top).getD ⟨0, 0⟩

/-- Digits with the zeros at their end moved into the exponent. -/
def Digits.trim : Nat → Digits → Digits
  | 0, d => d
  | fuel + 1, d =>
    if d.digits % 10 == 0 && d.digits != 0 then Digits.trim fuel ⟨d.digits / 10, d.exponent + 1⟩
    else d

/-- The exponents below which, and from which on, numbers are written with an exponent. -/
def fixedFrom : Int := -5

def fixedBelow : Int := 16

/-- The text of digits: a point is always written in front of a fraction, and an exponent has a sign
and at least two digits. -/
def Digits.text (d : Digits) : String :=
  let d := d.trim 20
  let digits := toString d.digits
  let count := digits.length
  let lead := d.exponent + count - 1
  let zeros := fun n => String.ofList (List.replicate n '0')
  if fixedFrom ≤ lead && lead < fixedBelow then
    if 0 ≤ d.exponent then digits ++ zeros d.exponent.toNat ++ ".0"
    else if 0 ≤ lead then
      let whole := (lead + 1).toNat
      String.ofList (digits.toList.take whole) ++ "." ++ String.ofList (digits.toList.drop whole)
    else "0." ++ zeros (-lead - 1).toNat ++ digits
  else
    let first := String.ofList (digits.toList.take 1)
    let rest := String.ofList (digits.toList.drop 1)
    let size := toString lead.natAbs
    let size := if size.length < 2 then "0" ++ size else size
    let sign := if 0 ≤ lead then "+" else "-"
    first ++ (if rest.isEmpty then "" else "." ++ rest) ++ "e" ++ sign ++ size

def text (x : Float) : String :=
  let bits := x.toBits
  let sign := if bits.toNat / Nat.pow 2 63 == 1 then "-" else ""
  let b := Binary.ofBits bits
  sign ++ (if b.mantissa == 0 then "0.0" else (shortest b).text)

end LayerLint.Decimal
