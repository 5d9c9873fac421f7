import LayerLint.Text.LetterCase

/-! The characters that differ only in case. -/

namespace LayerLint.Text

/-- The characters that a run sends to a character. -/
def MapRun.preimage? (r : MapRun) (c : Char) : Option Char :=
  let n := c.toNat
  let source := r.run.first + (n - r.target)
  if r.target ≤ n && r.run.contains source then some (Char.ofNat source) else none

/-- The characters that a map moves to a character. -/
def CharMap.preimages (m : CharMap) (c : Char) : List Char :=
  m.toList.filterMap (·.preimage? c)

/-- The characters that are equal to one up to case, itself among them. -/
def caseVariants (c : Char) : List Char :=
  let key := foldKey c
  let capital := if 'a' ≤ key && key ≤ 'z' then [Char.ofNat (key.toNat - 32)] else []
  let plain := key :: capital ++ lowerMap.preimages key
  plain ++ plain.flatMap foldMap.preimages

end LayerLint.Text
