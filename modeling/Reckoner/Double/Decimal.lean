import Reckoner.Double.Nearest

/-!
# Decimals and doubles

A decimal is a whole number of powers of ten.  This file reads one as the
nearest double, and writes a double as the shortest decimal that reads back as
the same double.

The shortest decimal is found by cutting the double's exact decimal expansion
after one digit, after two digits, and so on.  At each length the two decimals
around the double are tried, the nearer one first and of two equally near ones
the larger.  The expansion itself reads back, so the search ends.
-/

namespace Reckoner

/-- The decimal `digits * 10 ^ exponent`. -/
structure Decimal where
  digits : Nat
  exponent : Int
deriving DecidableEq

namespace Decimal

/-! ## Reading -/

/-- The pattern of the nearest double.  Decimals that are far outside the range
of doubles are settled without computing their powers of ten. -/
def pattern (d : Decimal) : Nat :=
  if d.digits = 0 then 0
  else
    match d.exponent with
    | .ofNat e =>
      if 310 ≤ e then Double.infinityPattern
      else Double.nearestPattern (d.digits * Nat.pow 10 e) 1
    | .negSucc e =>
      if d.digits.log2 + 330 ≤ e then 0
      else Double.nearestPattern d.digits (Nat.pow 10 (e + 1))

/-- The nearest double. -/
def toFloat (d : Decimal) : Float :=
  .ofBits (.ofNat d.pattern)

/-! ## Writing -/

/-- The decimal that a positive finite double is exactly equal to: one unit of
`2 ^ (-1074)` is `5 ^ 1074 * 10 ^ (-1074)`. -/
def exact (bits : Nat) : Decimal where
  digits := Double.unitsOf bits * Nat.pow 5 1074
  exponent := -1074

/-- The two neighbours of a decimal among those with its last `places` digits
cut off, the nearer one first; half way between them the larger one. -/
def neighbours (d : Decimal) (places : Nat) : Decimal × Decimal :=
  let step := Nat.pow 10 places
  let below : Decimal := ⟨d.digits / step, d.exponent + places⟩
  let above : Decimal := ⟨d.digits / step + 1, d.exponent + places⟩
  if 2 * (d.digits % step) < step then (below, above) else (above, below)

/-- The first of the two neighbours that reads back as the double `bits`. -/
def cut? (bits : Nat) (d : Decimal) (places : Nat) : Option Decimal :=
  let (near, far) := d.neighbours places
  if near.pattern = bits then some near
  else if far.pattern = bits then some far
  else none

/-- Tries to cut off `places` digits, then one digit less, and so on. -/
def longestCut (bits : Nat) (d : Decimal) : (places : Nat) → Decimal
  | 0 => d
  | places + 1 =>
    match cut? bits d (places + 1) with
    | some shorter => shorter
    | none => longestCut bits d places

/-- What is left after cutting still reads back, if all of it did. -/
theorem pattern_longestCut {bits : Nat} {d : Decimal} (h : d.pattern = bits) (places : Nat) :
    (longestCut bits d places).pattern = bits := by
  induction places with
  | zero => exact h
  | succ places ih =>
    rw [longestCut]
    split
    · next shorter hs =>
      rw [cut?] at hs
      split at hs
      split at hs
      · next hn => rw [← Option.some.inj hs]; exact hn
      · split at hs
        · next hf => rw [← Option.some.inj hs]; exact hf
        · simp at hs
    · exact ih

/-- Moves trailing zeros from the digits into the exponent. -/
def normalize (d : Decimal) : Decimal :=
  let digits := (Nat.toDigits 10 d.digits).reverse
  let zeros := (digits.takeWhile (· = '0')).length
  ⟨d.digits / Nat.pow 10 zeros, d.exponent + zeros⟩

/-- At least as many digits as follow the first one when `n` is written out:
`0.30103` is a little more than the decimal logarithm of two. -/
def digitsAfterFirst (n : Nat) : Nat := (n.log2 + 1) * 30103 / 100000

/-- The shortest decimal that reads back as the positive finite double `bits`,
and of the shortest ones the nearest. -/
def shortest (bits : Nat) : Decimal :=
  let d := exact bits
  (longestCut bits d (digitsAfterFirst d.digits)).normalize

end Decimal

end Reckoner
