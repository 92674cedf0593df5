import Reckoner.Double.Decimal
import Reckoner.Text.Digits

/-!
# The text of a double

A finite double is written with the shortest digits that read back as it.
Numbers of moderate size are written out, with at least one digit after the
point; very large and very small ones are written with a power of ten.
-/

namespace Reckoner

/-! ## Layout -/

/-- How the digits of a decimal are set out.  The exponent of a decimal here is
the power of ten that its first digit stands for. -/
structure DecimalLayout where
  /-- The smallest exponent that is written out. -/
  leastPlain : Int
  /-- The largest exponent that is written out. -/
  greatestPlain : Int
  /-- What separates the whole part from the fraction. -/
  point : Char
  /-- What introduces the power of ten. -/
  power : Char

/-- Numbers from `0.0001` up to, but not including, `10 ^ 16` are written out. -/
def numberLayout : DecimalLayout where
  leastPlain := -4
  greatestPlain := 15
  point := '.'
  power := 'e'

namespace DecimalLayout

/-- Digits written out, the first of them standing for `10 ^ exponent`. -/
def plain (layout : DecimalLayout) (digits : List Char) (exponent : Int) : List Char :=
  if exponent < 0 then
    '0' :: layout.point :: (List.replicate (-exponent - 1).toNat '0' ++ digits)
  else
    let wholeLength := exponent.toNat + 1
    let whole := digits.take wholeLength ++ List.replicate (wholeLength - digits.length) '0'
    match digits.drop wholeLength with
    | [] => whole ++ [layout.point, '0']
    | fraction => whole ++ layout.point :: fraction

/-- Digits written as one digit, the others after the point if there are any,
and the power of ten. -/
def scientific (layout : DecimalLayout) (digits : List Char) (exponent : Int) : List Char :=
  let mantissa :=
    match digits with
    | first :: second :: more => first :: layout.point :: second :: more
    | few => few
  mantissa ++ layout.power :: intChars exponent

/-- The text of a positive decimal. -/
def write (layout : DecimalLayout) (d : Decimal) : List Char :=
  let digits := natChars d.digits
  let exponent := d.exponent + (digits.length - 1 : Nat)
  if layout.leastPlain ≤ exponent ∧ exponent ≤ layout.greatestPlain then
    layout.plain digits exponent
  else
    layout.scientific digits exponent

end DecimalLayout

/-! ## Doubles -/

/-- The text of the non-negative double, not NaN, with pattern `bits`. -/
def magnitudeChars (bits : Nat) : List Char :=
  if bits = Double.infinityPattern then ['i', 'n', 'f']
  else if bits = 0 then ['0', numberLayout.point, '0']
  else numberLayout.write (Decimal.shortest bits)

/-- The text of a double.  A minus sign is written whenever the sign bit is set,
so also for negative zero; NaN has no sign. -/
def floatChars (x : Float) : List Char :=
  let bits := x.toBits.toNat
  let magnitude := bits % Nat.pow 2 63
  if Double.infinityPattern < magnitude then ['N', 'a', 'N']
  else if bits = magnitude then magnitudeChars magnitude
  else '-' :: magnitudeChars magnitude

end Reckoner
