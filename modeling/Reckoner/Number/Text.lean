import Reckoner.Double.Text
import Reckoner.Number.Basic

/-!
# The text of a number

Integers are written with their decimal digits, doubles as described in
`Reckoner.Double.Text`; so the text of a finite double always holds a point or
a power of ten, and that of an integer never does.  Unsigned literals are read
by `Number.ofLiteral`, and decimals with a sign and a power of ten by
`readFloat?`.
-/

namespace Reckoner

namespace Number

/-! ## Writing -/

/-- The characters a number is written with. -/
def chars : Number → List Char
  | integer v => intChars v.toInt
  | double x => floatChars x

/-- The text of a number. -/
def text (n : Number) : String := String.ofList n.chars

/-- The text of a number together with its kind. -/
def describe (n : Number) : String :=
  match n with
  | integer _ => "Integer(" ++ n.text ++ ")"
  | double _ => "Floating(" ++ n.text ++ ")"

/-! ## Reading -/

/-- The value of an unsigned literal: digits that may be followed by a point
and further digits.  Without a point it is an integer if 64 bits hold it; all
other literals are doubles. -/
def ofLiteral (literal : List Char) : Number :=
  let whole := literal.takeWhile Char.isDigit
  match literal.dropWhile Char.isDigit with
  | [] => (ofInt? (ofDigits whole)).getD (.double (Decimal.mk (ofDigits whole) 0).toFloat)
  | _ :: fraction =>
    .double (Decimal.mk (ofDigits (whole ++ fraction)) (-fraction.length)).toFloat

end Number

/-! ## Signed decimals -/

/-- The unsigned decimal that digits, an optional fraction and an optional
power of ten stand for. -/
def readDecimal? (text : List Char) : Option Decimal :=
  let whole := text.takeWhile Char.isDigit
  let afterWhole := text.dropWhile Char.isDigit
  let (fraction, afterFraction) :=
    match afterWhole with
    | '.' :: more => (more.takeWhile Char.isDigit, more.dropWhile Char.isDigit)
    | more => ([], more)
  if whole.isEmpty && fraction.isEmpty then none
  else
    let digits := ofDigits (whole ++ fraction)
    let places : Int := fraction.length
    match afterFraction with
    | [] => some ⟨digits, -places⟩
    | c :: power =>
      if c = 'e' ∨ c = 'E' then (readInt? power).map fun e => ⟨digits, e - places⟩ else none

/-- The non-negative double that a text without a sign stands for: `inf` or a
decimal, which is rounded to the nearest double. -/
def readMagnitude? (text : List Char) : Option Float :=
  if text = ['i', 'n', 'f'] then some (.ofBits (.ofNat Double.infinityPattern))
  else (readDecimal? text).map Decimal.toFloat

/-- The double that a text stands for: `NaN`, or an optional sign and a
magnitude. -/
def readFloat? (text : List Char) : Option Float :=
  if text = ['N', 'a', 'N'] then some (0 / 0)
  else
    let (negative, magnitude) := splitSign text
    (readMagnitude? magnitude).map fun x => if negative then -x else x

end Reckoner
