/-!
# Decimal digits

Integers are written with decimal digits and, when they are negative, a minus
sign before them.  They are read with an optional sign and at least one digit;
leading zeros do not matter.
-/

namespace Reckoner

/-! ## Writing -/

/-- The decimal digits of a natural number. -/
def natChars (n : Nat) : List Char := Nat.toDigits 10 n

/-- The decimal digits of an integer, after a minus sign when it is negative. -/
def intChars (n : Int) : List Char :=
  if n < 0 then '-' :: natChars n.natAbs else natChars n.natAbs

/-- The text of a natural number. -/
def natText (n : Nat) : String := String.ofList (natChars n)

/-- The text of an integer. -/
def intText (n : Int) : String := String.ofList (intChars n)

/-! ## Reading -/

/-- The value of a run of decimal digits. -/
def ofDigits (digits : List Char) : Nat := Nat.ofDigitChars 10 digits 0

/-- The sign at the start of a text, true for a minus sign, and what follows
it. -/
def splitSign : List Char → Bool × List Char
  | '-' :: rest => (true, rest)
  | '+' :: rest => (false, rest)
  | rest => (false, rest)

/-- The integer that an optional sign and at least one digit stand for. -/
def readInt? (text : List Char) : Option Int :=
  let (negative, digits) := splitSign text
  if digits.isEmpty || !digits.all Char.isDigit then none
  else if negative then some (-(ofDigits digits : Int))
  else some (ofDigits digits)

/-- Reading the digits of a natural number gives the number. -/
@[simp] theorem ofDigits_natChars (n : Nat) : ofDigits (natChars n) = n :=
  Nat.ofDigitChars_ten_toDigits

end Reckoner
