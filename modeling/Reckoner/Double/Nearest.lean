/-!
# The double nearest to a quotient

A non-negative double is determined by its bit pattern read as a natural
number, and larger patterns stand for larger doubles.  Every finite pattern
stands for a whole number of units of `2 ^ (-1074)`, the smallest positive
double.  This file gives that number of units, and for a quotient of natural
numbers the pattern of the double nearest to it.

The first `2 ^ 52` patterns are their own numbers of units.  The patterns after
them fall into binades of `2 ^ 52` patterns each.  The first binade goes on in
steps of one unit, and in every later one the steps are twice as large as in the
binade before, so that a binade starts where `2 ^ 52` of its steps come to.
-/

namespace Reckoner.Double

/-! ## Bit patterns -/

/-- The number of patterns in one binade. -/
def binade : Nat := Nat.pow 2 52

/-- The pattern of positive infinity; finite doubles have smaller ones. -/
def infinityPattern : Nat := 2047 * binade

/-- Units of `2 ^ (-1074)` in one. -/
def unitsPerOne : Nat := Nat.pow 2 1074

/-- The number of units that the finite double with pattern `bits` is worth. -/
def unitsOf (bits : Nat) : Nat :=
  if bits < binade then bits
  else (bits % binade + binade) * Nat.pow 2 (bits / binade - 1)

/-! ## Rounding -/

/-- The quotient `n / d` rounded to a natural number, a half going to the even
neighbour. -/
def roundDiv (n d : Nat) : Nat :=
  let floor := n / d
  match compare (2 * (n % d)) d with
  | .lt => floor
  | .eq => floor + floor % 2
  | .gt => floor + 1

/-- The pattern of the double nearest to `n / d`, a tie going to the pattern
that is even, and values beyond the largest double going to infinity.  Steps of
`2 ^ k` units are the smallest ones of which the quotient holds fewer than
`2 ^ 53`; a rounding that reaches `2 ^ 53` steps gives the first pattern of the
next binade. -/
def nearestPattern (n d : Nat) : Nat :=
  let scaled := n * unitsPerOne
  let k := (scaled / d).log2 - 52
  min (roundDiv scaled (d * Nat.pow 2 k) + k * binade) infinityPattern

/-! ## Laws -/

/-- Rounding gives one of the two neighbours of the quotient. -/
theorem div_le_roundDiv (n d : Nat) : n / d ≤ roundDiv n d ∧ roundDiv n d ≤ n / d + 1 := by
  dsimp only [roundDiv]
  split <;> omega

/-- Exact quotients are not changed by rounding. -/
theorem roundDiv_mul_right (n : Nat) {d : Nat} (hd : 0 < d) : roundDiv (n * d) d = n := by
  dsimp only [roundDiv]
  rw [Nat.mul_mod_left, Nat.mul_div_cancel n hd, Nat.compare_eq_lt.2 (by omega)]

/-- No quotient is rounded to NaN. -/
theorem nearestPattern_le (n d : Nat) : nearestPattern n d ≤ infinityPattern :=
  Nat.min_le_right _ _

end Reckoner.Double
