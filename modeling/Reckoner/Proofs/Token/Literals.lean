import Mathlib.Data.List.TakeWhile
import Mathlib.Data.Nat.Digits.Defs
import Reckoner.Number.Text
import Reckoner.Proofs.Double.Decimals
import Reckoner.Proofs.Double.Values
import Reckoner.Proofs.Exactness
import Reckoner.Proofs.Token.Words

/-!
# The numbers of literals

The value of a literal is given by the places of its digits (`Literal.value`).  A
literal without a point is an integer if its value fits into 64 bits
(`Literal.number_eq_integer_iff`); every other literal is the double that its value is
correctly rounded to (`Literal.number_of_not_isInteger`, `Literal.decimal_roundsTo`).
-/

namespace Reckoner

open Double

/-! ## Places -/

/-- The value of digits, each of them counting ten times as much as the one behind
it. -/
def digitsValue (digits : List Char) : Nat :=
  Nat.ofDigits 10 (digits.reverse.map fun c => c.toNat - '0'.toNat)

theorem digitsValue_cons (c : Char) (digits : List Char) :
    digitsValue (c :: digits) =
      10 ^ digits.length * (c.toNat - '0'.toNat) + digitsValue digits := by
  unfold digitsValue
  rw [List.reverse_cons, List.map_append, Nat.ofDigits_append, List.length_map,
    List.length_reverse, List.map_singleton, Nat.ofDigits_singleton, Nat.add_comm]

theorem ofDigits_eq_digitsValue (digits : List Char) : ofDigits digits = digitsValue digits := by
  induction digits with
  | nil => rfl
  | cons c digits ih =>
    rw [digitsValue_cons, ← ih]
    unfold ofDigits
    rw [Nat.ofDigitChars_cons, Nat.ofDigitChars_eq_ofDigitChars_zero, Nat.mul_zero, Nat.zero_add]

theorem digitsValue_append (front back : List Char) :
    digitsValue (front ++ back) = 10 ^ back.length * digitsValue front + digitsValue back := by
  rw [← ofDigits_eq_digitsValue, ← ofDigits_eq_digitsValue, ← ofDigits_eq_digitsValue]
  unfold ofDigits
  rw [Nat.ofDigitChars_append, Nat.ofDigitChars_eq_ofDigitChars_zero]

namespace Literal

/-- The digits behind the point; none if there is no point. -/
def places (l : Literal) : List Char := l.fraction.getD []

/-- The number that the digits of a literal stand for. -/
def value (l : Literal) : ℚ :=
  digitsValue l.whole + digitsValue l.places / 10 ^ l.places.length

/-- The digits of a literal as a decimal, with or without a point. -/
def decimal (l : Literal) : Decimal := ⟨ofDigits (l.whole ++ l.places), -l.places.length⟩

variable {l : Literal}

theorem value_decimal (l : Literal) : l.decimal.value = l.value := by
  unfold decimal value Decimal.value
  dsimp only
  have hpow : (10 : ℚ) ^ l.places.length ≠ 0 := pow_ne_zero _ (by norm_num)
  rw [ofDigits_eq_digitsValue, digitsValue_append, zpow_neg, zpow_natCast, Nat.cast_add,
    Nat.cast_mul, Nat.cast_pow, Nat.cast_ofNat, add_mul, ← div_eq_mul_inv, ← div_eq_mul_inv,
    mul_div_cancel_left₀ _ hpow]

theorem value_nonneg (l : Literal) : 0 ≤ l.value := by
  rw [← value_decimal]
  exact l.decimal.value_nonneg

/-! ## Reading a literal -/

theorem takeWhile_chars (l : Literal) : l.chars.takeWhile Char.isDigit = l.whole := by
  obtain ⟨whole, fraction, hne, hwhole, hfraction⟩ := l
  cases fraction with
  | none => exact List.takeWhile_eq_self_iff.2 hwhole
  | some places =>
    show (whole ++ '.' :: places).takeWhile Char.isDigit = whole
    rw [List.takeWhile_append_of_pos hwhole, List.takeWhile_cons_of_neg (by decide),
      List.append_nil]

/-- What follows the digits of a literal is its point with the places behind it. -/
theorem dropWhile_chars (l : Literal) :
    l.chars.dropWhile Char.isDigit = l.fraction.elim [] ('.' :: ·) := by
  obtain ⟨whole, fraction, hne, hwhole, hfraction⟩ := l
  cases fraction with
  | none => exact List.dropWhile_eq_nil_iff.2 hwhole
  | some places =>
    show (whole ++ '.' :: places).dropWhile Char.isDigit = '.' :: places
    rw [List.dropWhile_append_of_pos hwhole, List.dropWhile_cons_of_neg (by decide)]

theorem point_mem_chars_iff : '.' ∈ l.chars ↔ l.fraction ≠ none := by
  obtain ⟨whole, fraction, hne, hwhole, hfraction⟩ := l
  cases fraction with
  | none =>
    refine iff_of_false (fun hmem => ?_) (not_not_intro rfl)
    exact absurd (hwhole '.' hmem) (by decide)
  | some places =>
    exact iff_of_true (List.mem_append_right whole (List.mem_cons_self ..)) (by simp)

/-- A literal is read as an integer if it can be one, and as a double otherwise. -/
theorem number_eq (l : Literal) :
    l.number = if l.fraction = none then
      (Number.ofInt? (digitsValue l.whole)).getD (.double l.decimal.toFloat)
    else .double l.decimal.toFloat := by
  unfold number Number.ofLiteral
  rw [takeWhile_chars, dropWhile_chars]
  cases hfraction : l.fraction with
  | none =>
    have hdecimal : l.decimal = ⟨ofDigits l.whole, 0⟩ := by
      unfold decimal places
      rw [hfraction]
      simp
    rw [if_pos rfl, hdecimal, ← ofDigits_eq_digitsValue]
    rfl
  | some fraction =>
    have hdecimal : l.decimal = ⟨ofDigits (l.whole ++ fraction), -fraction.length⟩ := by
      unfold decimal places
      rw [hfraction]
      rfl
    rw [if_neg (by simp), hdecimal]
    rfl

theorem decimal_roundsTo (l : Literal) :
    IsDouble l.decimal.toFloat .positive (nearest l.value) ∧
      RoundsTo l.value l.decimal.toFloat := by
  have hpattern : l.decimal.pattern = nearest l.value := by
    rw [Decimal.pattern_eq_nearest, value_decimal]
  have hdouble : IsDouble l.decimal.toFloat .positive (nearest l.value) := by
    unfold Decimal.toFloat
    rw [hpattern]
    exact isDouble_ofBits (nearest_le _)
  exact ⟨hdouble, hdouble.roundsTo l.value_nonneg⟩

/-! ## Kind and value -/

/-- The literal can be an integer: it has no point, and 64 bits hold its value. -/
def IsInteger (l : Literal) : Prop := '.' ∉ l.chars ∧ l.value ≤ 2 ^ 63 - 1

theorem value_eq_digitsValue (h : l.fraction = none) : l.value = digitsValue l.whole := by
  unfold value places
  rw [h]
  show (digitsValue l.whole : ℚ) + (0 : Nat) / 10 ^ 0 = _
  rw [Nat.cast_zero, zero_div, add_zero]

theorem isInteger_iff : l.IsInteger ↔ l.fraction = none ∧ digitsValue l.whole ≤ 2 ^ 63 - 1 := by
  unfold IsInteger
  rw [point_mem_chars_iff, not_not]
  refine and_congr_right fun hnone => ?_
  rw [value_eq_digitsValue hnone]
  have hmax : (2 ^ 63 - 1 : ℚ) = ((2 ^ 63 - 1 : Nat) : ℚ) := by norm_num
  rw [hmax, Nat.cast_le]

/-- **A literal is an integer exactly if it has no point and 64 bits hold its
value**, and it is that value. -/
theorem number_eq_integer_iff (v : Int64) :
    l.number = .integer v ↔ l.IsInteger ∧ l.value = v.toInt := by
  have hmax : v.toInt ≤ 2 ^ 63 - 1 := v.toInt_le
  rw [isInteger_iff, number_eq]
  by_cases hnone : l.fraction = none
  · have hcast : (digitsValue l.whole : ℚ) = v.toInt ↔ (digitsValue l.whole : Int) = v.toInt := by
      norm_cast
    rw [if_pos hnone, Number.getD_ofInt?_eq_integer_iff, value_eq_digitsValue hnone, hcast]
    constructor
    · intro heq
      exact ⟨⟨hnone, by omega⟩, heq⟩
    · rintro ⟨-, heq⟩
      exact heq
  · rw [if_neg hnone]
    exact iff_of_false nofun fun h => hnone h.1.1

/-- **Every other literal is the double that its value is rounded to.** -/
theorem number_of_not_isInteger (h : ¬l.IsInteger) : l.number = .double l.decimal.toFloat := by
  rw [isInteger_iff] at h
  rw [number_eq]
  split
  · next hnone =>
    have hlarge : ¬ digitsValue l.whole ≤ 2 ^ 63 - 1 := fun hle => h ⟨hnone, hle⟩
    have hrange : ¬ ((digitsValue l.whole : Int) ≤ Int64.maxValue.toInt) := by
      show ¬ ((digitsValue l.whole : Int) ≤ 2 ^ 63 - 1)
      omega
    unfold Number.ofInt?
    rw [dif_neg fun hin => hrange hin.2]
    rfl
  · rfl

end Literal

end Reckoner
