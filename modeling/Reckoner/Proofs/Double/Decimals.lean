import Mathlib.Tactic.NormNum
import Mathlib.Tactic.Positivity
import Reckoner.Double.Decimal
import Reckoner.Proofs.Double.Rounding
import Reckoner.Text.Digits

/-!
# Decimals as rational numbers

The pattern of a decimal is the one nearest to its value, also where the decimal is so
large or so small that its power of ten is not computed (`pattern_eq_nearest`).  The
shortest decimal of a pattern therefore reads back as that pattern
(`pattern_shortest`).
-/

namespace Reckoner

namespace Decimal

open Double

variable {bits n e : Nat} {d : Decimal}

/-- The number that a decimal stands for. -/
def value (d : Decimal) : ℚ := d.digits * 10 ^ d.exponent

theorem value_nonneg (d : Decimal) : 0 ≤ d.value :=
  mul_nonneg (Nat.cast_nonneg _) (zpow_nonneg (by norm_num) _)

/-! ## Reading -/

/-- The largest numbers need no more than 310 digits. -/
theorem two_pow_le_ten_pow : (2 : ℚ) ^ (1024 : Int) ≤ 10 ^ 310 := by
  have hsmall : (2 : ℚ) ^ 205 ≤ 10 ^ 62 := by norm_num
  calc (2 : ℚ) ^ (1024 : Int) ≤ 2 ^ (1025 : Int) :=
        zpow_le_zpow_right₀ one_le_two (by decide)
    _ = (2 ^ 205) ^ 5 := by
        rw [← pow_mul]
        rfl
    _ ≤ (10 ^ 62) ^ 5 := pow_le_pow_left₀ (by positivity) hsmall 5
    _ = 10 ^ 310 := by rw [← pow_mul]

/-- With 310 zeros, one digit is enough for infinity. -/
theorem nearest_of_large (hn : n ≠ 0) (he : 310 ≤ e) :
    nearest (n * 10 ^ e) = infinityPattern := by
  refine nearest_of_two_pow_le (two_pow_le_ten_pow.trans ?_)
  have hone : (1 : ℚ) ≤ n := Nat.one_le_cast.2 (Nat.one_le_iff_ne_zero.2 hn)
  have hpow : (10 : ℚ) ^ 310 ≤ 10 ^ e := pow_le_pow_right₀ (by norm_num) he
  calc (10 : ℚ) ^ 310 ≤ 10 ^ e := hpow
    _ = 1 * 10 ^ e := (one_mul _).symm
    _ ≤ n * 10 ^ e := mul_le_mul_of_nonneg_right hone (by positivity)

/-- With 330 more places than digits, every decimal is rounded to zero. -/
theorem nearest_of_small (he : n.log2 + 330 ≤ e) : nearest (n / 10 ^ (e + 1)) = 0 := by
  have hpow : (0 : ℚ) < 10 ^ (e + 1) := by positivity
  refine nearest_of_two_mul_lt (div_nonneg (Nat.cast_nonneg n) hpow.le) ?_
  have hdigits : (n : ℚ) < 2 * 10 ^ n.log2 := by
    have hlog : (n : ℚ) < ((2 ^ (n.log2 + 1) : Nat) : ℚ) := Nat.cast_lt.2 Nat.lt_log2_self
    have hten : (2 : ℚ) ^ n.log2 ≤ 10 ^ n.log2 := pow_le_pow_left₀ zero_le_two (by norm_num) _
    calc (n : ℚ) < 2 ^ (n.log2 + 1) := by exact_mod_cast hlog
      _ = 2 * 2 ^ n.log2 := pow_succ' 2 _
      _ ≤ 2 * 10 ^ n.log2 := by linarith
  have hunits : 4 * (unitsPerOne : ℚ) ≤ 10 ^ 331 := by
    have hsmall : (2 : ℚ) ^ (52 : Int) ≤ 10 ^ 21 := by norm_num
    calc 4 * (unitsPerOne : ℚ) = 2 ^ (1024 : Int) * 2 ^ (52 : Int) := by
          have hfour : (4 : ℚ) = 2 ^ (2 : Int) := by norm_num
          rw [cast_unitsPerOne, hfour, ← zpow_add₀ two_ne_zero, ← zpow_add₀ two_ne_zero]
          rfl
      _ ≤ 10 ^ 310 * 10 ^ 21 := mul_le_mul two_pow_le_ten_pow hsmall (by positivity) (by positivity)
      _ = 10 ^ 331 := by rw [← pow_add]
  rw [worth_one, mul_div_assoc', div_lt_iff₀ hpow, inv_mul_eq_div, lt_div_iff₀ cast_unitsPerOne_pos]
  calc 2 * (n : ℚ) * unitsPerOne < 2 * (2 * 10 ^ n.log2) * unitsPerOne :=
        mul_lt_mul_of_pos_right (mul_lt_mul_of_pos_left hdigits two_pos) cast_unitsPerOne_pos
    _ = 10 ^ n.log2 * (4 * unitsPerOne) := by ring
    _ ≤ 10 ^ n.log2 * 10 ^ 331 := mul_le_mul_of_nonneg_left hunits (by positivity)
    _ = 10 ^ (n.log2 + 331) := (pow_add 10 _ _).symm
    _ ≤ 10 ^ (e + 1) := pow_le_pow_right₀ (by norm_num) (by omega)

/-- **The pattern of a decimal is the one nearest to its value.** -/
theorem pattern_eq_nearest (d : Decimal) : d.pattern = nearest d.value := by
  obtain ⟨n, exponent⟩ := d
  unfold pattern value
  dsimp only
  by_cases hn : n = 0
  · rw [if_pos hn, hn, Nat.cast_zero, zero_mul, nearest_zero]
  · rw [if_neg hn]
    cases exponent with
    | ofNat e =>
      have hvalue : (n : ℚ) * 10 ^ (Int.ofNat e) = n * 10 ^ e := rfl
      dsimp only
      rw [hvalue]
      split
      · next he => rw [nearest_of_large hn he]
      · have hcast : (n : ℚ) * 10 ^ e = (n * Nat.pow 10 e : Nat) := by
          rw [Nat.cast_mul]
          exact congrArg _ (Nat.cast_pow 10 e).symm
        rw [hcast, nearest_natCast]
    | negSucc e =>
      have hvalue : (n : ℚ) * 10 ^ (Int.negSucc e) = n / 10 ^ (e + 1) := by
        rw [zpow_negSucc, div_eq_mul_inv]
      dsimp only
      rw [hvalue]
      split
      · next he => rw [nearest_of_small he]
      · have hpos : 0 < Nat.pow 10 (e + 1) := Nat.pow_pos (by decide)
        have hcast : (10 : ℚ) ^ (e + 1) = (Nat.pow 10 (e + 1) : Nat) :=
          (Nat.cast_pow 10 (e + 1)).symm
        rw [hcast, nearest_div n hpos]

/-- Decimals of the same value have the same pattern. -/
theorem pattern_congr {d' : Decimal} (h : d.value = d'.value) : d.pattern = d'.pattern := by
  rw [pattern_eq_nearest, pattern_eq_nearest, h]

/-! ## Writing -/

theorem cast_mul_five_pow (units places : Nat) :
    ((units * Nat.pow 5 places : Nat) : ℚ) * 10 ^ (-(places : Int)) =
      units / 2 ^ (places : Int) := by
  have hten : (10 : ℚ) ^ places = 5 ^ places * 2 ^ places := by
    rw [← mul_pow]
    norm_num
  have hfive : ((Nat.pow 5 places : Nat) : ℚ) = 5 ^ places := Nat.cast_pow 5 places
  rw [Nat.cast_mul, hfive, zpow_neg, zpow_natCast, zpow_natCast, hten, ← div_eq_mul_inv,
    mul_comm (units : ℚ), mul_div_mul_left _ _ (by positivity)]

/-- The exact decimal of a double has the double's value. -/
theorem value_exact (bits : Nat) : (exact bits).value = worth bits := by
  have hplaces : (1074 : Int) = (1074 : Nat) := rfl
  unfold value exact worth
  dsimp only
  rw [cast_unitsPerOne, hplaces]
  generalize 1074 = places
  exact cast_mul_five_pow _ places

/-- As many zeros as a number ends with are a factor of it. -/
theorem ten_pow_dvd (n : Nat) :
    Nat.pow 10 ((Nat.toDigits 10 n).reverse.takeWhile (· = '0')).length ∣ n := by
  generalize hzeros : (Nat.toDigits 10 n).reverse.takeWhile (· = '0') = zeros
  generalize hfront : (Nat.toDigits 10 n).reverse.dropWhile (· = '0') = front
  have hsplit : (Nat.toDigits 10 n).reverse = zeros ++ front := by
    rw [← hzeros, ← hfront, List.takeWhile_append_dropWhile]
  have hall : zeros = List.replicate zeros.length '0' := by
    refine List.eq_replicate_length.2 fun c hc => ?_
    rw [← hzeros] at hc
    exact of_decide_eq_true (List.all_eq_true.1 List.all_takeWhile c hc)
  have hdigits : Nat.toDigits 10 n = front.reverse ++ List.replicate zeros.length '0' := by
    rw [← List.reverse_reverse (Nat.toDigits 10 n), hsplit, List.reverse_append, hall]
    simp
  refine ⟨ofDigits front.reverse, ?_⟩
  have hread := ofDigits_natChars n
  rw [natChars, hdigits, ofDigits, Nat.ofDigitChars_append,
    Nat.ofDigitChars_replicate_zero] at hread
  exact hread.symm

/-- Moving zeros into the exponent does not change the value. -/
theorem value_normalize (d : Decimal) : d.normalize.value = d.value := by
  obtain ⟨n, exponent⟩ := d
  obtain ⟨front, hfront⟩ := ten_pow_dvd n
  unfold normalize value
  dsimp only
  generalize ((Nat.toDigits 10 n).reverse.takeWhile (· = '0')).length = zeros at *
  have hpos : 0 < Nat.pow 10 zeros := Nat.pow_pos (by decide)
  have hcast : ((Nat.pow 10 zeros : Nat) : ℚ) = 10 ^ (zeros : Int) := by
    rw [zpow_natCast]
    exact Nat.cast_pow 10 zeros
  rw [hfront, Nat.mul_div_cancel_left _ hpos, Nat.cast_mul, hcast, zpow_add₀ (by norm_num)]
  ring

/-- **The shortest decimal of a double reads back as the double.** -/
theorem pattern_shortest (h : bits ≤ infinityPattern) : (shortest bits).pattern = bits := by
  have hexact : (exact bits).pattern = bits := by
    rw [pattern_eq_nearest, value_exact, nearest_worth h]
  unfold shortest
  rw [pattern_congr (value_normalize _)]
  exact pattern_longestCut hexact _

end Decimal

end Reckoner
