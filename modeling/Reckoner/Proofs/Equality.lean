import Mathlib.Algebra.Order.Group.Unbundled.Int
import Reckoner.Number.Basic
import Reckoner.Proofs.Double.Arithmetic

/-!
# Equality across kinds

An integer and a double agree if the integer as a double is close to the double.  As a
double, an integer is still a whole number, namely rounded to 53 significant bits
(`rounded`), and two whole numbers that are close to one double are equal.  So two
integers that agree with one double are the same double
(`Number.toFloat_eq_of_agrees`).  They need not be the same integer: from `2 ^ 53` on,
neighbouring integers can be the same double (`Number.agrees_not_transitive`).
-/

namespace Reckoner

open Double
open Float.Model.UnpackedFloat (Sign)

variable {n p r : Nat} {s t : Sign} {x y : Float}

/-! ## Significant bits -/

/-- A natural number rounded to 53 significant bits. -/
def significant (n : Nat) : Nat := roundDiv n (2 ^ (n.log2 - 52)) * 2 ^ (n.log2 - 52)

/-- Up to `2 ^ 53` all bits are significant. -/
theorem significant_of_le (hn : n ≤ 2 ^ 53) : significant n = n := by
  by_cases hlog : n.log2 ≤ 52
  · have hall := roundDiv_mul_right n one_pos
    unfold significant
    rwa [Nat.sub_eq_zero_of_le hlog, Nat.pow_zero, Nat.mul_one] at *
  · have hne : n ≠ 0 := by
      rintro rfl
      exact hlog (by decide)
    have hlast : 2 ^ 53 ≤ n := (Nat.le_log2 hne).1 (by omega)
    rw [Nat.le_antisymm hn hlast]
    decide +kernel

theorem le_significant (hn : 2 ^ 53 ≤ n) : 2 ^ 53 ≤ significant n := by
  have hne : n ≠ 0 := by omega
  have hlog : 53 ≤ n.log2 := (Nat.le_log2 hne).2 hn
  obtain ⟨l, hl⟩ : ∃ l, n.log2 - 52 = l + 1 := ⟨n.log2 - 53, by omega⟩
  have hsteps : 2 ^ 52 ≤ n / 2 ^ (l + 1) := by
    rw [Nat.le_div_iff_mul_le (Nat.two_pow_pos _), ← Nat.pow_add, ← Nat.le_log2 hne]
    omega
  unfold significant
  rw [hl]
  calc 2 ^ 53 = 2 ^ 52 * 2 ^ 1 := rfl
    _ ≤ roundDiv n (2 ^ (l + 1)) * 2 ^ (l + 1) :=
      Nat.mul_le_mul (hsteps.trans (div_le_roundDiv _ _).1)
        (Nat.pow_le_pow_right two_pos (Nat.le_add_left 1 l))

/-- As a double, a natural number is worth its significant bits. -/
theorem unitsOf_nearest (hn : n ≤ 2 ^ 64) :
    unitsOf (nearest n) = significant n * unitsPerOne := by
  have hnearest : nearest n = nearestPattern (n * unitsPerOne) unitsPerOne := by
    rw [nearest_natCast, nearestPattern_congr one_pos unitsPerOne_pos (Nat.mul_one _).symm]
  have hfinite := nearest_natCast_lt hn
  rw [hnearest] at hfinite ⊢
  rw [unitsOf_nearestPattern hfinite]
  by_cases hzero : n = 0
  · rw [hzero, Nat.zero_mul, significant_of_le (Nat.zero_le _), Nat.zero_mul]
    rfl
  obtain ⟨places, hunits⟩ := exists_unitsPerOne_eq
  rw [hunits, log2_mul_two_pow hzero]
  by_cases hlog : n.log2 ≤ 52
  · -- the bits that are shifted out are all behind the point
    have hlt : n < 2 ^ 53 := (Nat.log2_lt hzero).1 (by omega)
    obtain ⟨l, hl⟩ : ∃ l, places = l + (n.log2 + places - 52) :=
      ⟨places - (n.log2 + places - 52), by omega⟩
    have hsplit : n * 2 ^ places = n * 2 ^ l * 2 ^ (n.log2 + places - 52) := by
      rw [Nat.mul_assoc, ← Nat.pow_add, ← hl]
    rw [significant_of_le hlt.le, hsplit, roundDiv_mul_right _ (Nat.two_pow_pos _)]
  · have hshift : n.log2 + places - 52 = n.log2 - 52 + places := by omega
    unfold significant
    rw [hshift, Nat.pow_add, roundDiv_mul_mul _ _ (Nat.two_pow_pos places), Nat.mul_assoc]

/-! ## Integers as doubles -/

/-- The sign of an integer; zero is positive. -/
def signOf (a : Int) : Sign := if a < 0 then .negative else .positive

/-- An integer rounded to 53 significant bits, its sign kept. -/
def rounded (a : Int) : Int := (signOf a).apply (significant a.natAbs)

theorem rounded_of_le {a : Int} (ha : a.natAbs ≤ 2 ^ 53) : rounded a = a := by
  unfold rounded signOf
  rw [significant_of_le ha]
  split
  · dsimp only [Sign.apply]
    omega
  · dsimp only [Sign.apply]
    omega

theorem natAbs_rounded (a : Int) : (rounded a).natAbs = significant a.natAbs :=
  natAbs_apply _ _

theorem signOf_rounded (a : Int) : signOf (rounded a) = signOf a := by
  by_cases hsmall : a.natAbs ≤ 2 ^ 53
  · rw [rounded_of_le hsmall]
  · have hlarge := le_significant (Nat.le_of_not_le hsmall)
    unfold rounded signOf
    by_cases hneg : a < 0
    · rw [if_pos hneg, if_pos]
      dsimp only [Sign.apply]
      omega
    · rw [if_neg hneg, if_neg]
      dsimp only [Sign.apply]
      omega

/-- Only integers from `2 ^ 53` on are rounded to the same as another integer. -/
theorem le_natAbs_of_rounded_eq {a b : Int} (hne : a ≠ b) (h : rounded a = rounded b) :
    2 ^ 53 ≤ a.natAbs := by
  by_contra hsmall
  have ha : rounded a = a := rounded_of_le (by omega)
  have hb : b.natAbs ≤ 2 ^ 53 := by
    by_contra hlarge
    have hle := le_significant (Nat.le_of_not_le hlarge)
    rw [← natAbs_rounded, ← h, ha] at hle
    exact hsmall hle
  rw [ha, rounded_of_le hb] at h
  exact hne h

/-- An integer becomes the double nearest to it. -/
theorem isDouble_ofInt (a : Int) : IsDouble (.ofInt a) (signOf a) (nearest a.natAbs) := by
  cases a with
  | ofNat n => exact isDouble_ofNat n
  | negSucc n =>
    have hsign : signOf (.negSucc n) = .negative := if_pos (Int.negSucc_lt_zero n)
    rw [hsign]
    exact (isDouble_ofNat (n + 1)).neg

/-- As a double, an integer is worth its rounding. -/
theorem apply_unitsOf_nearest {a : Int} (ha : a.natAbs ≤ 2 ^ 64) :
    (signOf a).apply (unitsOf (nearest a.natAbs)) = rounded a * unitsPerOne := by
  unfold rounded
  rw [unitsOf_nearest ha, Int.natCast_mul, apply_mul]

/-- Integers with the same rounding are the same double. -/
theorem ofInt_eq_ofInt {a b : Int} (h : rounded a = rounded b) (ha : a.natAbs ≤ 2 ^ 64)
    (hb : b.natAbs ≤ 2 ^ 64) : Float.ofInt a = Float.ofInt b := by
  have hsign : signOf a = signOf b := by rw [← signOf_rounded, h, signOf_rounded]
  have hnearest : nearest a.natAbs = nearest b.natAbs := by
    apply unitsOf_strictMono.injective
    rw [unitsOf_nearest ha, unitsOf_nearest hb, ← natAbs_rounded, h, natAbs_rounded]
  have hdouble := isDouble_ofInt b
  rw [← hsign, ← hnearest] at hdouble
  exact (isDouble_ofInt a).ext hdouble

theorem natAbs_toInt_le (v : Int64) : v.toInt.natAbs ≤ 2 ^ 64 := by
  have hlow := v.le_toInt
  have hhigh := v.toInt_lt
  omega

/-! ## Closeness -/

/-- How `Number.agrees` compares two doubles. -/
def Close (x y : Float) : Prop := x == y ∨ (x - y).abs < Number.tolerance

theorem isDouble_tolerance : IsDouble Number.tolerance .positive 4457293557087583675 where
  le_infinityPattern := by decide
  toNat_toBits := by decide +kernel

/-- What is closer than the tolerance has a pattern less than that of one half. -/
theorem Double.IsDouble.lt_of_abs_lt_tolerance (hx : IsDouble x s p)
    (h : x.abs < Number.tolerance) : p < nearestPattern 1 2 := by
  have hlt := (hx.abs.lt_iff isDouble_tolerance).1 h
  have hhalf : 4457293557087583675 < nearestPattern 1 2 := by decide +kernel
  dsimp only [Sign.apply] at hlt
  omega

/-- NaN is close to nothing, and infinity to no finite double. -/
theorem exists_isDouble_of_close (hx : IsDouble x s p) (hp : p < infinityPattern)
    (h : Close x y) : ∃ t r, IsDouble y t r ∧ r < infinityPattern := by
  obtain ⟨t, r, hy⟩ | hnan := exists_isDouble_or y
  · refine ⟨t, r, hy, lt_of_le_of_ne hy.le_infinityPattern ?_⟩
    rintro rfl
    rcases h with hbeq | htolerance
    · exact absurd (eq_of_apply_eq ((hx.beq_iff hy).1 hbeq)) hp.ne
    · have hdiff := (hx.hasPattern.sub_infinity hy.hasPattern hp).isDouble_pack
      have hlt := hdiff.lt_of_abs_lt_tolerance htolerance
      exact absurd hlt (by decide +kernel)
  · rcases h with hbeq | htolerance
    · rw [beq_eq_compare, hnan, compare_notANumber] at hbeq
      cases hbeq
    · rw [sub_eq_ofModel, hnan, sub_notANumber] at htolerance
      exact absurd htolerance (by decide +kernel)

/-- Equal doubles are worth the same. -/
theorem apply_unitsOf_eq (h : s.apply p = t.apply r) :
    s.apply (unitsOf p) = t.apply (unitsOf r) := by
  obtain rfl : p = r := eq_of_apply_eq h
  by_cases hzero : p = 0
  · rw [hzero, unitsOf_zero, apply_zero, apply_zero]
  · cases s <;> cases t <;> dsimp only [Sign.apply] at h ⊢ <;> omega

/-- Close doubles are less than a half apart. -/
theorem two_mul_lt_of_close (hx : IsDouble x s p) (hp : p < infinityPattern)
    (hy : IsDouble y t r) (hr : r < infinityPattern) (h : Close x y) :
    2 * (s.apply (unitsOf p) - t.apply (unitsOf r)).natAbs < unitsPerOne := by
  rcases h with hbeq | htolerance
  · rw [apply_unitsOf_eq ((hx.beq_iff hy).1 hbeq), Int.sub_self]
    exact unitsPerOne_pos
  · obtain ⟨sign, hdiff⟩ := hx.sub hy hp hr
    have hlt := hdiff.lt_of_abs_lt_tolerance htolerance
    generalize (s.apply (unitsOf p) - t.apply (unitsOf r)).natAbs = units at hlt ⊢
    by_contra hfar
    have hhalf : nearestPattern 1 2 ≤ nearestPattern units unitsPerOne := by
      refine nearestPattern_le_of_mul_le two_pos unitsPerOne_pos ?_
      rw [Nat.one_mul, Nat.mul_comm]
      exact Nat.not_lt.1 hfar
    exact absurd hlt (Nat.not_lt.2 hhalf)

/-- The integers `a` and `b` are equal if `a * u` and `b * u` are less than half of `u` from
one number. -/
theorem eq_of_near {a b c : Int} {u : Nat} (ha : 2 * (a * u - c).natAbs < u)
    (hb : 2 * (c - b * u).natAbs < u) : a = b := by
  have hdvd : (u : Int) ∣ (a - b) * u := Int.dvd_mul_left _ _
  have hlt : |(a - b) * (u : Int)| < u := by
    rw [Int.sub_mul]
    generalize a * (u : Int) = left at *
    generalize b * (u : Int) = right at *
    rw [abs_lt]
    omega
  have hzero := Int.eq_zero_of_abs_lt_dvd hdvd hlt
  have hu : (u : Int) ≠ 0 := by omega
  exact Int.eq_of_sub_eq_zero ((Int.mul_eq_zero.1 hzero).resolve_right hu)

/-! ## Integers that agree with one double -/

theorem close_of_eq_true (h : (x == y || decide ((x - y).abs < Number.tolerance)) = true) :
    Close x y := by
  rwa [Bool.or_eq_true, decide_eq_true_iff] at h

/-- **Two integers that agree with one double are the same double.**  If they are
different, neither is less than `2 ^ 53` in absolute value. -/
theorem Number.toFloat_eq_of_agrees (i j : Int64) (x : Float)
    (hi : (integer i).agrees (double x) = true) (hj : (double x).agrees (integer j) = true) :
    (integer i).toFloat = (integer j).toFloat ∧
      (i ≠ j → 2 ^ 53 ≤ i.toInt.natAbs ∧ 2 ^ 53 ≤ j.toInt.natAbs) := by
  have hclose : Close (.ofInt i.toInt) x := close_of_eq_true hi
  have hclose' : Close x (.ofInt j.toInt) := close_of_eq_true hj
  have hle := natAbs_toInt_le i
  have hle' := natAbs_toInt_le j
  obtain ⟨s, p, hx, hp⟩ :=
    exists_isDouble_of_close (isDouble_ofInt _) (nearest_natCast_lt hle) hclose
  have hnear := two_mul_lt_of_close (isDouble_ofInt _) (nearest_natCast_lt hle) hx hp hclose
  have hnear' := two_mul_lt_of_close hx hp (isDouble_ofInt _) (nearest_natCast_lt hle') hclose'
  rw [apply_unitsOf_nearest hle] at hnear
  rw [apply_unitsOf_nearest hle'] at hnear'
  have hrounded : rounded i.toInt = rounded j.toInt := eq_of_near hnear hnear'
  refine ⟨ofInt_eq_ofInt hrounded hle hle', fun hne => ?_⟩
  have hdifferent : i.toInt ≠ j.toInt := fun h => hne (Int64.toInt_inj.1 h)
  exact ⟨le_natAbs_of_rounded_eq hdifferent hrounded,
    le_natAbs_of_rounded_eq hdifferent.symm hrounded.symm⟩

/-- Both `2 ^ 53` and `2 ^ 53 + 1` agree with the double `2 ^ 53`. -/
theorem Number.toFloat_two_pow_eq :
    (integer 9007199254740992).agrees (double 9007199254740992) = true ∧
      (double 9007199254740992).agrees (integer 9007199254740993) = true ∧
      (integer 9007199254740992).toFloat = (integer 9007199254740993).toFloat := by
  have hi : (integer 9007199254740992).agrees (double 9007199254740992) = true := by decide +kernel
  have hj : (double 9007199254740992).agrees (integer 9007199254740993) = true := by decide +kernel
  exact ⟨hi, hj, (toFloat_eq_of_agrees _ _ _ hi hj).1⟩

/-- Integers that agree with one double need not be equal. -/
theorem Number.agrees_not_transitive :
    ¬ ∀ (i j : Int64) (x : Float), (integer i).agrees (double x) = true →
      (double x).agrees (integer j) = true → i = j := by
  intro h
  have heq := h 9007199254740993 9007199254740992 9007199254740992 (by decide +kernel)
    (by decide +kernel)
  exact absurd heq (by decide)

end Reckoner
