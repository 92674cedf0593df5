import Reckoner.Proofs.Double.Values

/-!
# Arithmetic of doubles

The logic rounds by shifting bits out of a mantissa one at a time, and keeping the last
of them together with whether an earlier one was set.  This gives the rounded quotient
by the power of two (`Shifted.roundedMantissa_eq`), so a rounded number has the pattern
nearest to its value (`isDouble_round`).  The difference of two doubles has the pattern
nearest to the difference of their values (`IsDouble.sub`), and a natural number as a
double the pattern nearest to it (`isDouble_ofNat`).
-/

namespace Reckoner.Double

open Float.Model (UnpackedFloat)
open Float.Model.UnpackedFloat (Sign ExtendedMantissa)

variable {m j n p r : Nat} {s t : Sign} {x y : Float}

/-! ## Shifting -/

/-- What is left of a mantissa when `n` bits have been shifted out. -/
structure Shifted (m n : Nat) (left : ExtendedMantissa) : Prop where
  mantissa_eq : left.mantissa = m / 2 ^ n
  roundBit_iff : left.roundBit = true ↔ 2 ^ n ≤ 2 * (m % 2 ^ n)
  stickyBit_iff : left.stickyBit = true ↔ 2 * (m % 2 ^ n) ≠ 0 ∧ 2 * (m % 2 ^ n) ≠ 2 ^ n

theorem Shifted.shiftRightOne {left : ExtendedMantissa} (h : Shifted m n left) :
    Shifted m (n + 1) left.shiftRightOne := by
  obtain ⟨hmantissa, hround, hsticky⟩ := h
  have hpos := Nat.two_pow_pos n
  have hrest := Nat.mod_lt m hpos
  have hmod : m % 2 ^ (n + 1) = m % 2 ^ n + 2 ^ n * (m / 2 ^ n % 2) := by
    rw [Nat.pow_succ, Nat.mod_mul]
  have hbit := Nat.mod_two_eq_zero_or_one (m / 2 ^ n)
  refine ⟨?_, ?_, ?_⟩
  · show left.mantissa / 2 = _
    rw [hmantissa, Nat.div_div_eq_div_mul, Nat.pow_succ]
  · show (left.mantissa % 2 != 0) = true ↔ _
    rw [bne_iff_ne, hmantissa, hmod, Nat.pow_succ]
    rcases hbit with hbit | hbit
    · rw [hbit]
      omega
    · rw [hbit]
      omega
  · show (left.roundBit || left.stickyBit) = true ↔ _
    rw [Bool.or_eq_true, hround, hsticky, hmod, Nat.pow_succ]
    rcases hbit with hbit | hbit
    · rw [hbit]
      omega
    · rw [hbit]
      omega

theorem shifted_shiftRight (m n : Nat) :
    Shifted m n (ExtendedMantissa.ofMantissaAndAccuracy m .exact >>> n) := by
  induction n with
  | zero =>
    refine ⟨(Nat.div_one m).symm, ?_, ?_⟩
    · exact iff_of_false Bool.false_ne_true (by simp [Nat.mod_one])
    · exact iff_of_false Bool.false_ne_true (by simp [Nat.mod_one])
  | succ n ih => exact ih.shiftRightOne

/-- **Shifting and rounding give the rounded quotient.** -/
theorem Shifted.roundedMantissa_eq {left : ExtendedMantissa} (h : Shifted m n left) :
    left.roundedMantissa = roundDiv m (2 ^ n) := by
  obtain ⟨mantissa, roundBit, stickyBit⟩ := left
  obtain ⟨hmantissa, hround, hsticky⟩ := h
  have hcases := roundDiv_cases m (2 ^ n)
  have hpos := Nat.two_pow_pos n
  dsimp only at *
  subst hmantissa
  generalize m % 2 ^ n = rest at *
  generalize m / 2 ^ n = floor at *
  generalize roundDiv m (2 ^ n) = rounded at *
  generalize 2 ^ n = step at *
  cases roundBit with
  | false =>
    have hlow : ¬ step ≤ 2 * rest := fun h => absurd (hround.2 h) Bool.false_ne_true
    have hfloor : ∀ sticky, (ExtendedMantissa.mk floor false sticky).roundedMantissa = floor := by
      intro sticky
      cases sticky <;> rfl
    rw [hfloor]
    omega
  | true =>
    have hhigh : step ≤ 2 * rest := hround.1 rfl
    cases stickyBit with
    | false =>
      have htie : ¬ (2 * rest ≠ 0 ∧ 2 * rest ≠ step) :=
        fun h => absurd (hsticky.2 h) Bool.false_ne_true
      change floor + floor % 2 = rounded
      omega
    | true =>
      have hmore := hsticky.1 rfl
      change floor + 1 = rounded
      omega

/-! ## Rounding -/

/-- The exponent that a mantissa is rounded to. -/
theorem targetExponent_eq (m : Nat) (exponent : Int) :
    Float.Model.Format.targetExponent .binary64 (Float.Model.totalExponent m exponent) =
      max ((m.log2 : Int) + exponent - 52) (-1074) := by
  show max ((m.log2 : Int) + 1 + exponent - 53) (-1074) = _
  congr 1
  omega

/-- A mantissa of at most `2 ^ 53` steps is shifted once more at most. -/
theorem shiftToTargetExponent_carry {steps k : Nat} (hsteps : steps ≤ 2 * binade) :
    UnpackedFloat.shiftToTargetExponent .binary64 steps ((k : Int) - 1074) .exact =
      if steps = 2 * binade then (⟨binade, false, false⟩, ((k + 1 : Nat) : Int) - 1074)
      else (⟨steps, false, false⟩, (k : Int) - 1074) := by
  unfold UnpackedFloat.shiftToTargetExponent UnpackedFloat.shiftToExponent
  rw [targetExponent_eq]
  dsimp only
  split
  · next hfull =>
    have hlog : steps.log2 = 53 := by
      rw [hfull]
      rfl
    have hshift : (max ((steps.log2 : Int) + (k - 1074) - 52) (-1074) - (k - 1074)).toNat = 1 := by
      omega
    rw [hshift, hfull]
    refine Prod.ext rfl ?_
    show (k : Int) - 1074 + 1 = _
    omega
  · next hpart =>
    have hlog : steps.log2 ≤ 52 := by
      by_cases hzero : steps = 0
      · rw [hzero]
        decide
      · have hlt : steps.log2 < 53 := (Nat.log2_lt hzero).2 (by rw [binade_eq] at *; omega)
        omega
    have hshift : (max ((steps.log2 : Int) + (k - 1074) - 52) (-1074) - (k - 1074)).toNat = 0 := by
      omega
    rw [hshift]
    refine Prod.ext rfl ?_
    show (k : Int) - 1074 + 0 = _
    omega

theorem isDouble_pack_finite {steps k : Nat} (s : Sign) (hpos : 0 < steps)
    (hsteps : steps < 2 * binade) (hk : k = 0 ∨ binade ≤ steps) :
    IsDouble (.ofModel (.pack (.finite s steps (k - 1074) hpos))) s
      (min (steps + k * binade) infinityPattern) where
  le_infinityPattern := Nat.min_le_right _ _
  toNat_toBits := toNat_pack_finite s hpos hsteps hk

/-- Rounded steps are packed as their pattern, also when they fill a binade. -/
theorem isDouble_carry {steps k : Nat} (s : Sign) (hsteps : steps ≤ 2 * binade)
    (hk : k = 0 ∨ binade ≤ steps) {carried : ExtendedMantissa × Int}
    (hcarried : carried =
      UnpackedFloat.shiftToTargetExponent .binary64 steps ((k : Int) - 1074) .exact) :
    IsDouble (.ofModel (.pack (if h : carried.1.mantissa = 0 then .zero s
        else .finite s carried.1.mantissa carried.2 (Nat.pos_of_ne_zero h)))) s
      (min (steps + k * binade) infinityPattern) := by
  rw [shiftToTargetExponent_carry hsteps] at hcarried
  subst hcarried
  by_cases hfull : steps = 2 * binade
  · have hpattern : steps + k * binade = binade + (k + 1) * binade := by
      rw [hfull]
      ring
    have hpos : 0 < binade := by decide
    rw [if_pos hfull, dif_neg hpos.ne', hpattern]
    exact isDouble_pack_finite s hpos (by omega) (.inr le_rfl)
  · rw [if_neg hfull]
    by_cases hzero : steps = 0
    · have hlevel : k = 0 := by
        rw [binade_eq] at hk
        omega
      subst hzero hlevel
      exact (HasPattern.zero s).isDouble_pack
    · rw [dif_neg hzero]
      exact isDouble_pack_finite s (Nat.pos_of_ne_zero hzero) (by omega) hk

/-- **Rounding a mantissa gives the pattern nearest to its value.**  The exponent must
not be larger than the one that is rounded to. -/
theorem isDouble_roundWithAccuracy (s : Sign) (hm : m ≠ 0) (hj : j ≤ m.log2 + j - 52) :
    IsDouble (.ofModel (.pack
      (UnpackedFloat.roundWithAccuracy .binary64 s m ((j : Int) - 1074) .exact))) s
      (nearestPattern (m * 2 ^ j) unitsPerOne) := by
  obtain ⟨hsteps, hk⟩ := stepsOf_bounds (m * 2 ^ j) unitsPerOne_pos
  have hlevel : level (m * 2 ^ j) unitsPerOne = m.log2 + j - 52 := by
    rw [level_unitsPerOne, log2_mul_two_pow hm]
  obtain ⟨shift, hshift⟩ : ∃ shift, m.log2 + j - 52 = j + shift := ⟨_, (Nat.add_sub_of_le hj).symm⟩
  have hrounded : stepsOf (m * 2 ^ j) unitsPerOne = roundDiv m (2 ^ shift) := by
    rw [stepsOf_unitsPerOne, hlevel, hshift, Nat.add_comm, Nat.pow_add,
      roundDiv_mul_mul m _ (Nat.two_pow_pos j)]
  have hfirst : UnpackedFloat.shiftToTargetExponent .binary64 m ((j : Int) - 1074) .exact =
      (ExtendedMantissa.ofMantissaAndAccuracy m .exact >>> shift,
        ((j + shift : Nat) : Int) - 1074) := by
    unfold UnpackedFloat.shiftToTargetExponent UnpackedFloat.shiftToExponent
    rw [targetExponent_eq]
    dsimp only
    have hby : (max ((m.log2 : Int) + (j - 1074) - 52) (-1074) - (j - 1074)).toNat = shift := by
      omega
    rw [hby]
    refine Prod.ext rfl ?_
    show (j : Int) - 1074 + shift = _
    omega
  rw [hrounded] at hsteps hk
  rw [hlevel, hshift] at hk
  rw [nearestPattern_eq, hlevel, hshift, hrounded]
  unfold UnpackedFloat.roundWithAccuracy
  rw [hfirst]
  dsimp only
  rw [(shifted_shiftRight m shift).roundedMantissa_eq]
  exact isDouble_carry s hsteps hk rfl

/-- Numbers are rounded to the nearest pattern, whatever their exponent is. -/
theorem isDouble_round (s : Sign) (hm : m ≠ 0) (j : Nat) :
    IsDouble (.ofModel (.pack (UnpackedFloat.round .binary64 s m ((j : Int) - 1074)))) s
      (nearestPattern (m * 2 ^ j) unitsPerOne) := by
  obtain ⟨left, hleft⟩ : ∃ left, left = j - (j - (m.log2 + j - 52)) := ⟨_, rfl⟩
  have hamount : ((j : Int) - 1074 - max ((m.log2 : Int) + (j - 1074) - 52) (-1074)).toNat =
      j - left := by omega
  have hne : m * 2 ^ (j - left) ≠ 0 := Nat.mul_ne_zero hm (Nat.two_pow_pos _).ne'
  have hunits : m * 2 ^ (j - left) * 2 ^ left = m * 2 ^ j := by
    rw [Nat.mul_assoc, ← Nat.pow_add, Nat.sub_add_cancel (by omega)]
  have hlevel : left ≤ (m * 2 ^ (j - left)).log2 + left - 52 := by
    rw [log2_mul_two_pow hm]
    omega
  have hexponent : (j : Int) - 1074 - (j - left : Nat) = left - 1074 := by omega
  unfold UnpackedFloat.round UnpackedFloat.decreaseExponent
  rw [targetExponent_eq]
  dsimp only
  rw [hamount, Nat.shiftLeft_eq, hexponent, ← hunits]
  exact isDouble_roundWithAccuracy s hne hlevel

theorem nearestPattern_zero : nearestPattern 0 unitsPerOne = 0 := by
  have h := nearestPattern_unitsOf (Nat.zero_le infinityPattern)
  rwa [unitsOf_zero] at h

/-- A number with a sign is rounded to the pattern nearest to its absolute value. -/
theorem isDouble_normalize (a : Int) (j : Nat) (zeroSign : Sign) :
    ∃ s, IsDouble (.ofModel (.pack
      (UnpackedFloat.normalize .binary64 a ((j : Int) - 1074) zeroSign))) s
      (nearestPattern (a.natAbs * 2 ^ j) unitsPerOne) := by
  unfold UnpackedFloat.normalize
  rcases Int.lt_trichotomy a 0 with hneg | rfl | hpos
  · have habs : (-a).toNat = a.natAbs := by omega
    rw [compare_lt_iff_lt.2 hneg]
    dsimp only
    rw [habs]
    exact ⟨.negative, isDouble_round .negative (by omega) j⟩
  · refine ⟨zeroSign, ?_⟩
    rw [Int.natAbs_zero, Nat.zero_mul, nearestPattern_zero]
    exact (HasPattern.zero zeroSign).isDouble_pack
  · have habs : a.toNat = a.natAbs := by omega
    rw [compare_gt_iff_gt.2 hpos]
    dsimp only
    rw [habs]
    exact ⟨.positive, isDouble_round .positive (by omega) j⟩

/-! ## Differences -/

theorem natAbs_apply (s : Sign) (n : Nat) : (s.apply n).natAbs = n := by
  cases s
  · exact Int.natAbs_neg n
  · rfl

theorem eq_of_apply_eq (h : s.apply p = t.apply r) : p = r := by
  have habs := congrArg Int.natAbs h
  rwa [natAbs_apply, natAbs_apply] at habs

theorem apply_mul (s : Sign) (a : Int) (b : Int) : s.apply (a * b) = s.apply a * b := by
  cases s
  · exact (Int.neg_mul a b).symm
  · rfl

theorem isDouble_sub_finite {steps steps' k k' : Nat} (s t : Sign) (hpos : 0 < steps)
    (hpos' : 0 < steps') :
    ∃ sign, IsDouble (.ofModel (.pack (UnpackedFloat.sub .binary64
        (.finite s steps (k - 1074) hpos) (.finite t steps' (k' - 1074) hpos')))) sign
      (nearestPattern (s.apply (steps * 2 ^ k : Nat) - t.apply (steps' * 2 ^ k' : Nat)).natAbs
        unitsPerOne) := by
  obtain ⟨j, hj⟩ : ∃ j, j = min k k' := ⟨_, rfl⟩
  have hmin : min ((k : Int) - 1074) (k' - 1074) = j - 1074 := by omega
  have hleft : ((k : Int) - 1074 - (j - 1074)).toNat = k - j := by omega
  have hright : ((k' : Int) - 1074 - (j - 1074)).toNat = k' - j := by omega
  unfold UnpackedFloat.sub UnpackedFloat.decreaseExponent
  dsimp only
  rw [hmin, hleft, hright, Nat.shiftLeft_eq, Nat.shiftLeft_eq]
  obtain ⟨sign, hsign⟩ := isDouble_normalize
    (s.apply (steps * 2 ^ (k - j) : Nat) - t.apply (steps' * 2 ^ (k' - j) : Nat)) j .positive
  refine ⟨sign, ?_⟩
  have hunits : ∀ m l : Nat, j ≤ l → m * 2 ^ (l - j) * 2 ^ j = m * 2 ^ l := by
    intro m l hl
    rw [Nat.mul_assoc, ← Nat.pow_add, Nat.sub_add_cancel hl]
  have hscaled : s.apply (steps * 2 ^ k : Nat) - t.apply (steps' * 2 ^ k' : Nat) =
      (s.apply (steps * 2 ^ (k - j) : Nat) - t.apply (steps' * 2 ^ (k' - j) : Nat)) *
        (2 ^ j : Nat) := by
    rw [Int.sub_mul, ← apply_mul, ← apply_mul, ← Int.natCast_mul, ← Int.natCast_mul,
      hunits steps k (by omega), hunits steps' k' (by omega)]
  rw [hscaled, Int.natAbs_mul, Int.natAbs_natCast]
  exact hsign

theorem apply_zero (s : Sign) : s.apply (0 : Nat) = 0 := by
  cases s <;> rfl

/-- Subtracting zero changes nothing, and subtracting from zero only the sign. -/
theorem HasPattern.sub_zero {u : UnpackedFloat} (h : HasPattern u s p) (t : Sign) :
    ∃ sign, HasPattern (UnpackedFloat.sub .binary64 u (.zero t)) sign p := by
  cases h with
  | zero =>
    dsimp only [UnpackedFloat.sub]
    split
    · exact ⟨_, .zero _⟩
    · exact ⟨.positive, .zero .positive⟩
  | finite _ hpos hsteps hk hlast => exact ⟨s, .finite s hpos hsteps hk hlast⟩
  | infinity => exact ⟨s, .infinity s⟩

theorem HasPattern.zero_sub {u : UnpackedFloat} (h : HasPattern u s p) (t : Sign) :
    ∃ sign, HasPattern (UnpackedFloat.sub .binary64 (.zero t) u) sign p := by
  cases h with
  | zero =>
    dsimp only [UnpackedFloat.sub]
    split
    · exact ⟨t, .zero t⟩
    · exact ⟨.positive, .zero .positive⟩
  | finite _ hpos hsteps hk hlast => exact ⟨-s, .finite (-s) hpos hsteps hk hlast⟩
  | infinity => exact ⟨-s, .infinity (-s)⟩

/-- A finite double is infinitely far from infinity. -/
theorem HasPattern.sub_infinity {u v : UnpackedFloat} (hu : HasPattern u s p)
    (hv : HasPattern v t infinityPattern) (hp : p < infinityPattern) :
    HasPattern (UnpackedFloat.sub .binary64 u v) (-t) infinityPattern := by
  generalize hr : infinityPattern = r at hv
  cases hv with
  | zero => exact absurd hr (by decide)
  | finite _ _ hsteps _ hlast => exact absurd hr (lt_infinityPattern hsteps hlast).ne'
  | infinity =>
    cases hu with
    | zero => exact .infinity (-t)
    | finite => exact .infinity (-t)
    | infinity => exact absurd hp (lt_irrefl _)

theorem sub_notANumber (u : UnpackedFloat) :
    UnpackedFloat.sub .binary64 u .notANumber = .notANumber := by
  cases u <;> rfl

theorem sub_eq_ofModel (x y : Float) : x - y =
    .ofModel (.pack (UnpackedFloat.sub .binary64 x.toModel.unpack y.toModel.unpack)) := rfl

/-- **The difference of two finite doubles has the pattern nearest to the difference of
their values.** -/
theorem IsDouble.sub (hx : IsDouble x s p) (hy : IsDouble y t r) (hp : p < infinityPattern)
    (hr : r < infinityPattern) :
    ∃ sign, IsDouble (x - y) sign
      (nearestPattern (s.apply (unitsOf p) - t.apply (unitsOf r)).natAbs unitsPerOne) := by
  have hxp := hx.hasPattern
  have hyr := hy.hasPattern
  rw [sub_eq_ofModel]
  generalize x.toModel.unpack = u at *
  generalize y.toModel.unpack = v at *
  cases hxp with
  | zero =>
    obtain ⟨sign, hsign⟩ := hyr.zero_sub s
    refine ⟨sign, ?_⟩
    rw [unitsOf_zero, apply_zero, Int.zero_sub, Int.natAbs_neg, natAbs_apply,
      nearestPattern_unitsOf hy.le_infinityPattern]
    exact hsign.isDouble_pack
  | finite _ hpos hsteps hk hlast =>
    have hu := HasPattern.finite s hpos hsteps hk hlast
    cases hyr with
    | zero =>
      obtain ⟨sign, hsign⟩ := hu.sub_zero t
      refine ⟨sign, ?_⟩
      rw [unitsOf_zero, apply_zero, Int.sub_zero, natAbs_apply,
        nearestPattern_unitsOf hu.le_infinityPattern]
      exact hsign.isDouble_pack
    | finite _ hpos' hsteps' hk' hlast' =>
      rw [unitsOf_add_mul hsteps.le hk, unitsOf_add_mul hsteps'.le hk']
      exact isDouble_sub_finite s t hpos hpos'
    | infinity => exact absurd hr (lt_irrefl _)
  | infinity => exact absurd hp (lt_irrefl _)

/-! ## Natural numbers as doubles -/

theorem nearestPattern_mul_two_pow (m j : Nat) :
    nearestPattern (m * 2 ^ j) unitsPerOne = nearest (m * 2 ^ ((j : Int) - 1074)) := by
  have hvalue : (m : ℚ) * 2 ^ ((j : Int) - 1074) = ((m * 2 ^ j : Nat) : ℚ) / unitsPerOne := by
    rw [zpow_sub₀ two_ne_zero, ← cast_unitsPerOne, Nat.cast_mul, ← mul_div_assoc, zpow_natCast,
      Nat.cast_pow, Nat.cast_ofNat]
  rw [hvalue, nearest_div _ unitsPerOne_pos]

/-- Multiplying by one changes nothing. -/
theorem IsDouble.mul_one (hx : IsDouble x .positive p) (hp : p < infinityPattern)
    (hlarge : 53 * binade ≤ p) : IsDouble (x * .ofBits 0x3FF0000000000000) .positive p := by
  have hone : (Float.ofBits 0x3FF0000000000000).toModel.unpack =
      .finite .positive (2 ^ 52) (-52) (by decide) := rfl
  have hmul : x * .ofBits 0x3FF0000000000000 = .ofModel (.pack (UnpackedFloat.mul .binary64
      x.toModel.unpack (Float.ofBits 0x3FF0000000000000).toModel.unpack)) := rfl
  have hxp := hx.hasPattern
  rw [hmul, hone]
  generalize x.toModel.unpack = u at *
  cases hxp with
  | zero => exact absurd hlarge (by decide)
  | @finite _ steps k hpos hsteps hk hlast =>
    obtain ⟨i, rfl⟩ : ∃ i, k = i + 52 := by
      refine ⟨k - 52, ?_⟩
      rw [binade_eq] at *
      omega
    have hexponent : ((i + 52 : Nat) : Int) - 1074 + -52 = i - 1074 := by omega
    have hne : steps * 2 ^ 52 ≠ 0 := Nat.mul_ne_zero hpos.ne' (by decide)
    have hlog : (steps * 2 ^ 52).log2 = steps.log2 + 52 := log2_mul_two_pow hpos.ne' 52
    have hround := isDouble_roundWithAccuracy (j := i) .positive hne (by omega)
    have hunits : steps * 2 ^ 52 * 2 ^ i = unitsOf (steps + (i + 52) * binade) := by
      rw [unitsOf_add_mul hsteps.le hk, Nat.mul_assoc, ← Nat.pow_add, Nat.add_comm 52]
    rw [hunits, nearestPattern_unitsOf hp.le] at hround
    dsimp only [UnpackedFloat.mul]
    rw [hexponent]
    exact hround
  | infinity => exact absurd hp (lt_irrefl _)

/-- Numbers from one on are large enough to be multiplied by one. -/
theorem le_nearest {q : ℚ} (hq : 1 ≤ q) : 53 * binade ≤ nearest q := by
  have hone : nearest 1 = 1023 * binade := by
    have hpattern := nearest_natCast 1
    rw [Nat.cast_one] at hpattern
    rw [hpattern]
    decide +kernel
  have hmono := nearest_mono zero_le_one hq
  rw [hone, binade_eq] at hmono
  rw [binade_eq]
  omega

/-- Whole numbers are rounded to the nearest pattern. -/
theorem isDouble_round_natCast {n : Nat} (hn : n ≠ 0) :
    IsDouble (.ofModel (.pack (UnpackedFloat.round .binary64 .positive n 0))) .positive
      (nearest n) := by
  obtain ⟨j, hj⟩ : ∃ j : Nat, (j : Int) - 1074 = 0 := ⟨1074, rfl⟩
  have hround := isDouble_round .positive hn j
  rwa [nearestPattern_mul_two_pow, hj, zpow_zero, mul_one] at hround

theorem isDouble_toUInt64_toFloat {n : Nat} (hn : n < 2 ^ 64) :
    IsDouble n.toUInt64.toFloat .positive (nearest n) := by
  have hnat : n.toUInt64.toNat = n := Nat.mod_eq_of_lt hn
  have hfloat : n.toUInt64.toFloat = .ofModel (.pack
      (UnpackedFloat.normalize .binary64 (n.toUInt64.toNat : Int) 0 .positive)) := rfl
  rw [hfloat, hnat]
  unfold UnpackedFloat.normalize
  by_cases hzero : n = 0
  · subst hzero
    have hnearest : nearest (0 : Nat) = 0 := by rw [Nat.cast_zero, nearest_zero]
    rw [hnearest]
    exact (HasPattern.zero .positive).isDouble_pack
  · have hpos : (0 : Int) < n := by omega
    rw [compare_gt_iff_gt.2 hpos]
    exact isDouble_round_natCast hzero

/-- Numbers of 64 bits are in the range of doubles. -/
theorem nearest_natCast_lt {n : Nat} (hn : n ≤ 2 ^ 64) : nearest n < infinityPattern := by
  have hlast : nearest (2 ^ 64 : Nat) < infinityPattern := by
    rw [nearest_natCast]
    decide +kernel
  exact Nat.lt_of_le_of_lt (nearest_mono (Nat.cast_nonneg n) (Nat.cast_le.2 hn)) hlast

theorem ofScientific_zero_exponent {n : Nat} (hn : n ≠ 0) :
    UnpackedFloat.ofScientific .binary64 n 0 =
      UnpackedFloat.roundWithAccuracy .binary64 .positive (n * 2 ^ 53) (-53) .exact := by
  have hlarge : ¬ (0 : Int) > 2 ^ 11 := by decide
  have hsmall : ¬ (0 : Int) < -((2 ^ 11 : Int) + n.log2) := by omega
  unfold UnpackedFloat.ofScientific
  rw [dif_neg hn, if_neg hlarge, if_neg hsmall, if_pos (le_refl _)]
  dsimp only [UnpackedFloat.mul]
  rw [Nat.shiftLeft_eq, Int.toNat_zero, pow_zero, mul_one]
  rfl

/-- **A natural number becomes the double nearest to it.** -/
theorem isDouble_ofNat (n : Nat) : IsDouble (.ofNat n) .positive (nearest n) := by
  by_cases hzero : n = 0
  · subst hzero
    have hnearest : nearest (0 : Nat) = 0 := by rw [Nat.cast_zero, nearest_zero]
    rw [hnearest]
    exact isDouble_zero
  have hscientific : Float.ofNat n = Float.ofScientific n false 0 := rfl
  rw [hscientific]
  unfold Float.ofScientific
  by_cases hsmall : n < 2 ^ 53
  · have hlt : n < 2 ^ 64 := Nat.lt_trans hsmall (by decide)
    have hone : (1 : ℚ) ≤ n := Nat.one_le_cast.2 (Nat.one_le_iff_ne_zero.2 hzero)
    rw [dif_pos ⟨hsmall, Nat.zero_le 22⟩]
    exact (isDouble_toUInt64_toFloat hlt).mul_one (nearest_natCast_lt hlt.le) (le_nearest hone)
  · obtain ⟨j, hj⟩ : ∃ j : Nat, (j : Int) - 1074 = -53 := ⟨1021, rfl⟩
    have hne : n * 2 ^ 53 ≠ 0 := Nat.mul_ne_zero hzero (by decide)
    have hlog : (n * 2 ^ 53).log2 = n.log2 + 53 := log2_mul_two_pow hzero 53
    have hround := isDouble_roundWithAccuracy (j := j) .positive hne (by omega)
    have hvalue : ((n * 2 ^ 53 : Nat) : ℚ) * 2 ^ (-53 : Int) = n := by
      rw [Nat.cast_mul, Nat.cast_pow, Nat.cast_ofNat, zpow_neg, mul_assoc]
      have hcancel : (2 : ℚ) ^ 53 * ((2 : ℚ) ^ (53 : Int))⁻¹ = 1 := by norm_num
      rw [hcancel, mul_one]
    rw [nearestPattern_mul_two_pow, hj, hvalue, ← ofScientific_zero_exponent hzero] at hround
    rw [dif_neg fun h => hsmall h.1]
    exact hround

end Reckoner.Double
