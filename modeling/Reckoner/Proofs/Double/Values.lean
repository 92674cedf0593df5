import Reckoner.Proofs.Double.Unpacked

/-!
# Doubles as numbers

Doubles are compared by sign and pattern (`IsDouble.lt_iff`), and the value of a finite
one is what its pattern is worth (`IsDouble.value?_eq`).
-/

namespace Reckoner.Double

open Float.Model (UnpackedFloat)
open Float.Model.UnpackedFloat (Sign)

variable {p r : Nat} {s t : Sign} {u v : UnpackedFloat} {x y : Float}

/-! ## Order of unpacked doubles -/

/-- Exponents come before mantissas in the order of patterns. -/
theorem compare_fields {steps steps' k k' : Nat} (hsteps : steps < 2 * binade)
    (hk : k = 0 ∨ binade ≤ steps) (hsteps' : steps' < 2 * binade)
    (hk' : k' = 0 ∨ binade ≤ steps') :
    (compare ((k : Int) - 1074) (k' - 1074)).then (compare steps steps') =
      compare ((steps + k * binade : Nat) : Int) (steps' + k' * binade : Nat) := by
  rw [binade_eq] at *
  rcases Nat.lt_trichotomy k k' with hlt | rfl | hgt
  · have hexponents : compare ((k : Int) - 1074) (k' - 1074) = .lt :=
      compare_lt_iff_lt.2 (by omega)
    rw [hexponents]
    exact (compare_lt_iff_lt.2 (by omega)).symm
  · have hexponents : compare ((k : Int) - 1074) (k - 1074) = .eq := compare_eq_iff_eq.2 rfl
    rw [hexponents]
    change compare steps steps' = _
    rcases Nat.lt_trichotomy steps steps' with hlt | rfl | hgt
    · rw [compare_lt_iff_lt.2 hlt]
      exact (compare_lt_iff_lt.2 (by omega)).symm
    · rw [compare_eq_iff_eq.2 rfl]
      exact (compare_eq_iff_eq.2 rfl).symm
    · rw [compare_gt_iff_gt.2 hgt]
      exact (compare_gt_iff_gt.2 (by omega)).symm
  · have hexponents : compare ((k : Int) - 1074) (k' - 1074) = .gt :=
      compare_gt_iff_gt.2 (by omega)
    rw [hexponents]
    exact (compare_gt_iff_gt.2 (by omega)).symm

theorem compare_neg_neg (a b : Int) : compare (-a) (-b) = (compare a b).swap := by
  rcases Int.lt_trichotomy a b with hlt | rfl | hgt
  · rw [compare_lt_iff_lt.2 hlt]
    exact compare_gt_iff_gt.2 (by omega)
  · rw [compare_eq_iff_eq.2 rfl, compare_eq_iff_eq.2 rfl]
    rfl
  · rw [compare_gt_iff_gt.2 hgt]
    exact compare_lt_iff_lt.2 (by omega)

theorem some_lt_eq {a b : Int} (h : a < b) : some Ordering.lt = some (compare a b) :=
  congrArg some (compare_lt_iff_lt.2 h).symm

theorem some_gt_eq {a b : Int} (h : b < a) : some Ordering.gt = some (compare a b) :=
  congrArg some (compare_gt_iff_gt.2 h).symm

theorem HasPattern.le_infinityPattern (h : HasPattern u s p) : p ≤ infinityPattern := by
  cases h with
  | zero => exact Nat.zero_le _
  | finite _ hpos hsteps hk hlast =>
    rw [infinityPattern, binade_eq] at *
    omega
  | infinity => exact le_rfl

/-- A double with a finite pattern is not infinite. -/
theorem lt_infinityPattern {steps k : Nat} (hsteps : steps < 2 * binade) (hlast : k < 2046) :
    steps + k * binade < infinityPattern := by
  rw [infinityPattern, binade_eq] at *
  omega

/-- **The order of doubles is that of their patterns**, turned around for negative
ones; the two zeros are equal. -/
theorem HasPattern.compare_eq (hu : HasPattern u s p) (hv : HasPattern v t r) :
    u.compare v = some (compare (s.apply p) (t.apply r)) := by
  have hinfinity : 0 < infinityPattern := by decide
  cases hu with
  | zero =>
    cases hv with
    | zero => cases s <;> cases t <;> rfl
    | finite _ hpos =>
      cases t
      · refine some_gt_eq ?_
        cases s <;> dsimp only [Sign.apply] <;> omega
      · refine some_lt_eq ?_
        cases s <;> dsimp only [Sign.apply] <;> omega
    | infinity => cases s <;> cases t <;> rfl
  | finite _ hpos hsteps hk hlast =>
    cases hv with
    | zero =>
      cases s
      · refine some_lt_eq ?_
        cases t <;> dsimp only [Sign.apply] <;> omega
      · refine some_gt_eq ?_
        cases t <;> dsimp only [Sign.apply] <;> omega
    | finite _ hpos' hsteps' hk' hlast' =>
      have hfields := compare_fields hsteps hk hsteps' hk'
      cases s <;> cases t
      · refine congrArg some ?_
        dsimp only [Sign.apply]
        rw [compare_neg_neg, ← hfields]
      · exact some_lt_eq (by dsimp only [Sign.apply]; omega)
      · exact some_gt_eq (by dsimp only [Sign.apply]; omega)
      · exact congrArg some hfields
    | infinity =>
      have hlt := lt_infinityPattern hsteps hlast
      cases t
      · refine some_gt_eq ?_
        cases s <;> dsimp only [Sign.apply] <;> omega
      · refine some_lt_eq ?_
        cases s <;> dsimp only [Sign.apply] <;> omega
  | infinity =>
    cases hv with
    | zero => cases s <;> cases t <;> rfl
    | finite _ hpos hsteps hk hlast =>
      have hlt := lt_infinityPattern hsteps hlast
      cases s
      · refine some_lt_eq ?_
        cases t <;> dsimp only [Sign.apply] <;> omega
      · refine some_gt_eq ?_
        cases t <;> dsimp only [Sign.apply] <;> omega
    | infinity => cases s <;> cases t <;> rfl

/-! ## Doubles with a sign and a pattern -/

/-- A double with a sign and a pattern.  Every double but NaN is one. -/
structure IsDouble (x : Float) (s : Sign) (p : Nat) : Prop where
  le_infinityPattern : p ≤ infinityPattern
  toNat_toBits : x.toBits.toNat = signBit s + p

theorem IsDouble.hasPattern (h : IsDouble x s p) : HasPattern x.toModel.unpack s p :=
  hasPattern_unpack h.le_infinityPattern h.toNat_toBits

theorem HasPattern.isDouble_pack (h : HasPattern u s p) :
    IsDouble (.ofModel (.pack u)) s p where
  le_infinityPattern := h.le_infinityPattern
  toNat_toBits := h.toNat_pack

theorem isDouble_ofBits (hp : p ≤ infinityPattern) :
    IsDouble (.ofBits (.ofNat p)) .positive p := by
  refine (hasPattern_unpack hp ?_).isDouble_pack
  show p % 2 ^ 64 = signBit .positive + p
  rw [infinityPattern, binade_eq] at hp
  rw [signBit]
  omega

/-- A sign and a pattern belong to one double only. -/
theorem IsDouble.ext (hx : IsDouble x s p) (hy : IsDouble y s p) : x = y := by
  have hbits : x.toBits = y.toBits :=
    UInt64.toNat_inj.1 (hx.toNat_toBits.trans hy.toNat_toBits.symm)
  obtain ⟨⟨bits, hvalid⟩⟩ := x
  obtain ⟨⟨bits', hvalid'⟩⟩ := y
  cases hbits
  rfl

theorem exists_signBit (x : Float) : ∃ s p, p < 2 ^ 63 ∧ x.toBits.toNat = signBit s + p := by
  have hbits := x.toBits.toNat_lt
  by_cases hsign : x.toBits.toNat < 2 ^ 63
  · exact ⟨.positive, x.toBits.toNat, hsign, (Nat.zero_add _).symm⟩
  · refine ⟨.negative, x.toBits.toNat - 2 ^ 63, by omega, ?_⟩
    rw [signBit]
    omega

/-- Patterns beyond infinity are NaN. -/
theorem exists_isDouble_or (x : Float) :
    (∃ s p, IsDouble x s p) ∨ x.toModel.unpack = .notANumber := by
  obtain ⟨s, p, hp, hbits⟩ := exists_signBit x
  by_cases hle : p ≤ infinityPattern
  · exact .inl ⟨s, p, hle, hbits⟩
  · exact .inr (unpack_eq_notANumber (Nat.not_le.1 hle) hp hbits)

/-! ## Comparisons -/

theorem IsDouble.compare_eq (hx : IsDouble x s p) (hy : IsDouble y t r) :
    x.toModel.unpack.compare y.toModel.unpack = some (compare (s.apply p) (t.apply r)) :=
  hx.hasPattern.compare_eq hy.hasPattern

theorem IsDouble.lt_iff (hx : IsDouble x s p) (hy : IsDouble y t r) :
    x < y ↔ s.apply p < t.apply r := by
  have hlt : x < y ↔ x.toModel.unpack.lt y.toModel.unpack = true := decide_eq_true_iff
  rw [hlt, UnpackedFloat.lt, hx.compare_eq hy, beq_iff_eq, Option.some_inj]
  exact compare_lt_iff_lt

/-- NaN is not less than anything. -/
theorem exists_isDouble_of_lt (h : x < y) : ∃ s p, IsDouble x s p := by
  refine (exists_isDouble_or x).resolve_right fun hnan => ?_
  have hlt : x.toModel.unpack.lt y.toModel.unpack = true := decide_eq_true_iff.1 h
  rw [UnpackedFloat.lt, hnan] at hlt
  cases hlt

theorem IsDouble.le_iff (hx : IsDouble x s p) (hy : IsDouble y t r) :
    x ≤ y ↔ s.apply p ≤ t.apply r := by
  have hle : x ≤ y ↔ x.toModel.unpack.le y.toModel.unpack = true := decide_eq_true_iff
  rw [hle, UnpackedFloat.le, hx.compare_eq hy, Option.any_some]
  exact Std.isLE_compare

theorem compare_notANumber (u : UnpackedFloat) : u.compare .notANumber = none := by
  cases u <;> rfl

theorem beq_eq_compare (x y : Float) :
    (x == y) = (x.toModel.unpack.compare y.toModel.unpack == some .eq) := rfl

theorem IsDouble.beq_iff (hx : IsDouble x s p) (hy : IsDouble y t r) :
    (x == y) = true ↔ s.apply p = t.apply r := by
  rw [beq_eq_compare, hx.compare_eq hy, beq_iff_eq, Option.some_inj]
  exact compare_eq_iff_eq

theorem HasPattern.abs (h : HasPattern u s p) : HasPattern u.abs .positive p := by
  cases h with
  | zero => exact .zero .positive
  | finite _ hpos hsteps hk hlast => exact .finite .positive hpos hsteps hk hlast
  | infinity => exact .infinity .positive

theorem IsDouble.abs (hx : IsDouble x s p) : IsDouble x.abs .positive p :=
  hx.hasPattern.abs.isDouble_pack

theorem HasPattern.neg (h : HasPattern u s p) : HasPattern u.neg (-s) p := by
  cases h with
  | zero => exact .zero (-s)
  | finite _ hpos hsteps hk hlast => exact .finite (-s) hpos hsteps hk hlast
  | infinity => exact .infinity (-s)

theorem IsDouble.neg (hx : IsDouble x s p) : IsDouble x.neg (-s) p :=
  hx.hasPattern.neg.isDouble_pack

theorem HasPattern.isNaN_eq (h : HasPattern u s p) : u.isNaN = false := by
  cases h <;> rfl

theorem IsDouble.isNaN_eq (hx : IsDouble x s p) : x.isNaN = false := hx.hasPattern.isNaN_eq

theorem HasPattern.isInf_iff (h : HasPattern u s p) : u.isInf = true ↔ p = infinityPattern := by
  cases h with
  | zero => exact iff_of_false Bool.false_ne_true (by decide)
  | finite _ hpos hsteps hk hlast =>
    exact iff_of_false Bool.false_ne_true (lt_infinityPattern hsteps hlast).ne
  | infinity => exact iff_of_true rfl rfl

theorem IsDouble.isInf_iff (hx : IsDouble x s p) : x.isInf = true ↔ p = infinityPattern :=
  hx.hasPattern.isInf_iff

theorem isDouble_zero : IsDouble 0 .positive 0 where
  le_infinityPattern := Nat.zero_le _
  toNat_toBits := by decide +kernel

theorem IsDouble.nonneg (hx : IsDouble x .positive p) : 0 ≤ x := by
  rw [isDouble_zero.le_iff hx, Sign.apply, Sign.apply]
  exact Int.ofNat_le.2 (Nat.zero_le p)

/-- The sign bit of a positive double is not set. -/
theorem IsDouble.toBits_lt (hx : IsDouble x .positive p) : x.toBits < 0x8000000000000000 := by
  have hle := hx.le_infinityPattern
  rw [infinityPattern, binade_eq] at hle
  rw [UInt64.lt_iff_toNat_lt, hx.toNat_toBits]
  show 0 + p < 0x8000000000000000
  omega

/-! ## Values -/

/-- The value of a finite number with a sign, a mantissa and an exponent. -/
def fieldsValue? : UnpackedFloat → Option ℚ
  | .zero _ => some 0
  | .finite s mantissa exponent _ => some ((s.apply mantissa : Int) * 2 ^ exponent)
  | .infinity _ => none
  | .notANumber => none

/-- The value of a finite double. -/
def value? (x : Float) : Option ℚ := fieldsValue? x.toModel.unpack

/-- The number with a sign and an absolute value. -/
def signed (s : Sign) (q : ℚ) : ℚ := (s.apply 1 : Int) * q

theorem signed_positive (q : ℚ) : signed .positive q = q := by
  unfold signed
  rw [Sign.apply, Int.cast_one, one_mul]

theorem signed_negative (q : ℚ) : signed .negative q = -q := by
  unfold signed
  rw [Sign.apply, Int.cast_neg, Int.cast_one, neg_one_mul]

theorem HasPattern.fieldsValue?_eq (h : HasPattern u s p) :
    fieldsValue? u = if p < infinityPattern then some (signed s (worth p)) else none := by
  cases h with
  | zero =>
    rw [if_pos (by decide), worth_zero, signed, mul_zero]
    rfl
  | @finite _ steps k hpos hsteps hk hlast =>
    rw [if_pos (lt_infinityPattern hsteps hlast), worth_add_mul (Nat.le_of_lt hsteps) hk]
    show some (((s.apply steps : Int) : ℚ) * 2 ^ ((k : Int) - 1074)) = _
    cases s
    · rw [signed_negative, Sign.apply, Int.cast_neg, Int.cast_natCast, neg_mul]
    · rw [signed_positive, Sign.apply, Int.cast_natCast]
  | infinity =>
    rw [if_neg (lt_irrefl _)]
    rfl

theorem IsDouble.value?_eq (hx : IsDouble x s p) (hp : p < infinityPattern) :
    value? x = some (signed s (worth p)) :=
  hx.hasPattern.fieldsValue?_eq.trans (if_pos hp)

/-- Only finite doubles have a value. -/
theorem exists_isDouble_of_value? {q : ℚ} (h : value? x = some q) :
    ∃ s p, IsDouble x s p ∧ p < infinityPattern ∧ q = signed s (worth p) := by
  obtain ⟨s, p, hx⟩ | hnan := exists_isDouble_or x
  · by_cases hp : p < infinityPattern
    · rw [hx.value?_eq hp] at h
      exact ⟨s, p, hx, hp, (Option.some.inj h).symm⟩
    · have hnone := hx.hasPattern.fieldsValue?_eq.trans (if_neg hp)
      rw [value?, hnone] at h
      cases h
  · rw [value?, hnan] at h
    cases h

/-! ## Correct rounding -/

/-- The double is the one that a number is correctly rounded to: no finite double is
nearer, and one that is as near leaves the last bit of the double zero.  From half way
between the largest finite double and `2 ^ 1024` on, numbers are rounded to infinity. -/
structure RoundsTo (q : ℚ) (x : Float) : Prop where
  nearest_of_lt : q < 2 ^ (1024 : Int) - 2 ^ (970 : Int) → ∃ v, value? x = some v ∧
    ∀ y w, value? y = some w → |q - v| ≤ |q - w| ∧
      (|q - v| = |q - w| → w = v ∨ x.toBits % 2 = 0)
  infinite_of_le : 2 ^ (1024 : Int) - 2 ^ (970 : Int) ≤ q → x.isInf = true ∧ 0 < x

variable {q : ℚ}

/-- Negative doubles are not nearer than zero. -/
theorem abs_sub_signed (hq : 0 ≤ q) (h : nearest q < infinityPattern) (t : Sign) (r : Nat) :
    |q - worth (nearest q)| ≤ |q - signed t (worth r)| ∧
      (|q - worth (nearest q)| = |q - signed t (worth r)| →
        signed t (worth r) = worth (nearest q) ∨ nearest q % 2 = 0) := by
  cases t with
  | positive =>
    obtain ⟨hle, htie⟩ := abs_sub_worth_nearest hq h r
    rw [signed_positive]
    refine ⟨hle, fun heq => ?_⟩
    rcases htie heq with rfl | heven
    · exact .inl rfl
    · exact .inr heven
  | negative =>
    obtain ⟨hle, htie⟩ := abs_sub_worth_nearest hq h 0
    have hworth := worth_nonneg r
    rw [worth_zero, sub_zero, abs_of_nonneg hq] at hle htie
    rw [signed_negative, sub_neg_eq_add, abs_of_nonneg (add_nonneg hq hworth)]
    refine ⟨by linarith, fun heq => ?_⟩
    have hzero : worth r = 0 := by linarith
    rcases htie (by linarith) with hnearest | heven
    · left
      rw [hzero, neg_zero, ← hnearest, worth_zero]
    · exact .inr heven

/-- The double with the nearest pattern is correctly rounded. -/
theorem IsDouble.roundsTo (hq : 0 ≤ q) (hx : IsDouble x .positive (nearest q)) :
    RoundsTo q x := by
  constructor
  · intro hlt
    have hp := (nearest_lt_iff hq).2 hlt
    refine ⟨worth (nearest q), ?_, fun y w hy => ?_⟩
    · rw [hx.value?_eq hp, signed_positive]
    · obtain ⟨t, r, -, -, rfl⟩ := exists_isDouble_of_value? hy
      obtain ⟨hle, htie⟩ := abs_sub_signed hq hp t r
      refine ⟨hle, fun heq => (htie heq).imp_right fun heven => ?_⟩
      apply UInt64.toNat_inj.1
      rw [UInt64.toNat_mod, hx.toNat_toBits, signBit, Nat.zero_add]
      exact heven
  · intro hle
    have hp : nearest q = infinityPattern := by
      have hlt := mt (nearest_lt_iff hq).1 (not_lt.2 hle)
      have hmax := hx.le_infinityPattern
      omega
    refine ⟨hx.isInf_iff.2 hp, (isDouble_zero.lt_iff hx).2 ?_⟩
    rw [hp]
    decide

end Reckoner.Double
