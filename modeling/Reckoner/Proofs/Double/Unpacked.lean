import Mathlib.Tactic.Ring
import Reckoner.Proofs.Double.Rounding

/-!
# The fields of a double

The logic computes with doubles by taking their words apart into a sign, a mantissa
and an exponent.  A double other than NaN is given by its sign and its pattern
(`HasPattern`): the word is the pattern with the sign bit before it, and the mantissa
and the exponent are the steps of the pattern and their size.
-/

namespace Reckoner.Double

open Float.Model (UnpackedFloat)
open Float.Model.UnpackedFloat (Sign)

variable {p r : Nat} {s t : Sign} {u v : UnpackedFloat}

/-! ## Fields of a word -/

/-- Words of 64 bits. -/
abbrev Word : Type := BitVec (Float.Model.Format.numBits .binary64)

/-- The sign as the leading bit of a word. -/
def signBit : Sign → Nat
  | .positive => 0
  | .negative => 2 ^ 63

theorem toNat_unpackMantissa (word : Word) :
    (UnpackedFloat.unpackMantissa word).toNat = word.toNat % binade := by
  unfold UnpackedFloat.unpackMantissa
  rw [BitVec.toNat_cast, BitVec.extractLsb_toNat]
  rfl

theorem toNat_unpackExponent (word : Word) :
    (UnpackedFloat.unpackExponent word).toNat = word.toNat / binade % 2048 := by
  unfold UnpackedFloat.unpackExponent
  rw [BitVec.toNat_cast, BitVec.extractLsb_toNat, Nat.shiftRight_eq_div_pow]
  rfl

theorem toNat_unpackSign (word : Word) :
    (UnpackedFloat.unpackSign word).toNat = word.toNat / 2 ^ 63 := by
  have hword : word.toNat < 2 ^ 64 := word.isLt
  unfold UnpackedFloat.unpackSign
  rw [BitVec.toNat_cast, BitVec.extractLsb_toNat, Nat.shiftRight_eq_div_pow]
  show word.toNat / 2 ^ 63 % 2 = _
  omega

theorem toNat_packComponents (s : Sign) (exponent : BitVec 11) (mantissa : BitVec 52) :
    (UnpackedFloat.packComponents .binary64 s exponent mantissa).toNat =
      signBit s + (exponent.toNat * binade + mantissa.toNat) := by
  have hexponent := exponent.isLt
  have hmantissa := mantissa.isLt
  unfold UnpackedFloat.packComponents
  rw [BitVec.toNat_append, BitVec.toNat_append,
    ← Nat.shiftLeft_add_eq_or_of_lt exponent.isLt, ← Nat.shiftLeft_add_eq_or_of_lt mantissa.isLt,
    Nat.shiftLeft_eq, Nat.shiftLeft_eq]
  show (s.toBitVec.toNat * 2 ^ 11 + exponent.toNat) * binade + mantissa.toNat = _
  rw [binade_eq]
  cases s <;> simp only [Sign.toBitVec, signBit, BitVec.toNat_ofNat] <;> omega

/-! ## Doubles with a sign and a pattern -/

/-- The unpacked double with a sign and a pattern. -/
inductive HasPattern : UnpackedFloat → Sign → Nat → Prop
  | zero (s : Sign) : HasPattern (.zero s) s 0
  | finite (s : Sign) {steps k : Nat} (hpos : 0 < steps) (hsteps : steps < 2 * binade)
      (hk : k = 0 ∨ binade ≤ steps) (hlast : k < 2046) :
      HasPattern (.finite s steps (k - 1074) hpos) s (steps + k * binade)
  | infinity (s : Sign) : HasPattern (.infinity s) s infinityPattern

theorem HasPattern.of_fields {mantissa k : Nat} {exponent : Int} (hpos : 0 < mantissa)
    (hsteps : mantissa < 2 * binade) (hk : k = 0 ∨ binade ≤ mantissa) (hlast : k < 2046)
    (hexponent : exponent = k - 1074) (hp : p = mantissa + k * binade) :
    HasPattern (.finite s mantissa exponent hpos) s p := by
  subst hexponent hp
  exact .finite s hpos hsteps hk hlast

theorem fields_eq {word : Word} (hp : p < 2 ^ 63) (hword : word.toNat = signBit s + p) :
    Sign.ofBitVec (UnpackedFloat.unpackSign word) = s ∧
      p = (UnpackedFloat.unpackExponent word).toNat * binade +
        (UnpackedFloat.unpackMantissa word).toNat := by
  constructor
  · have hbit := toNat_unpackSign word
    rw [hword] at hbit
    cases s with
    | positive =>
      refine if_pos (BitVec.eq_of_toNat_eq (hbit.trans ?_))
      show (0 + p) / 2 ^ 63 = 0
      omega
    | negative =>
      refine if_neg fun hzero => ?_
      rw [hzero] at hbit
      change 0 = (2 ^ 63 + p) / 2 ^ 63 at hbit
      omega
  · rw [toNat_unpackExponent, toNat_unpackMantissa, hword, binade_eq]
    cases s <;> rw [signBit] <;> omega

/-- Words that are not NaN are read as their patterns. -/
theorem hasPattern_unpack {word : Word} (hp : p ≤ infinityPattern)
    (hword : word.toNat = signBit s + p) :
    HasPattern (UnpackedFloat.unpack .binary64 word) s p := by
  have hlt : p < 2 ^ 63 := Nat.lt_of_le_of_lt hp (by decide)
  obtain ⟨hsign, rfl⟩ := fields_eq hlt hword
  have hmantissaLt : (UnpackedFloat.unpackMantissa word).toNat < binade := BitVec.isLt _
  have hexponentLt : (UnpackedFloat.unpackExponent word).toNat < 2048 := BitVec.isLt _
  unfold UnpackedFloat.unpack
  dsimp only
  rw [hsign]
  by_cases hall : UnpackedFloat.unpackExponent word = -1#11
  · have htop : (UnpackedFloat.unpackExponent word).toNat = 2047 := by
      rw [hall]
      rfl
    have hzero : (UnpackedFloat.unpackMantissa word).toNat = 0 := by
      rw [htop, infinityPattern] at hp
      omega
    rw [if_pos hall, if_pos (BitVec.eq_of_toNat_eq hzero), htop, hzero]
    exact .infinity s
  have htop : (UnpackedFloat.unpackExponent word).toNat ≠ 2047 := by
    intro h
    exact hall (BitVec.eq_of_toNat_eq h)
  rw [if_neg hall]
  by_cases hnone : UnpackedFloat.unpackExponent word = 0#11
  · have hfirst : (UnpackedFloat.unpackExponent word).toNat = 0 := by
      rw [hnone]
      rfl
    rw [if_pos hnone]
    by_cases hzero : UnpackedFloat.unpackMantissa word = 0#52
    · rw [dif_pos hzero, hfirst, hzero]
      exact .zero s
    · have hpos : 0 < (UnpackedFloat.unpackMantissa word).toNat :=
        Nat.pos_of_ne_zero fun h => hzero (BitVec.eq_of_toNat_eq h)
      rw [dif_neg hzero]
      refine .of_fields (k := 0) hpos (by omega) (.inl rfl) (by decide) ?_ (by rw [hfirst]; omega)
      rw [hfirst]
      rfl
  · have hfirst : (UnpackedFloat.unpackExponent word).toNat ≠ 0 := by
      intro h
      exact hnone (BitVec.eq_of_toNat_eq h)
    have happend : (1#1 ++ UnpackedFloat.unpackMantissa word).toNat =
        binade + (UnpackedFloat.unpackMantissa word).toNat := by
      rw [BitVec.toNat_append, ← Nat.shiftLeft_add_eq_or_of_lt (BitVec.isLt _)]
      rfl
    obtain ⟨k, hk⟩ := Nat.exists_eq_succ_of_ne_zero hfirst
    rw [if_neg hnone]
    rw [hk] at htop hexponentLt ⊢
    refine .of_fields (k := k) _ (by omega) (.inr (by omega)) (by omega) ?_ ?_
    · show ((k + 1 : Nat) : Int) - (1023 + 52) = _
      omega
    · rw [happend, Nat.succ_mul]
      omega

/-- Words beyond infinity are NaN. -/
theorem unpack_eq_notANumber {word : Word} (hp : infinityPattern < p) (hlt : p < 2 ^ 63)
    (hword : word.toNat = signBit s + p) :
    UnpackedFloat.unpack .binary64 word = .notANumber := by
  obtain ⟨-, hfields⟩ := fields_eq hlt hword
  have hmantissaLt : (UnpackedFloat.unpackMantissa word).toNat < binade := BitVec.isLt _
  rw [infinityPattern, binade_eq] at *
  have hexponent : UnpackedFloat.unpackExponent word = -1#11 := by
    apply BitVec.eq_of_toNat_eq
    show _ = 2047
    omega
  have hmantissa : UnpackedFloat.unpackMantissa word ≠ 0#52 := by
    intro hzero
    have hnone : (UnpackedFloat.unpackMantissa word).toNat = 0 := by
      rw [hzero]
      rfl
    have hall : (UnpackedFloat.unpackExponent word).toNat = 2047 := by
      rw [hexponent]
      rfl
    omega
  unfold UnpackedFloat.unpack
  dsimp only
  rw [if_pos hexponent, if_neg hmantissa]

/-! ## Packing -/

/-- Finite doubles are packed as their patterns, and as infinity if they are too
large. -/
theorem toNat_pack_finite {steps k : Nat} (s : Sign) (hpos : 0 < steps)
    (hsteps : steps < 2 * binade) (hk : k = 0 ∨ binade ≤ steps) :
    (UnpackedFloat.pack .binary64 (.finite s steps (k - 1074) hpos)).toNat =
      signBit s + min (steps + k * binade) infinityPattern := by
  have hexponent : (((k : Int) - 1074) + 1023 + 52).toNat = k + 1 := by omega
  unfold UnpackedFloat.pack
  dsimp only
  split
  · next hlarge =>
    change 2048 ≤ (((k : Int) - 1074) + 1023 + 52).toNat + 1 at hlarge
    rw [UnpackedFloat.packedInfinity, toNat_packComponents]
    have hinfinite : infinityPattern ≤ steps + k * binade := by
      rw [infinityPattern, binade_eq] at *
      omega
    rw [Nat.min_eq_right hinfinite]
    rfl
  · next hlarge =>
    change ¬ 2048 ≤ (((k : Int) - 1074) + 1023 + 52).toNat + 1 at hlarge
    have hfinite : steps + k * binade ≤ infinityPattern := by
      rw [infinityPattern, binade_eq] at *
      omega
    rw [Nat.min_eq_left hfinite]
    split
    · next hlog =>
      change steps.log2 + 1 = 53 at hlog
      have hnormal : binade ≤ steps := (Nat.le_log2 hpos.ne').1 (by omega)
      have hbiased : (BitVec.ofNat 11 (((k : Int) - 1074) + 1023 + 52).toNat).toNat = k + 1 := by
        rw [hexponent, BitVec.toNat_ofNat]
        exact Nat.mod_eq_of_lt (by omega)
      have hmantissa : (BitVec.ofNat 52 steps).toNat + binade = steps := by
        rw [BitVec.toNat_ofNat]
        change steps % binade + binade = steps
        rw [binade_eq] at *
        omega
      have hpack := toNat_packComponents s
        (BitVec.ofNat 11 (((k : Int) - 1074) + 1023 + 52).toNat) (BitVec.ofNat 52 steps)
      rw [hbiased] at hpack
      refine hpack.trans ?_
      rw [Nat.succ_mul]
      omega
    · next hlog =>
      change ¬ steps.log2 + 1 = 53 at hlog
      have hsubnormal : steps < binade := by
        by_contra hnormal
        have hlow : 52 ≤ steps.log2 := (Nat.le_log2 hpos.ne').2 (Nat.not_lt.1 hnormal)
        have hhigh : steps.log2 < 53 := (Nat.log2_lt hpos.ne').2 hsteps
        omega
      obtain rfl : k = 0 := by omega
      have hmantissa : (BitVec.ofNat 52 steps).toNat = steps := by
        rw [BitVec.toNat_ofNat]
        exact Nat.mod_eq_of_lt hsubnormal
      refine (toNat_packComponents s 0 (BitVec.ofNat 52 steps)).trans ?_
      rw [hmantissa]
      show signBit s + (0 * binade + steps) = _
      omega

theorem HasPattern.toNat_pack (h : HasPattern u s p) :
    (UnpackedFloat.pack .binary64 u).toNat = signBit s + p := by
  cases h with
  | zero s => exact toNat_packComponents s 0 0
  | finite s hpos hsteps hk hlast =>
    rw [toNat_pack_finite s hpos hsteps hk, Nat.min_eq_left]
    rw [infinityPattern, binade_eq] at *
    omega
  | infinity s => exact toNat_packComponents s (-1) 0

end Reckoner.Double
