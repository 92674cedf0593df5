import Mathlib.Algebra.Order.Field.Basic
import Mathlib.Data.Rat.Lemmas
import Mathlib.Tactic.FieldSimp
import Mathlib.Tactic.Linarith
import Reckoner.Proofs.Double.Patterns

/-!
# Rounding a rational number

What a pattern is worth as a rational number (`worth`), and the pattern nearest to a
rational number that is not negative (`nearest`).  No pattern is nearer than the
nearest one, and none is equally near unless the nearest one is even
(`abs_sub_worth_nearest`).  Numbers are rounded to infinity from half way between the
largest finite double and `2 ^ 1024` on (`nearest_lt_iff`).
-/

namespace Reckoner.Double

variable {bits more less n d : Nat} {q r : ℚ}

/-! ## Rational numbers and quotients -/

/-- The value of the finite double with pattern `bits`. -/
def worth (bits : Nat) : ℚ := unitsOf bits / unitsPerOne

/-- The pattern of the double nearest to a number. -/
def nearest (q : ℚ) : Nat := nearestPattern q.num.toNat q.den

theorem cast_unitsPerOne_pos : (0 : ℚ) < unitsPerOne := Nat.cast_pos.2 unitsPerOne_pos

theorem cast_two_pow (places : Nat) : ((Nat.pow 2 places : Nat) : ℚ) = 2 ^ (places : Int) := by
  rw [zpow_natCast]
  exact Nat.cast_pow 2 places

theorem cast_unitsPerOne : (unitsPerOne : ℚ) = 2 ^ (1074 : Int) := by
  unfold unitsPerOne
  -- the power itself is never computed
  generalize hplaces : 1074 = places
  rw [cast_two_pow, ← hplaces, Nat.cast_ofNat]

theorem exists_quotient (hq : 0 ≤ q) : ∃ n d : Nat, 0 < d ∧ q = (n : ℚ) / d := by
  refine ⟨q.num.toNat, q.den, q.den_pos, ?_⟩
  have hnum : ((q.num.toNat : Int) : ℚ) = q.num := by
    rw [Int.toNat_of_nonneg (Rat.num_nonneg.2 hq)]
  rw [← Int.cast_natCast q.num.toNat, hnum, Rat.num_div_den]

theorem nearest_div (n : Nat) (hd : 0 < d) : nearest ((n : ℚ) / d) = nearestPattern n d := by
  have hcast : (0 : ℚ) < d := Nat.cast_pos.2 hd
  have hq : (0 : ℚ) ≤ (n : ℚ) / d := div_nonneg (Nat.cast_nonneg n) hcast.le
  generalize hvalue : (n : ℚ) / d = q at *
  have hnum : ((q.num.toNat : Int) : ℚ) = q.num := by
    rw [Int.toNat_of_nonneg (Rat.num_nonneg.2 hq)]
  have hden : (0 : ℚ) < q.den := Nat.cast_pos.2 q.den_pos
  refine nearestPattern_congr q.den_pos hd ?_
  have hcross : (q.num.toNat : ℚ) * d = n * q.den := by
    rw [← div_eq_div_iff hden.ne' hcast.ne', hvalue, ← Int.cast_natCast q.num.toNat, hnum,
      Rat.num_div_den]
  exact_mod_cast hcross

theorem nearest_natCast (n : Nat) : nearest n = nearestPattern n 1 := by
  have hdiv := nearest_div n one_pos
  rwa [Nat.cast_one, div_one] at hdiv

/-! ## Order -/

theorem worth_nonneg (bits : Nat) : 0 ≤ worth bits :=
  div_nonneg (Nat.cast_nonneg _) cast_unitsPerOne_pos.le

theorem worth_zero : worth 0 = 0 := by
  unfold worth
  rw [unitsOf_zero, Nat.cast_zero, zero_div]

theorem worth_one : worth 1 = (unitsPerOne : ℚ)⁻¹ := by
  unfold worth unitsOf
  rw [if_pos (by decide), Nat.cast_one, one_div]

theorem worth_strictMono : StrictMono worth := by
  intro a b h
  unfold worth
  exact div_lt_div_of_pos_right (Nat.cast_lt.2 (unitsOf_strictMono h)) cast_unitsPerOne_pos

/-- Larger numbers have larger patterns. -/
theorem nearest_mono (hq : 0 ≤ q) (h : q ≤ r) : nearest q ≤ nearest r := by
  obtain ⟨n, d, hd, rfl⟩ := exists_quotient hq
  obtain ⟨n', d', hd', rfl⟩ := exists_quotient (hq.trans h)
  rw [div_le_div_iff₀ (Nat.cast_pos.2 hd) (Nat.cast_pos.2 hd')] at h
  rw [nearest_div n hd, nearest_div n' hd']
  exact nearestPattern_le_of_mul_le hd hd' (by exact_mod_cast h)

/-- A pattern is the nearest one to what it is worth. -/
theorem nearest_worth (h : bits ≤ infinityPattern) : nearest (worth bits) = bits := by
  unfold worth
  rw [nearest_div _ unitsPerOne_pos, nearestPattern_unitsOf h]

theorem nearest_zero : nearest 0 = 0 := by
  have h := nearest_worth (Nat.zero_le infinityPattern)
  rwa [worth_zero] at h

theorem nearest_le (q : ℚ) : nearest q ≤ infinityPattern := nearestPattern_le _ _

/-! ## Distances -/

theorem nearest_upper (hq : 0 ≤ q) (h : nearest q < infinityPattern) (hmore : nearest q < more) :
    2 * q ≤ worth (nearest q) + worth more ∧
      (2 * q = worth (nearest q) + worth more → nearest q % 2 = 0) := by
  obtain ⟨n, d, hd, rfl⟩ := exists_quotient hq
  have hunits := cast_unitsPerOne_pos
  have hcast : (0 : ℚ) < d := Nat.cast_pos.2 hd
  rw [nearest_div n hd] at *
  obtain ⟨hle, htie⟩ := (enclosed_nearestPattern hd h).upper hmore
  unfold worth
  rw [← add_div, mul_div_assoc', div_le_div_iff₀ hcast hunits, div_eq_div_iff hcast.ne' hunits.ne']
  refine ⟨?_, fun heq => htie ?_⟩
  · rw [mul_assoc]
    exact_mod_cast hle
  · rw [mul_assoc] at heq
    exact_mod_cast heq

theorem nearest_lower (hq : 0 ≤ q) (h : nearest q < infinityPattern) (hless : less < nearest q) :
    worth less + worth (nearest q) ≤ 2 * q ∧
      (worth less + worth (nearest q) = 2 * q → nearest q % 2 = 0) := by
  obtain ⟨n, d, hd, rfl⟩ := exists_quotient hq
  have hunits := cast_unitsPerOne_pos
  have hcast : (0 : ℚ) < d := Nat.cast_pos.2 hd
  rw [nearest_div n hd] at *
  obtain ⟨hle, htie⟩ := (enclosed_nearestPattern hd h).lower hless
  unfold worth
  rw [← add_div, mul_div_assoc', div_le_div_iff₀ hunits hcast, div_eq_div_iff hunits.ne' hcast.ne']
  refine ⟨?_, fun heq => htie ?_⟩
  · rw [mul_assoc 2]
    exact_mod_cast hle
  · rw [mul_assoc 2] at heq
    exact_mod_cast heq

/-- **No pattern is nearer than the nearest one**, and another one that is as near
leaves the nearest one even. -/
theorem abs_sub_worth_nearest (hq : 0 ≤ q) (h : nearest q < infinityPattern) (other : Nat) :
    |q - worth (nearest q)| ≤ |q - worth other| ∧
      (|q - worth (nearest q)| = |q - worth other| → other = nearest q ∨ nearest q % 2 = 0) := by
  rcases Nat.lt_trichotomy other (nearest q) with hless | rfl | hmore
  · obtain ⟨hle, htie⟩ := nearest_lower hq h hless
    have hlt := worth_strictMono hless
    have habs : |q - worth other| = q - worth other := abs_of_nonneg (by linarith)
    rw [habs]
    refine ⟨abs_le.2 ⟨by linarith, by linarith⟩, fun heq => .inr (htie ?_)⟩
    rcases abs_choice (q - worth (nearest q)) with hside | hside <;> linarith
  · exact ⟨le_rfl, fun _ => .inl rfl⟩
  · obtain ⟨hle, htie⟩ := nearest_upper hq h hmore
    have hlt := worth_strictMono hmore
    have habs : |q - worth other| = worth other - q := by
      rw [abs_of_nonpos (by linarith), neg_sub]
    rw [habs]
    refine ⟨abs_le.2 ⟨by linarith, by linarith⟩, fun heq => .inr (htie ?_)⟩
    rcases abs_choice (q - worth (nearest q)) with hside | hside <;> linarith

/-! ## The range of doubles -/

/-- A step of a pattern is worth a power of two. -/
theorem worth_add_mul {steps k : Nat} (hsteps : steps ≤ 2 * binade)
    (hk : k = 0 ∨ binade ≤ steps) :
    worth (steps + k * binade) = steps * 2 ^ ((k : Int) - 1074) := by
  have hstep : ((2 ^ k : Nat) : ℚ) = 2 ^ (k : Int) := cast_two_pow k
  unfold worth
  rw [unitsOf_add_mul hsteps hk, cast_unitsPerOne, zpow_sub₀ two_ne_zero, Nat.cast_mul, hstep,
    mul_div_assoc]

theorem worth_infinityPattern : worth infinityPattern = 2 ^ (1024 : Int) := by
  have hbinade : (binade : ℚ) = 2 ^ (52 : Int) := cast_two_pow 52
  have hworth := worth_add_mul (k := 2046) (Nat.le_mul_of_pos_left binade two_pos) (.inr le_rfl)
  rw [hbinade, ← zpow_add₀ two_ne_zero] at hworth
  exact hworth

/-- The largest finite double. -/
theorem worth_pred_infinityPattern :
    worth (infinityPattern - 1) = 2 ^ (1024 : Int) - 2 ^ (971 : Int) := by
  have hbinade : ((2 * binade : Nat) : ℚ) = 2 ^ (53 : Int) := cast_two_pow 53
  have hworth : worth (2 * binade - 1 + 2045 * binade) = _ :=
    worth_add_mul (Nat.sub_le _ _) (.inr (by decide))
  rw [Nat.cast_sub (by decide), hbinade, Nat.cast_one, sub_mul, one_mul,
    ← zpow_add₀ two_ne_zero] at hworth
  exact hworth

/-- **Numbers are finite doubles up to half way between the largest one and
`2 ^ 1024`.** -/
theorem nearest_lt_iff (hq : 0 ≤ q) :
    nearest q < infinityPattern ↔ q < 2 ^ (1024 : Int) - 2 ^ (970 : Int) := by
  have hhalf : worth (infinityPattern - 1) + worth infinityPattern =
      2 * (2 ^ (1024 : Int) - 2 ^ (970 : Int)) := by
    have hstep : (2 : ℚ) ^ (971 : Int) = 2 * 2 ^ (970 : Int) := by
      rw [← zpow_one_add₀ two_ne_zero]
      rfl
    rw [worth_pred_infinityPattern, worth_infinityPattern, hstep]
    generalize (2 : ℚ) ^ (1024 : Int) = top
    ring
  obtain ⟨n, d, hd, rfl⟩ := exists_quotient hq
  have hunits := cast_unitsPerOne_pos
  have hcast : (0 : ℚ) < d := Nat.cast_pos.2 hd
  have htwo : (0 : ℚ) < 2 := two_pos
  have hdouble : (2 : ℚ) * ((n * unitsPerOne : Nat) : ℚ) = (2 * (n * unitsPerOne) : Nat) := by
    rw [Nat.cast_mul 2, Nat.cast_ofNat]
  rw [nearest_div n hd, nearestPattern_lt_iff hd, ← mul_lt_mul_iff_right₀ htwo, ← hhalf]
  unfold worth
  rw [← add_div, mul_div_assoc', div_lt_div_iff₀ hcast hunits, mul_assoc 2, ← Nat.cast_add,
    ← Nat.cast_mul, ← Nat.cast_mul, hdouble, Nat.cast_lt]

/-- Infinity is the nearest from its own worth on. -/
theorem nearest_of_two_pow_le (h : 2 ^ (1024 : Int) ≤ q) : nearest q = infinityPattern := by
  refine Nat.le_antisymm (nearest_le q) ?_
  have hmono : nearest (worth infinityPattern) ≤ nearest q := by
    refine nearest_mono (worth_nonneg _) ?_
    rwa [worth_infinityPattern]
  rwa [nearest_worth le_rfl] at hmono

/-- What is less than half of the smallest positive double is rounded to zero. -/
theorem nearest_of_two_mul_lt (hq : 0 ≤ q) (h : 2 * q < worth 1) : nearest q = 0 := by
  have hone : nearest q ≤ 1 := by
    have hmono : nearest q ≤ nearest (worth 1) := nearest_mono hq (by linarith)
    rwa [nearest_worth (by decide)] at hmono
  have hfinite : nearest q < infinityPattern := Nat.lt_of_le_of_lt hone (by decide)
  by_contra hne
  have hlower := (nearest_lower hq hfinite (Nat.pos_of_ne_zero hne)).1
  have heq : nearest q = 1 := by omega
  rw [heq, worth_zero] at hlower
  linarith

end Reckoner.Double
