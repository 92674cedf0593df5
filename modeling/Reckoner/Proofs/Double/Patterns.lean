import Mathlib.Order.Monotone.Basic
import Mathlib.Tactic.Positivity
import Mathlib.Tactic.Ring
import Reckoner.Double.Nearest

/-!
# Patterns and their units

A pattern is `steps + k * binade` with fewer than `2 ^ 53` steps, and with at least
`2 ^ 52` of them unless `k` is zero; it is worth `steps * 2 ^ k` units.  Larger
patterns are worth more (`unitsOf_strictMono`).

The pattern nearest to a quotient depends only on the value of the quotient
(`nearestPattern_congr`), it grows with it (`nearestPattern_mono`), it is the pattern
itself for what a pattern is worth (`nearestPattern_unitsOf`), and the points half
way to the patterns next to it enclose the quotient (`enclosed_nearestPattern`).  Infinity
takes part as if it were worth what its pattern says.
-/

namespace Reckoner.Double

variable {bits steps k n d c : Nat}

/-! ## What a pattern is worth -/

theorem binade_eq : binade = 4503599627370496 := rfl

/-- One is a power of two in units; the power itself is never computed. -/
theorem exists_unitsPerOne_eq : ∃ places, unitsPerOne = 2 ^ places := by
  unfold unitsPerOne
  generalize 1074 = places
  exact ⟨places, rfl⟩

theorem unitsPerOne_pos : 0 < unitsPerOne := by
  obtain ⟨places, hplaces⟩ := exists_unitsPerOne_eq
  rw [hplaces]
  exact Nat.two_pow_pos places

theorem unitsOf_zero : unitsOf 0 = 0 := by
  unfold unitsOf
  rw [if_pos (by decide)]

/-- What a pattern is worth: steps of `2 ^ k` units. -/
theorem unitsOf_add_mul (hsteps : steps ≤ 2 * binade) (hk : k = 0 ∨ binade ≤ steps) :
    unitsOf (steps + k * binade) = steps * 2 ^ k := by
  unfold unitsOf
  rw [binade_eq] at *
  by_cases hsmall : steps + k * 4503599627370496 < 4503599627370496
  · have hzero : k = 0 := by omega
    rw [if_pos hsmall, hzero]
    simp
  · rw [if_neg hsmall]
    by_cases hcarry : steps = 2 * 4503599627370496
    · have hrest : (steps + k * 4503599627370496) % 4503599627370496 = 0 := by omega
      have hk' : (steps + k * 4503599627370496) / 4503599627370496 - 1 = k + 1 := by
        omega
      rw [hrest, hk', hcarry]
      show _ * 2 ^ (k + 1) = _
      rw [Nat.pow_succ]
      ring
    · have hrest : (steps + k * 4503599627370496) % 4503599627370496 + 4503599627370496 =
          steps := by omega
      have hk' : (steps + k * 4503599627370496) / 4503599627370496 - 1 = k := by omega
      rw [hrest, hk']
      rfl

theorem exists_steps (bits : Nat) : ∃ steps k, steps < 2 * binade ∧
    (k = 0 ∨ binade ≤ steps) ∧ bits = steps + k * binade := by
  rw [binade_eq]
  by_cases hsmall : bits < 4503599627370496
  · exact ⟨bits, 0, by omega, .inl rfl, by omega⟩
  · exact ⟨bits % 4503599627370496 + 4503599627370496, bits / 4503599627370496 - 1, by omega,
      .inr (by omega), by omega⟩

theorem unitsOf_lt_succ (bits : Nat) : unitsOf bits < unitsOf (bits + 1) := by
  obtain ⟨steps, k, hsteps, hk, rfl⟩ := exists_steps bits
  have hnext : steps + k * binade + 1 = (steps + 1) + k * binade := by omega
  rw [hnext, unitsOf_add_mul (by omega) hk, unitsOf_add_mul (by omega) (by omega)]
  exact Nat.mul_lt_mul_of_pos_right (Nat.lt_succ_self steps) (Nat.two_pow_pos k)

theorem unitsOf_strictMono : StrictMono unitsOf := strictMono_nat_of_lt_succ unitsOf_lt_succ

/-! ## Rounded quotients -/

theorem roundDiv_mul_mul (n d : Nat) (hc : 0 < c) : roundDiv (n * c) (d * c) = roundDiv n d := by
  have hcompare : compare (2 * (n * c % (d * c))) (d * c) = compare (2 * (n % d)) d := by
    rw [Nat.mul_mod_mul_right, ← Nat.mul_assoc]
    simp only [Nat.compare_eq_ite_lt, Nat.mul_lt_mul_right hc]
  unfold roundDiv
  rw [Nat.mul_div_mul_right _ _ hc, hcompare]

/-- The three ways in which a quotient is rounded. -/
theorem roundDiv_cases (n d : Nat) :
    (2 * (n % d) < d ∧ roundDiv n d = n / d) ∨
    (2 * (n % d) = d ∧ roundDiv n d = n / d + n / d % 2) ∨
    (d < 2 * (n % d) ∧ roundDiv n d = n / d + 1) := by
  unfold roundDiv
  dsimp only
  split
  · next h => exact .inl ⟨Nat.compare_eq_lt.1 h, rfl⟩
  · next h => exact .inr (.inl ⟨Nat.compare_eq_eq.1 h, rfl⟩)
  · next h => exact .inr (.inr ⟨Nat.compare_eq_gt.1 h, rfl⟩)

/-- A rounded quotient is at most half of the divisor away, and it is even if it
is as far away as that. -/
theorem roundDiv_near (n : Nat) (hd : 0 < d) :
    2 * n ≤ 2 * (roundDiv n d * d) + d ∧ 2 * (roundDiv n d * d) ≤ 2 * n + d ∧
    (2 * n = 2 * (roundDiv n d * d) + d ∨ 2 * (roundDiv n d * d) = 2 * n + d →
      roundDiv n d % 2 = 0) := by
  have hdiv := Nat.div_add_mod' n d
  have hmod := Nat.mod_lt n hd
  have hcases := roundDiv_cases n d
  generalize n / d = floor at *
  generalize n % d = rest at *
  subst hdiv
  obtain ⟨h, hr⟩ | ⟨h, hr⟩ | ⟨h, hr⟩ := hcases
  · rw [hr]
    refine ⟨by omega, by omega, ?_⟩
    rintro (htie | htie) <;> omega
  · obtain hpar | hpar := Nat.mod_two_eq_zero_or_one floor
    · rw [hr, hpar, Nat.add_zero]
      exact ⟨by omega, by omega, fun _ => hpar⟩
    · rw [hr, hpar, Nat.add_mul, Nat.one_mul]
      exact ⟨by omega, by omega, fun _ => by omega⟩
  · rw [hr, Nat.add_mul, Nat.one_mul]
    refine ⟨by omega, by omega, ?_⟩
    rintro (htie | htie) <;> omega

theorem roundDiv_mono (d : Nat) {n n' : Nat} (h : n ≤ n') : roundDiv n d ≤ roundDiv n' d := by
  have hfloor : n / d ≤ n' / d := Nat.div_le_div_right h
  have hle := div_le_roundDiv n d
  have hle' := div_le_roundDiv n' d
  by_cases heq : n / d = n' / d
  · have hrest : n % d ≤ n' % d := by
      have hn := Nat.div_add_mod n d
      have hn' := Nat.div_add_mod n' d
      rw [heq] at hn
      omega
    have hcases := roundDiv_cases n d
    have hcases' := roundDiv_cases n' d
    rw [heq] at hcases
    generalize n % d = rest at *
    generalize n' % d = rest' at *
    omega
  · omega

/-! ## Nearest patterns -/

/-- The steps that quotients like `n / d` are rounded to are `2 ^ level` units. -/
def level (n d : Nat) : Nat := (n * unitsPerOne / d).log2 - 52

/-- The quotient `n / d` rounded to a whole number of its steps. -/
def stepsOf (n d : Nat) : Nat := roundDiv (n * unitsPerOne) (d * 2 ^ level n d)

theorem nearestPattern_eq (n d : Nat) :
    nearestPattern n d = min (stepsOf n d + level n d * binade) infinityPattern := by
  unfold nearestPattern stepsOf level
  rfl

/-- A quotient has fewer than `2 ^ 53` steps, and at least `2 ^ 52` of them unless
the steps are the smallest ones. -/
theorem level_bounds (n : Nat) (hd : 0 < d) :
    n * unitsPerOne < 2 * binade * (d * 2 ^ level n d) ∧
    (level n d = 0 ∨ binade * (d * 2 ^ level n d) ≤ n * unitsPerOne) := by
  have hlog : level n d = (n * unitsPerOne / d).log2 - 52 := rfl
  generalize n * unitsPerOne = units at *
  generalize level n d = k at *
  constructor
  · have hlt : units / d < 2 ^ (53 + k) :=
      Nat.lt_of_lt_of_le Nat.lt_log2_self (Nat.pow_le_pow_right (by decide) (by omega))
    rw [Nat.div_lt_iff_lt_mul hd, Nat.pow_add] at hlt
    calc units < 2 ^ 53 * 2 ^ k * d := hlt
      _ = 2 * binade * (d * 2 ^ k) := by rw [binade_eq]; ring
  · by_cases hk : k = 0
    · exact .inl hk
    · have hne : units / d ≠ 0 := by
        intro h
        rw [h, Nat.log2_zero] at hlog
        omega
      have hle : 2 ^ (52 + k) ≤ units / d :=
        (Nat.le_log2 hne).1 (by omega)
      rw [Nat.le_div_iff_mul_le hd, Nat.pow_add] at hle
      right
      calc binade * (d * 2 ^ k) = 2 ^ 52 * 2 ^ k * d := by rw [binade_eq]; ring
        _ ≤ units := hle

theorem step_pos (n : Nat) (hd : 0 < d) : 0 < d * 2 ^ level n d :=
  Nat.mul_pos hd (Nat.two_pow_pos _)

/-- The rounded quotient is the steps of a pattern. -/
theorem stepsOf_bounds (n : Nat) (hd : 0 < d) :
    stepsOf n d ≤ 2 * binade ∧ (level n d = 0 ∨ binade ≤ stepsOf n d) := by
  have hstep := step_pos n hd
  obtain ⟨hlt, hle⟩ := level_bounds n hd
  obtain ⟨hfloor, hceil⟩ := div_le_roundDiv (n * unitsPerOne) (d * 2 ^ level n d)
  unfold stepsOf
  constructor
  · have h := (Nat.div_lt_iff_lt_mul hstep).2 hlt
    omega
  · rcases hle with hzero | hle
    · exact .inl hzero
    · have h := (Nat.le_div_iff_mul_le hstep).2 hle
      exact .inr (by omega)

/-- Only the value of the quotient matters. -/
theorem nearestPattern_mul_mul (n d : Nat) (hc : 0 < c) :
    nearestPattern (n * c) (d * c) = nearestPattern n d := by
  have hunits : n * c * unitsPerOne = n * unitsPerOne * c := by ring
  have hlevel : level (n * c) (d * c) = level n d := by
    unfold level
    rw [hunits, Nat.mul_div_mul_right _ _ hc]
  have hsteps : stepsOf (n * c) (d * c) = stepsOf n d := by
    unfold stepsOf
    rw [hlevel, hunits, Nat.mul_right_comm d, roundDiv_mul_mul _ _ hc]
  rw [nearestPattern_eq, nearestPattern_eq, hlevel, hsteps]

/-- Equal quotients have the same pattern. -/
theorem nearestPattern_congr {n' d' : Nat} (hd : 0 < d) (hd' : 0 < d') (h : n * d' = n' * d) :
    nearestPattern n d = nearestPattern n' d' := by
  rw [← nearestPattern_mul_mul n d hd', ← nearestPattern_mul_mul n' d' hd, h, Nat.mul_comm d]

theorem level_mono (d : Nat) {n n' : Nat} (h : n ≤ n') : level n d ≤ level n' d := by
  have hunits : n * unitsPerOne / d ≤ n' * unitsPerOne / d :=
    Nat.div_le_div_right (Nat.mul_le_mul_right _ h)
  unfold level
  generalize n * unitsPerOne / d = units at *
  generalize n' * unitsPerOne / d = units' at *
  by_cases hzero : units = 0
  · rw [hzero, Nat.log2_zero]
    omega
  · have hle : units.log2 ≤ units'.log2 :=
      (Nat.le_log2 (by omega)).2 (Nat.le_trans (Nat.log2_self_le hzero) hunits)
    omega

/-- Larger quotients have larger patterns. -/
theorem nearestPattern_mono (hd : 0 < d) {n n' : Nat} (h : n ≤ n') :
    nearestPattern n d ≤ nearestPattern n' d := by
  have hlevel := level_mono d h
  have hsteps : stepsOf n d + level n d * binade ≤ stepsOf n' d + level n' d * binade := by
    by_cases heq : level n d = level n' d
    · unfold stepsOf
      rw [heq]
      exact Nat.add_le_add_right (roundDiv_mono _ (Nat.mul_le_mul_right _ h)) _
    · -- a larger level starts where the smaller one ends
      have hlow := (stepsOf_bounds n hd).1
      have hhigh := (stepsOf_bounds n' hd).2
      rw [binade_eq] at *
      omega
  rw [nearestPattern_eq, nearestPattern_eq]
  exact min_le_min_right _ hsteps

/-- Quotients are compared by cross-multiplication. -/
theorem nearestPattern_le_of_mul_le {n' d' : Nat} (hd : 0 < d) (hd' : 0 < d')
    (h : n * d' ≤ n' * d) : nearestPattern n d ≤ nearestPattern n' d' := by
  rw [← nearestPattern_mul_mul n d hd', ← nearestPattern_mul_mul n' d' hd, Nat.mul_comm d' d]
  exact nearestPattern_mono (Nat.mul_pos hd hd') h

theorem log2_mul_two_pow (hn : n ≠ 0) (k : Nat) : (n * 2 ^ k).log2 = n.log2 + k := by
  have hpos : n * 2 ^ k ≠ 0 := Nat.mul_ne_zero hn (Nat.two_pow_pos k).ne'
  rw [Nat.log2_eq_iff hpos, Nat.pow_add, Nat.add_right_comm, Nat.pow_add]
  exact ⟨Nat.mul_le_mul_right _ (Nat.log2_self_le hn),
    Nat.mul_lt_mul_of_pos_right Nat.lt_log2_self (Nat.two_pow_pos k)⟩

theorem level_unitsPerOne (n : Nat) : level n unitsPerOne = n.log2 - 52 := by
  unfold level
  rw [Nat.mul_div_cancel n unitsPerOne_pos]

theorem stepsOf_unitsPerOne (n : Nat) :
    stepsOf n unitsPerOne = roundDiv n (2 ^ level n unitsPerOne) := by
  unfold stepsOf
  rw [Nat.mul_comm unitsPerOne, roundDiv_mul_mul n _ unitsPerOne_pos]

/-- A pattern is the nearest one to what it is worth. -/
theorem nearestPattern_unitsOf (h : bits ≤ infinityPattern) :
    nearestPattern (unitsOf bits) unitsPerOne = bits := by
  obtain ⟨steps, k, hsteps, hk, rfl⟩ := exists_steps bits
  have hunits := unitsOf_add_mul (Nat.le_of_lt hsteps) hk
  have hlevel : level (unitsOf (steps + k * binade)) unitsPerOne = k := by
    rw [level_unitsPerOne, hunits]
    by_cases hzero : steps = 0
    · have hk0 : k = 0 := by
        rw [binade_eq] at hk
        omega
      rw [hzero, hk0]
      rfl
    · have hlt : steps.log2 < 53 := (Nat.log2_lt hzero).2 hsteps
      rw [log2_mul_two_pow hzero]
      rcases hk with rfl | hk
      · omega
      · have hle : 52 ≤ steps.log2 := (Nat.le_log2 hzero).2 hk
        omega
  have hrounded : stepsOf (unitsOf (steps + k * binade)) unitsPerOne = steps := by
    rw [stepsOf_unitsPerOne, hlevel, hunits, roundDiv_mul_right _ (Nat.two_pow_pos k)]
  rw [nearestPattern_eq, hlevel, hrounded]
  exact Nat.min_eq_left h

/-- What the pattern nearest to a whole number of units is worth. -/
theorem unitsOf_nearestPattern (h : nearestPattern n unitsPerOne < infinityPattern) :
    unitsOf (nearestPattern n unitsPerOne) =
      roundDiv n (2 ^ (n.log2 - 52)) * 2 ^ (n.log2 - 52) := by
  obtain ⟨hsteps, hk⟩ := stepsOf_bounds n unitsPerOne_pos
  rw [nearestPattern_eq] at h ⊢
  rw [Nat.min_eq_left (by omega), unitsOf_add_mul hsteps hk, stepsOf_unitsPerOne, level_unitsPerOne]

/-! ## Half way to other patterns -/

/-- A quotient is on the near side of the point half way from a pattern to any other
one, or at that point if the pattern is even. -/
structure Enclosed (n d bits : Nat) : Prop where
  upper : ∀ {more}, bits < more → 2 * (n * unitsPerOne) ≤ (unitsOf bits + unitsOf more) * d ∧
    (2 * (n * unitsPerOne) = (unitsOf bits + unitsOf more) * d → bits % 2 = 0)
  lower : ∀ {less}, less < bits → (unitsOf less + unitsOf bits) * d ≤ 2 * (n * unitsPerOne) ∧
    ((unitsOf less + unitsOf bits) * d = 2 * (n * unitsPerOne) → bits % 2 = 0)

/-- The next pattern is worth at least one step more. -/
theorem mul_le_unitsOf_succ (hsteps : steps ≤ 2 * binade) (hk : k = 0 ∨ binade ≤ steps) :
    (steps + 1) * 2 ^ k ≤ unitsOf (steps + k * binade + 1) := by
  by_cases hfull : steps = 2 * binade
  · have hnext : steps + k * binade + 1 = (binade + 1) + (k + 1) * binade := by
      rw [hfull]
      ring
    rw [hnext, unitsOf_add_mul (by rw [binade_eq]; decide) (by omega), hfull, Nat.pow_succ,
      binade_eq]
    omega
  · have hnext : steps + k * binade + 1 = (steps + 1) + k * binade := by omega
    rw [hnext, unitsOf_add_mul (by omega) (by omega)]

/-- A smaller pattern is worth at least one step less, unless the steps below are
smaller. -/
theorem unitsOf_add_le {less : Nat} (hsteps : steps ≤ 2 * binade) (hk : k = 0 ∨ binade < steps)
    (hless : less < steps + k * binade) : unitsOf less + 2 ^ k ≤ steps * 2 ^ k := by
  obtain ⟨before, rfl⟩ : ∃ before, steps = before + 1 := by
    refine ⟨steps - 1, ?_⟩
    rw [binade_eq] at *
    omega
  have hworth : unitsOf (before + k * binade) = before * 2 ^ k :=
    unitsOf_add_mul (by omega) (by omega)
  have hmono : unitsOf less ≤ unitsOf (before + k * binade) :=
    unitsOf_strictMono.monotone (by omega)
  rw [Nat.succ_mul, ← hworth]
  omega

/-- The rounded quotient, before it is cut off at infinity, encloses the quotient. -/
theorem enclosed_stepsOf (n : Nat) (hd : 0 < d) :
    Enclosed n d (stepsOf n d + level n d * binade) := by
  obtain ⟨hsteps, hk⟩ := stepsOf_bounds n hd
  have hnear := roundDiv_near (n * unitsPerOne) (step_pos n hd)
  have hfloor := (level_bounds n hd).2
  have hstepsOf : roundDiv (n * unitsPerOne) (d * 2 ^ level n d) = stepsOf n d := rfl
  rw [hstepsOf] at hnear
  have hworth := unitsOf_add_mul hsteps hk
  have heven : (stepsOf n d + level n d * binade) % 2 = stepsOf n d % 2 := by
    rw [binade_eq]
    omega
  generalize stepsOf n d = s at *
  generalize level n d = k at *
  have hstep : s * 2 ^ k * d = s * (d * 2 ^ k) := by ring
  refine ⟨fun {more} hmore => ?_, fun {less} hless => ?_⟩
  · have hnext : (s + 1) * 2 ^ k * d ≤ unitsOf more * d :=
      Nat.mul_le_mul_right d (Nat.le_trans (mul_le_unitsOf_succ hsteps hk)
        (unitsOf_strictMono.monotone hmore))
    rw [Nat.add_mul, Nat.add_mul, Nat.one_mul, Nat.mul_comm (2 ^ k) d, hstep] at hnext
    rw [heven, hworth, Nat.add_mul, hstep]
    refine ⟨by omega, fun htie => hnear.2.2 (.inl ?_)⟩
    omega
  · have hbefore : unitsOf less * d + d * 2 ^ k ≤ s * (d * 2 ^ k) ∨
        s * (d * 2 ^ k) ≤ n * unitsPerOne ∧ unitsOf less * d < s * (d * 2 ^ k) := by
      by_cases hfirst : k = 0 ∨ binade < s
      · left
        have hle := Nat.mul_le_mul_right d (unitsOf_add_le hsteps hfirst hless)
        rwa [Nat.add_mul, Nat.mul_comm (2 ^ k) d, hstep] at hle
      · -- the steps below a binade are smaller, but the quotient is not below it
        right
        obtain rfl : s = binade := by omega
        refine ⟨hfloor.resolve_left (by omega), ?_⟩
        rw [← hstep, ← hworth]
        exact Nat.mul_lt_mul_of_pos_right (unitsOf_strictMono hless) hd
    rw [heven, hworth, Nat.add_mul, hstep]
    refine ⟨by omega, fun htie => hnear.2.2 (.inr ?_)⟩
    omega

/-- The nearest finite pattern encloses the quotient. -/
theorem enclosed_nearestPattern (hd : 0 < d) (h : nearestPattern n d < infinityPattern) :
    Enclosed n d (nearestPattern n d) := by
  have henclosed := enclosed_stepsOf n hd
  rw [nearestPattern_eq] at *
  rwa [Nat.min_eq_left (Nat.le_of_lt (by omega))]

/-- Quotients are rounded to infinity from half way between the largest finite pattern
and infinity on. -/
theorem nearestPattern_lt_iff (hd : 0 < d) : nearestPattern n d < infinityPattern ↔
    2 * (n * unitsPerOne) < (unitsOf (infinityPattern - 1) + unitsOf infinityPattern) * d := by
  have henclosed := enclosed_stepsOf n hd
  rw [nearestPattern_eq]
  generalize stepsOf n d + level n d * binade = bits at *
  constructor
  · intro h
    have hbits : bits < infinityPattern := by omega
    obtain ⟨hle, htie⟩ := henclosed.upper hbits
    by_cases hlast : bits = infinityPattern - 1
    · rw [← hlast]
      refine Nat.lt_of_le_of_ne hle fun heq => ?_
      have heven := htie heq
      rw [hlast] at heven
      exact absurd heven (by decide)
    · refine Nat.lt_of_le_of_lt hle (Nat.mul_lt_mul_of_pos_right ?_ hd)
      exact Nat.add_lt_add_right (unitsOf_strictMono (by omega)) _
  · intro h
    by_contra hinfinite
    have hbits : infinityPattern ≤ bits := by omega
    have hlast : infinityPattern - 1 < infinityPattern := by decide
    have hle := (henclosed.lower (Nat.lt_of_lt_of_le hlast hbits)).1
    have hmore : (unitsOf (infinityPattern - 1) + unitsOf infinityPattern) * d ≤
        (unitsOf (infinityPattern - 1) + unitsOf bits) * d :=
      Nat.mul_le_mul_right d (Nat.add_le_add_left (unitsOf_strictMono.monotone hbits) _)
    omega

end Reckoner.Double
