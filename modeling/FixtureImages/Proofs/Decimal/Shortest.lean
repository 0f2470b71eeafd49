import FixtureImages.Proofs.Decimal.Rounding
import Mathlib.Tactic.NormNum

/-!
# The shortest decimal reads back

A decimal is taken only if the number owns it, so what matters is that one is found: the grid of
seventeen digits is so fine that the multiple nearest to the number lies in its interval.
-/

namespace FixtureImages.Binary64

set_option autoImplicit false

theorem ten_power_pos (exponent : Int) : (0 : ℚ) < 10 ^ exponent := zpow_pos (by norm_num) exponent

theorem ten_power_le {low high : Int} (le : low ≤ high) : (10 : ℚ) ^ low ≤ 10 ^ high :=
  zpow_le_zpow_right₀ (by norm_num) le

theorem ten_power_spec (exponent : Int) :
    0 < (tenPower exponent).2 ∧
      ((tenPower exponent).1 : ℚ) / (tenPower exponent).2 = 10 ^ exponent := by
  cases exponent with
  | ofNat up => simp [tenPower]
  | negSucc down =>
      refine ⟨Nat.pow_pos (by decide), ?_⟩
      simp only [tenPower, nat_power, zpow_negSucc]
      push_cast
      rw [one_div]

/-- The rational that a decimal stands for. -/
def Decimal.amount (decimal : Decimal) : ℚ := decimal.digits * 10 ^ decimal.scale

/-! ## The leading digit -/

/-- The ratio 30103 / 100000 is so close to the logarithm of two that over the binades of the format
the guess is too great by less than two. -/
theorem guess_bound : ∀ n < 1100, 2 * 10 ^ (n * 30103 / 100000) ≤ 100 * 2 ^ n ∧
    2 * 2 ^ n ≤ 100 * 10 ^ (n * 30103 / 100000) := by
  decide +kernel

theorem guess_power_le {binades : Int} (low : -1099 ≤ binades) (high : binades < 1100) :
    (10 : ℚ) ^ (binades * 30103 / 100000 - 2) ≤ 2 ^ binades / 2 := by
  rcases Int.le_total 0 binades with up | down
  · obtain ⟨n, rfl⟩ := Int.eq_ofNat_of_zero_le up
    have guess : (n : Int) * 30103 / 100000 = ((n * 30103 / 100000 : Nat) : Int) := by omega
    have bound := (guess_bound n (by omega)).1
    rw [guess, zpow_sub₀ (by norm_num), zpow_natCast, zpow_natCast]
    have : (2 : ℚ) * 10 ^ (n * 30103 / 100000) ≤ 100 * 2 ^ n := by exact_mod_cast bound
    norm_num
    linarith
  · obtain ⟨n, same⟩ := Int.eq_ofNat_of_zero_le (show 0 ≤ -binades by omega)
    obtain rfl : binades = -(n : Int) := by omega
    have bound := (guess_bound n (by omega)).2
    have guess : -(n : Int) * 30103 / 100000 ≤ -((n * 30103 / 100000 : Nat) : Int) := by omega
    calc (10 : ℚ) ^ (-(n : Int) * 30103 / 100000 - 2)
        ≤ 10 ^ (-((n * 30103 / 100000 : Nat) : Int) - 2) := ten_power_le (by omega)
      _ = 1 / (100 * 10 ^ (n * 30103 / 100000)) := by
          rw [zpow_sub₀ (by norm_num), zpow_neg, zpow_natCast]
          norm_num
          ring
      _ ≤ 1 / (2 * 2 ^ n) := by
          apply one_div_le_one_div_of_le (by positivity)
          exact_mod_cast bound
      _ = 2 ^ (-(n : Int)) / 2 := by
          rw [zpow_neg, zpow_natCast]
          field_simp

/-- The power of ten that is found is not above the ratio. -/
theorem decimal_exponent_le {num den : Nat} (numPositive : 0 < num) (denPositive : 0 < den)
    (low : -1099 ≤ (num.log2 : Int) - den.log2) (high : (num.log2 : Int) - den.log2 < 1100) :
    (10 : ℚ) ^ decimalExponent num den ≤ num / den := by
  have den0 : (0 : ℚ) < den := by exact_mod_cast denPositive
  have reaches (exponent : Int) :
      (tenPower exponent).1 * den ≤ num * (tenPower exponent).2 →
        (10 : ℚ) ^ exponent ≤ num / den := by
    intro reached
    obtain ⟨bottomPositive, same⟩ := ten_power_spec exponent
    rw [← same, div_le_div_iff₀ (by exact_mod_cast bottomPositive) den0]
    exact_mod_cast reached
  unfold decimalExponent
  dsimp only
  split
  · rename_i reached
    exact reaches _ (of_decide_eq_true reached)
  split
  · rename_i reached
    exact reaches _ (of_decide_eq_true reached)
  split
  · rename_i reached
    exact reaches _ (of_decide_eq_true reached)
  · have binade := (log2_ratio_bounds numPositive denPositive).1
    have guess := guess_power_le low high
    linarith

/-! ## A decimal on a grid -/

/-- Whether the interval owns a positive multiple of the grid. -/
def RoundingInterval.accepts (interval : RoundingInterval) (scale : Int) (digits : Nat) : Bool :=
  digits != 0 && interval.owns (digits * (tenPower scale).1) (tenPower scale).2

/-- The multiple of the grid that is nearest to the value. -/
def RoundingInterval.nearest (interval : RoundingInterval) (scale : Int) : Nat :=
  roundRatio (interval.value * (tenPower scale).2) (interval.den * (tenPower scale).1)

/-- The nearest multiple is tried first, then the one on the other side. -/
theorem on_grid_eq (interval : RoundingInterval) (scale : Int) :
    ∃ farther, interval.onGrid scale =
      if interval.accepts scale (interval.nearest scale) then some ⟨interval.nearest scale, scale⟩
      else if interval.accepts scale farther then some ⟨farther, scale⟩
      else none :=
  ⟨_, rfl⟩

theorem accepts_iff {significand : Nat} {exponent scale : Int} (positive : 0 < significand)
    (digits : Nat) :
    (roundingInterval significand exponent).accepts scale digits = true ↔
      0 < digits ∧ RoundsTo significand exponent (Decimal.amount ⟨digits, scale⟩) := by
  obtain ⟨bottomPositive, power⟩ := ten_power_spec scale
  have same : ((digits * (tenPower scale).1 : Nat) : ℚ) / (tenPower scale).2 =
      Decimal.amount ⟨digits, scale⟩ := by
    push_cast
    rw [mul_div_assoc, power, Decimal.amount]
  rw [RoundingInterval.accepts, Bool.and_eq_true, owns_iff positive bottomPositive, same, bne_iff_ne,
    Nat.pos_iff_ne_zero]

/-- A decimal that is taken from a grid lies in the interval. -/
theorem on_grid_rounds {significand : Nat} {exponent scale : Int} {decimal : Decimal}
    (positive : 0 < significand)
    (found : (roundingInterval significand exponent).onGrid scale = some decimal) :
    0 < decimal.digits ∧ RoundsTo significand exponent decimal.amount := by
  obtain ⟨farther, same⟩ := on_grid_eq (roundingInterval significand exponent) scale
  rw [same] at found
  split at found
  · rename_i accepted
    cases found
    exact (accepts_iff positive _).mp accepted
  · split at found
    · rename_i accepted
      cases found
      exact (accepts_iff positive _).mp accepted
    · cases found

/-! ## Seventeen digits -/

/-- A decimal within half a step of a fine grid lies in the interval. -/
theorem rounds_of_near {significand : Nat} {exponent : Int} {negative : Bool} {near step : ℚ}
    (normal : (finite negative significand exponent).Normal)
    (fine : step * 10 ^ 16 ≤ significand * 2 ^ exponent)
    (close : |near - significand * 2 ^ exponent| ≤ step / 2) (stepPositive : 0 < step) :
    RoundsTo significand exponent near := by
  have short : (significand : ℚ) + 1 ≤ 2 ^ 53 := by exact_mod_cast normal.2.2.1
  have power := two_power_pos exponent
  obtain ⟨least, most⟩ := abs_le.mp close
  have low : lowQuarters significand exponent * 2 ^ exponent < 4 * near := by
    unfold lowQuarters
    split
    · rename_i narrow
      have : (significand : ℚ) = 2 ^ 52 := by exact_mod_cast narrow.1
      rw [this] at fine least ⊢
      linarith
    · nlinarith
  have high : 4 * near < (4 * significand + 2) * 2 ^ exponent := by nlinarith
  exact ⟨low.le, high.le, fun tie => absurd tie low.ne, fun tie => absurd tie high.ne⟩

theorem interval_value {significand : Nat} (positive : 0 < significand) (exponent : Int) :
    0 < (roundingInterval significand exponent).value ∧
      0 < (roundingInterval significand exponent).den ∧
        ((roundingInterval significand exponent).value : ℚ) /
          (roundingInterval significand exponent).den = significand * 2 ^ exponent := by
  obtain ⟨bottomPositive, unit⟩ := ratio_spec 1 exponent
  unfold roundingInterval
  dsimp only
  generalize ratio 1 exponent = parts at *
  obtain ⟨top, bottom⟩ := parts
  dsimp only at *
  have bottom0 : (0 : ℚ) < bottom := by exact_mod_cast bottomPositive
  have power := two_power_pos exponent
  have topPositive : 0 < top := by
    have : (0 : ℚ) < (top : ℚ) / bottom := by
      rw [unit]
      simpa using power
    have := (div_pos_iff_of_pos_right bottom0).mp this
    exact_mod_cast this
  refine ⟨by positivity, by positivity, ?_⟩
  rw [Nat.cast_one, one_mul] at unit
  rw [← unit]
  push_cast
  field_simp

/-- The binade of a number in normal form is one of the format. -/
theorem binade_bounds {significand : Nat} {exponent : Int} {negative : Bool} {num den : Nat}
    (normal : (finite negative significand exponent).Normal) (positive : 0 < significand)
    (numPositive : 0 < num) (denPositive : 0 < den)
    (value : (num : ℚ) / den = significand * 2 ^ exponent) :
    -1099 ≤ (num.log2 : Int) - den.log2 ∧ (num.log2 : Int) - den.log2 < 1100 := by
  obtain ⟨least, greatest, short, -⟩ := normal
  obtain ⟨low, high⟩ := log2_ratio_bounds numPositive denPositive
  rw [value] at low high
  have small : (significand : ℚ) ≤ 2 ^ 53 := by exact_mod_cast short.le
  have some : (1 : ℚ) ≤ significand := by exact_mod_cast positive
  have first : (2 : ℚ) ^ leastExponent ≤ 2 ^ exponent := two_power_le least
  have last : (2 : ℚ) ^ exponent ≤ 2 ^ greatestExponent := two_power_le greatest
  have lower : (2 : ℚ) ^ (-1099 : Int) < 2 ^ ((num.log2 : Int) - den.log2) := by
    have : (2 : ℚ) * 2 ^ (-1099 : Int) ≤ 2 ^ leastExponent := by
      rw [← two_power_succ]
      exact two_power_le (by decide)
    nlinarith
  have upper : (2 : ℚ) ^ ((num.log2 : Int) - den.log2) < 2 ^ (1100 : Int) := by
    have : 2 * 2 ^ 53 * (2 : ℚ) ^ greatestExponent ≤ 2 ^ (1100 : Int) := by
      rw [show (2 : ℚ) * 2 ^ 53 = 2 ^ (54 : Int) by norm_num, ← zpow_add₀ (by norm_num)]
      exact two_power_le (by decide)
    have product : (significand : ℚ) * 2 ^ exponent ≤ 2 ^ 53 * 2 ^ greatestExponent :=
      mul_le_mul small last (two_power_pos exponent).le (by norm_num)
    linarith
  exact ⟨((zpow_lt_zpow_iff_right₀ (by norm_num)).mp lower).le,
    (zpow_lt_zpow_iff_right₀ (by norm_num)).mp upper⟩

/-- On the grid of seventeen digits a decimal is found. -/
theorem seventeen_digits {significand : Nat} {exponent : Int} {negative : Bool}
    (normal : (finite negative significand exponent).Normal) (positive : 0 < significand) :
    ((roundingInterval significand exponent).onGrid
      (decimalExponent (roundingInterval significand exponent).value
        (roundingInterval significand exponent).den - 16)).isSome := by
  obtain ⟨valuePositive, denPositive, value⟩ := interval_value positive exponent
  obtain ⟨low, high⟩ := binade_bounds normal positive valuePositive denPositive value
  have leading := decimal_exponent_le valuePositive denPositive low high
  rw [value] at leading
  generalize scaled : decimalExponent (roundingInterval significand exponent).value
    (roundingInterval significand exponent).den - 16 = scale at *
  obtain ⟨bottomPositive, power⟩ := ten_power_spec scale
  have step := ten_power_pos scale
  have fine : (10 : ℚ) ^ scale * 10 ^ 16 ≤ significand * 2 ^ exponent := by
    rw [← scaled, ← zpow_natCast, ← zpow_add₀ (by norm_num)]
    simpa using leading
  have topPositive : 0 < (tenPower scale).1 := by
    rw [← power] at step
    have := (div_pos_iff_of_pos_right (by exact_mod_cast bottomPositive)).mp step
    exact_mod_cast this
  have near := round_ratio_near
    ((roundingInterval significand exponent).value * (tenPower scale).2)
    (Nat.mul_pos denPositive topPositive)
  have quotient : (((roundingInterval significand exponent).value * (tenPower scale).2 : Nat) : ℚ) /
      ((roundingInterval significand exponent).den * (tenPower scale).1 : Nat) =
        significand * 2 ^ exponent / 10 ^ scale := by
    rw [← power, ← value]
    push_cast
    field_simp
  rw [← RoundingInterval.nearest, quotient] at near
  have accepted : (roundingInterval significand exponent).accepts scale
      ((roundingInterval significand exponent).nearest scale) = true := by
    rw [accepts_iff positive]
    generalize (roundingInterval significand exponent).nearest scale = nearest at near
    constructor
    · have many : (10 : ℚ) ^ 16 ≤ significand * 2 ^ exponent / 10 ^ scale := by
        rw [le_div_iff₀ step]
        linarith
      have : (0 : ℚ) < nearest := by linarith [(abs_le.mp near).1]
      exact_mod_cast this
    · apply rounds_of_near normal fine _ step
      have scaled : Decimal.amount ⟨nearest, scale⟩ - significand * 2 ^ exponent =
          (nearest - significand * 2 ^ exponent / 10 ^ scale) * 10 ^ scale := by
        rw [Decimal.amount]
        field_simp
      rw [scaled, abs_mul, abs_of_pos step]
      nlinarith
  obtain ⟨farther, same⟩ := on_grid_eq (roundingInterval significand exponent) scale
  rw [same, if_pos accepted]
  rfl

theorem trim_spec (fuel : Nat) (decimal : Decimal) (positive : 0 < decimal.digits) :
    0 < (decimal.trim fuel).digits ∧ (decimal.trim fuel).amount = decimal.amount := by
  induction fuel generalizing decimal with
  | zero => exact ⟨positive, rfl⟩
  | succ fuel ih =>
      rw [Decimal.trim]
      split
      · rename_i divides
        obtain ⟨some, same⟩ := ih ⟨decimal.digits / 10, decimal.scale + 1⟩ (by dsimp only; omega)
        refine ⟨some, same.trans ?_⟩
        have digits : decimal.digits = 10 * (decimal.digits / 10) := by omega
        have cast : (decimal.digits : ℚ) = 10 * (decimal.digits / 10 : Nat) := by
          exact_mod_cast digits
        rw [Decimal.amount, Decimal.amount, cast, zpow_add_one₀ (by norm_num)]
        ring
      · exact ⟨positive, rfl⟩

/-- The shortest decimal lies in the interval of its number. -/
theorem shortest_rounds {significand : Nat} {exponent : Int} {negative : Bool}
    (normal : (finite negative significand exponent).Normal) (positive : 0 < significand) :
    0 < (shortest significand exponent).digits ∧
      RoundsTo significand exponent (shortest significand exponent).amount := by
  unfold shortest
  dsimp only
  split
  · rename_i decimal found
    obtain ⟨scale, -, owned⟩ := List.exists_of_findSome?_eq_some found
    obtain ⟨some, rounds⟩ := on_grid_rounds positive owned
    obtain ⟨still, same⟩ := trim_spec 20 decimal some
    exact ⟨still, same ▸ rounds⟩
  · rename_i missing
    rw [List.findSome?_eq_none_iff] at missing
    have none := missing _ (List.mem_map.mpr ⟨16, List.mem_range.mpr (by decide), rfl⟩)
    rw [Nat.cast_ofNat] at none
    have last := seventeen_digits normal positive
    rw [none] at last
    cases last

end FixtureImages.Binary64
