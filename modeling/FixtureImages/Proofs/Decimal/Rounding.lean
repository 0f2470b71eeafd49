import FixtureImages.Decimal.Shortest
import Mathlib.Algebra.Order.Field.Power
import Mathlib.Data.Rat.Cast.Order
import Mathlib.Tactic.FieldSimp
import Mathlib.Tactic.Linarith
import Mathlib.Tactic.Positivity
import Mathlib.Tactic.Ring

/-!
# Rounding to binary64

Every number that is rounded comes out in normal form, and a number in normal form is what every
ratio of its rounding interval is rounded to. Ratios of naturals are compared as rationals.
-/

namespace FixtureImages.Binary64

set_option autoImplicit false

/-! ## Powers of two -/

theorem two_power_pos (exponent : Int) : (0 : ℚ) < 2 ^ exponent := zpow_pos (by norm_num) exponent

theorem two_power_succ (exponent : Int) : (2 : ℚ) ^ (exponent + 1) = 2 * 2 ^ exponent := by
  rw [zpow_add_one₀ (by norm_num), mul_comm]

theorem two_power_le {low high : Int} (le : low ≤ high) : (2 : ℚ) ^ low ≤ 2 ^ high :=
  zpow_le_zpow_right₀ (by norm_num) le

theorem nat_power (base exponent : Nat) : Nat.pow base exponent = base ^ exponent := rfl

theorem scale_down_spec (num : Nat) {den : Nat} (positive : 0 < den) (exponent : Int) :
    0 < (scaleDown num den exponent).2 ∧
      ((scaleDown num den exponent).1 : ℚ) / (scaleDown num den exponent).2 =
        (num : ℚ) / den / 2 ^ exponent := by
  cases exponent with
  | ofNat up =>
      refine ⟨Nat.mul_pos positive (Nat.pow_pos (by decide)), ?_⟩
      simp only [scaleDown, nat_power, Int.ofNat_eq_natCast, zpow_natCast]
      push_cast
      rw [div_div]
  | negSucc down =>
      refine ⟨positive, ?_⟩
      simp only [scaleDown, nat_power, zpow_negSucc]
      push_cast
      rw [div_inv_eq_mul, mul_div_right_comm]

theorem ratio_spec (significand : Nat) (exponent : Int) :
    0 < (ratio significand exponent).2 ∧
      ((ratio significand exponent).1 : ℚ) / (ratio significand exponent).2 =
        significand * 2 ^ exponent := by
  cases exponent with
  | ofNat up => simp [ratio]
  | negSucc down =>
      refine ⟨Nat.pow_pos (by decide), ?_⟩
      simp only [ratio, nat_power, zpow_negSucc]
      push_cast
      rw [div_eq_mul_inv]

/-! ## The nearest natural -/

/-- Two rationals compare as their multiples do. -/
theorem compare_scaled {first second scale : ℚ} {m n : Nat} (positive : 0 < scale)
    (left : (m : ℚ) = first * scale) (right : (n : ℚ) = second * scale) :
    (m ≤ n ↔ first ≤ second) ∧ (m < n ↔ first < second) := by
  rw [← Nat.cast_le (α := ℚ), ← Nat.cast_lt (α := ℚ), left, right]
  exact ⟨mul_le_mul_iff_of_pos_right positive, mul_lt_mul_iff_of_pos_right positive⟩

/-- A ratio is its floor and a fraction, and what it is rounded to depends on twice the fraction. -/
theorem round_ratio_split (num : Nat) {den : Nat} (positive : 0 < den) :
    ∃ fraction : ℚ, 0 ≤ fraction ∧ fraction < 1 ∧ (num : ℚ) / den = (num / den : Nat) + fraction ∧
      roundRatio num den =
        if 2 * fraction < 1 then num / den
        else if 1 < 2 * fraction then num / den + 1
        else if num / den % 2 = 0 then num / den else num / den + 1 := by
  have den0 : (0 : ℚ) < den := by exact_mod_cast positive
  refine ⟨(num % den : Nat) / den, by positivity, ?_, ?_, ?_⟩
  · rw [div_lt_one den0]
    exact_mod_cast Nat.mod_lt num positive
  · have whole : (num : ℚ) = den * (num / den : Nat) + (num % den : Nat) := by
      exact_mod_cast (Nat.div_add_mod num den).symm
    rw [div_eq_iff den0.ne', add_mul, div_mul_cancel₀ _ den0.ne', mul_comm _ (den : ℚ), ← whole]
  · have twice : ((2 * (num % den) : Nat) : ℚ) = 2 * ((num % den : Nat) / den) * den := by
      push_cast
      field_simp
    obtain ⟨-, below⟩ := compare_scaled den0 twice (one_mul (den : ℚ)).symm
    obtain ⟨-, above⟩ := compare_scaled den0 (one_mul (den : ℚ)).symm twice
    unfold roundRatio
    simp only [below, above]

theorem round_ratio_near (num : Nat) {den : Nat} (positive : 0 < den) :
    |(roundRatio num den : ℚ) - num / den| ≤ 1 / 2 := by
  obtain ⟨fraction, some, short, parts, rounded⟩ := round_ratio_split num positive
  rw [rounded, parts, abs_le]
  split
  · constructor <;> linarith
  · split
    · push_cast
      constructor <;> linarith
    · split
      · constructor <;> linarith
      · push_cast
        constructor <;> linarith

/-- A natural is the nearest one to a ratio that lies at most a half away, a half only if the
natural is even. -/
theorem round_ratio_eq {num den nearest : Nat} (positive : 0 < den)
    (low : 2 * (nearest : ℚ) - 1 ≤ 2 * (num / den)) (high : 2 * ((num : ℚ) / den) ≤ 2 * nearest + 1)
    (evenLow : 2 * (nearest : ℚ) - 1 = 2 * (num / den) → nearest % 2 = 0)
    (evenHigh : 2 * ((num : ℚ) / den) = 2 * nearest + 1 → nearest % 2 = 0) :
    roundRatio num den = nearest := by
  obtain ⟨fraction, some, short, parts, rounded⟩ := round_ratio_split num positive
  rw [rounded]
  rw [parts] at low high evenLow evenHigh
  generalize num / den = floor at *
  have atMost : nearest ≤ floor + 1 := by
    have : (nearest : ℚ) < (floor + 2 : Nat) := by
      push_cast
      linarith
    have : nearest < floor + 2 := by exact_mod_cast this
    omega
  have atLeast : floor ≤ nearest := by
    have : (floor : ℚ) < (nearest + 1 : Nat) := by
      push_cast
      linarith
    have : floor < nearest + 1 := by exact_mod_cast this
    omega
  rcases Nat.eq_or_lt_of_le atLeast with same | next
  · subst same
    have half : ¬1 < 2 * fraction := by linarith
    have even : ¬2 * fraction < 1 → floor % 2 = 0 := fun more => evenHigh (by linarith)
    simp only [half, if_false]
    split <;> simp_all
  · obtain rfl : nearest = floor + 1 := by omega
    push_cast at low high evenLow
    have half : ¬2 * fraction < 1 := by linarith
    have even : ¬1 < 2 * fraction → (floor + 1) % 2 = 0 := fun less => evenLow (by linarith)
    simp only [half, if_false]
    split
    · rfl
    · rename_i less
      have := even less
      rw [if_neg (by omega)]

theorem round_ratio_bounds {num den high : Nat} (low : Nat) (positive : 0 < den) (least : low * den ≤ num)
    (most : num < high * den) :
    low ≤ roundRatio num den ∧ roundRatio num den ≤ high := by
  have first : low ≤ num / den := (Nat.le_div_iff_mul_le positive).mpr least
  have last : num / den < high := (Nat.div_lt_iff_lt_mul positive).mpr most
  unfold roundRatio
  grind

/-! ## The exponent of a ratio -/

/-- The exponent at which a ratio has a significand of 53 bits, or the least exponent. -/
structure FitsExponent (value : ℚ) (exponent : Int) : Prop where
  least : leastExponent ≤ exponent
  below : value < 2 ^ 53 * 2 ^ exponent
  above : 2 ^ 52 * 2 ^ exponent ≤ value ∨ exponent = leastExponent

theorem FitsExponent.unique {value : ℚ} {first second : Int} (one : FitsExponent value first)
    (other : FitsExponent value second) : first = second := by
  have apart {low high : Int} (less : low < high) (fits : FitsExponent value low)
      (also : FitsExponent value high) : False := by
    have full : 2 ^ 52 * 2 ^ high ≤ value := by
      refine also.above.resolve_right fun same => ?_
      have := fits.least
      omega
    have step : (2 : ℚ) ^ (low + 1) ≤ 2 ^ high := two_power_le (by omega)
    rw [two_power_succ] at step
    have := fits.below
    linarith
  rcases lt_trichotomy first second with less | same | more
  · exact (apart less one other).elim
  · exact same
  · exact (apart more other one).elim

theorem log2_bounds {n : Nat} (positive : 0 < n) :
    (2 : ℚ) ^ (n.log2 : Int) ≤ n ∧ (n : ℚ) < 2 * 2 ^ (n.log2 : Int) := by
  have low : 2 ^ n.log2 ≤ n := Nat.log2_self_le (by omega)
  have high : n < 2 ^ (n.log2 + 1) := Nat.lt_log2_self
  rw [Nat.pow_succ] at high
  rw [zpow_natCast]
  constructor
  · exact_mod_cast low
  · rw [mul_comm]
    exact_mod_cast high

/-- The logarithms of both parts place a ratio within two binades. -/
theorem log2_ratio_bounds {num den : Nat} (numPositive : 0 < num) (denPositive : 0 < den) :
    (2 : ℚ) ^ ((num.log2 : Int) - den.log2) < 2 * (num / den) ∧
      (num : ℚ) / den < 2 * 2 ^ ((num.log2 : Int) - den.log2) := by
  obtain ⟨numLow, numHigh⟩ := log2_bounds numPositive
  obtain ⟨denLow, denHigh⟩ := log2_bounds denPositive
  have den0 : (0 : ℚ) < den := by exact_mod_cast denPositive
  rw [zpow_sub₀ (by norm_num)]
  have powNum := two_power_pos (num.log2 : Int)
  have powDen := two_power_pos (den.log2 : Int)
  generalize (2 : ℚ) ^ (num.log2 : Int) = top at *
  generalize (2 : ℚ) ^ (den.log2 : Int) = bottom at *
  constructor
  · rw [← mul_div_assoc, div_lt_div_iff₀ powDen den0]
    nlinarith
  · rw [← mul_div_assoc, div_lt_div_iff₀ den0 powDen]
    nlinarith

theorem exponent_of_fits {num den : Nat} (numPositive : 0 < num) (denPositive : 0 < den) :
    FitsExponent ((num : ℚ) / den) (exponentOf num den) := by
  obtain ⟨low, high⟩ := log2_ratio_bounds numPositive denPositive
  unfold exponentOf
  dsimp only
  generalize guessed : (num.log2 : Int) - (den.log2 : Int) - 53 = guess
  obtain ⟨bottomPositive, scaled⟩ := scale_down_spec num denPositive guess
  generalize scaleDown num den guess = parts at *
  obtain ⟨top, bottom⟩ := parts
  dsimp only at *
  have bottom0 : (0 : ℚ) < bottom := by exact_mod_cast bottomPositive
  have power := two_power_pos guess
  -- Both bounds on the ratio in units of the guessed exponent.
  have whole : (2 : ℚ) ^ ((num.log2 : Int) - den.log2) = 2 ^ 53 * 2 ^ guess := by
    rw [← guessed, zpow_sub₀ (by norm_num) _ (53 : Int)]
    norm_num
    ring
  rw [whole] at low high
  have small : top / bottom < Nat.pow 2 53 ↔ (num : ℚ) / den < 2 ^ 53 * 2 ^ guess := by
    rw [Nat.div_lt_iff_lt_mul bottomPositive, nat_power, ← div_lt_iff₀ power, ← scaled,
      div_lt_iff₀ bottom0]
    exact_mod_cast Iff.rfl
  generalize (num : ℚ) / den = value at *
  have fits (exponent : Int) (below : value < 2 ^ 53 * 2 ^ exponent)
      (above : 2 ^ 52 * 2 ^ exponent ≤ value) :
      FitsExponent value (max leastExponent exponent) := by
    rcases le_total leastExponent exponent with more | less
    · rw [max_eq_right more]
      exact ⟨more, below, .inl above⟩
    · rw [max_eq_left less]
      have := two_power_le less
      exact ⟨le_rfl, by linarith, .inr rfl⟩
  split
  · rename_i less
    exact fits guess (small.mp less) (by linarith)
  · rename_i more
    have reached : 2 ^ 53 * 2 ^ guess ≤ value := not_lt.mp fun less => more (small.mpr less)
    apply fits (guess + 1) <;> rw [two_power_succ] <;> linarith

/-! ## Normal form -/

/-- The form that numbers are kept in: 53 bits, or fewer at the least exponent. -/
def Normal : Binary64 → Prop
  | .finite _ significand exponent =>
      leastExponent ≤ exponent ∧ exponent ≤ greatestExponent ∧ significand < Nat.pow 2 53 ∧
        (Nat.pow 2 52 ≤ significand ∨ exponent = leastExponent)
  | _ => True

theorem zero_normal (negative : Bool) : (zero negative).Normal := by
  refine ⟨le_rfl, by decide, by decide, .inr rfl⟩

theorem of_ratio_normal (negative : Bool) (num den : Nat) : (ofRatio negative num den).Normal := by
  unfold ofRatio
  split
  · exact zero_normal negative
  rename_i nonzero
  have numPositive : 0 < num := by omega
  have denPositive : 0 < den := by omega
  have fits := exponent_of_fits numPositive denPositive
  dsimp only
  generalize exponentOf num den = exponent at *
  obtain ⟨bottomPositive, scaled⟩ := scale_down_spec num denPositive exponent
  generalize scaleDown num den exponent = parts at *
  obtain ⟨top, bottom⟩ := parts
  dsimp only at *
  have bottom0 : (0 : ℚ) < bottom := by exact_mod_cast bottomPositive
  have power := two_power_pos exponent
  have most : top < 2 ^ 53 * bottom := by
    have : (top : ℚ) / bottom < 2 ^ 53 := by
      rw [scaled, div_lt_iff₀ power]
      exact fits.below
    rw [div_lt_iff₀ bottom0] at this
    exact_mod_cast this
  have least : 2 ^ 52 * bottom ≤ top ∨ exponent = leastExponent := by
    refine fits.above.imp_left fun full => ?_
    have : 2 ^ 52 ≤ (top : ℚ) / bottom := by
      rw [scaled, le_div_iff₀ power]
      exact full
    rw [le_div_iff₀ bottom0] at this
    exact_mod_cast this
  have small := (round_ratio_bounds 0 bottomPositive (by omega) most).2
  have large : 2 ^ 52 ≤ roundRatio top bottom ∨ exponent = leastExponent :=
    least.imp_left fun full => (round_ratio_bounds _ bottomPositive full most).1
  have bounded := fits.least
  simp only [nat_power]
  generalize roundRatio top bottom = rounded at *
  by_cases carries : rounded = 2 ^ 53
  · simp only [if_pos carries]
    split
    · exact zero_normal negative
    · split
      · trivial
      · exact ⟨by omega, by omega, by decide, .inl (by decide)⟩
  · simp only [if_neg carries]
    split
    · exact zero_normal negative
    · split
      · trivial
      · exact ⟨bounded, by omega, by simp only [nat_power]; omega, large⟩

theorem of_decimal_normal (negative : Bool) (digits : Nat) (exponent : Int) :
    (ofDecimal negative digits exponent).Normal := by
  unfold ofDecimal
  dsimp only
  split
  · exact zero_normal negative
  split
  · trivial
  split
  · exact zero_normal negative
  split <;> exact of_ratio_normal _ _ _

theorem negate_normal {number : Binary64} (normal : number.Normal) : number.negate.Normal := by
  cases number with
  | nan => trivial
  | infinite => trivial
  | finite => exact normal

theorem add_normal (first second : Binary64) : (first.add second).Normal := by
  unfold add
  split
  · trivial
  · trivial
  · split <;> trivial
  · trivial
  · trivial
  · dsimp only
    split
    · exact of_ratio_normal _ _ _
    split
    · exact of_ratio_normal _ _ _
    split
    · exact of_ratio_normal _ _ _
    · exact zero_normal false

/-! ## The rounding interval -/

/-- Whether the interval of a power of two above the least one is in question: below it the numbers
stand twice as close. -/
def IsNarrow (significand : Nat) (exponent : Int) : Prop :=
  significand = Nat.pow 2 52 ∧ leastExponent < exponent

instance (significand : Nat) (exponent : Int) : Decidable (IsNarrow significand exponent) :=
  inferInstanceAs (Decidable (_ ∧ _))

/-- Four times the lower end of the interval, in units of the last place. -/
def lowQuarters (significand : Nat) (exponent : Int) : ℚ :=
  4 * significand - if IsNarrow significand exponent then 1 else 2

/-- A rational that is rounded to a positive number: it lies in its interval, and at an end of it
only if the significand is even. -/
structure RoundsTo (significand : Nat) (exponent : Int) (value : ℚ) : Prop where
  low : lowQuarters significand exponent * 2 ^ exponent ≤ 4 * value
  high : 4 * value ≤ (4 * significand + 2) * 2 ^ exponent
  evenLow : lowQuarters significand exponent * 2 ^ exponent = 4 * value → significand % 2 = 0
  evenHigh : 4 * value = (4 * significand + 2) * 2 ^ exponent → significand % 2 = 0

theorem rounds_to_iff {significand : Nat} {exponent : Int} {value : ℚ} :
    RoundsTo significand exponent value ↔
      if significand % 2 = 0 then
        lowQuarters significand exponent * 2 ^ exponent ≤ 4 * value ∧
          4 * value ≤ (4 * significand + 2) * 2 ^ exponent
      else
        lowQuarters significand exponent * 2 ^ exponent < 4 * value ∧
          4 * value < (4 * significand + 2) * 2 ^ exponent := by
  split
  · rename_i even
    exact ⟨fun rounds => ⟨rounds.low, rounds.high⟩, fun ends => ⟨ends.1, ends.2, fun _ => even,
      fun _ => even⟩⟩
  · rename_i odd
    refine ⟨fun rounds => ⟨lt_of_le_of_ne rounds.low fun tie => odd (rounds.evenLow tie),
      lt_of_le_of_ne rounds.high fun tie => odd (rounds.evenHigh tie)⟩, fun ends => ?_⟩
    exact ⟨ends.1.le, ends.2.le, fun tie => absurd tie ends.1.ne, fun tie => absurd tie ends.2.ne⟩

/-- The comparisons of the model are those of rationals. -/
theorem owns_iff {significand : Nat} {exponent : Int} (positive : 0 < significand)
    {num den : Nat} (denPositive : 0 < den) :
    (roundingInterval significand exponent).owns num den = true ↔
      RoundsTo significand exponent ((num : ℚ) / den) := by
  obtain ⟨unitDen, unit⟩ := ratio_spec 1 exponent
  unfold roundingInterval RoundingInterval.owns
  dsimp only
  generalize ratio 1 exponent = parts at *
  obtain ⟨top, bottom⟩ := parts
  dsimp only at *
  have bottom0 : (0 : ℚ) < bottom := by exact_mod_cast unitDen
  have den0 : (0 : ℚ) < den := by exact_mod_cast denPositive
  have quarters (count : Nat) :
      ((top * count * den : Nat) : ℚ) = count * 2 ^ exponent * (den * bottom) := by
    rw [Nat.cast_one, one_mul, div_eq_iff bottom0.ne'] at unit
    push_cast
    rw [unit]
    ring
  have middle : ((num * (4 * bottom) : Nat) : ℚ) = 4 * (num / den) * (den * bottom) := by
    push_cast
    field_simp
  have scale : (0 : ℚ) < den * bottom := by positivity
  have lowEnd : ((4 * significand - if IsNarrow significand exponent then 1 else 2 : Nat) : ℚ) =
      lowQuarters significand exponent := by
    unfold lowQuarters
    split <;> rw [Nat.cast_sub (by omega)] <;> push_cast <;> rfl
  have highEnd : ((4 * significand + 2 : Nat) : ℚ) = 4 * significand + 2 := by push_cast; rfl
  have lows := quarters (4 * significand - if IsNarrow significand exponent then 1 else 2)
  have highs := quarters (4 * significand + 2)
  rw [lowEnd] at lows
  rw [highEnd] at highs
  obtain ⟨lowLe, lowLt⟩ := compare_scaled scale lows middle
  obtain ⟨highLe, highLt⟩ := compare_scaled scale middle highs
  rw [rounds_to_iff, ← lowLe, ← lowLt, ← highLe, ← highLt]
  by_cases even : significand % 2 = 0
  · rw [if_pos even, if_pos (decide_eq_true even)]
    simp only [Bool.and_eq_true, decide_eq_true_eq]
    rfl
  · rw [if_neg even, if_neg (by simpa using even)]
    simp only [Bool.and_eq_true, decide_eq_true_eq]
    rfl

theorem low_quarters_le (significand : Nat) (exponent : Int) :
    4 * (significand : ℚ) - 2 ≤ lowQuarters significand exponent := by
  unfold lowQuarters
  split <;> linarith

/-- What a ratio is rounded to, by the exponent that fits it. -/
theorem of_ratio_of_fits {num den : Nat} (negative : Bool) (numPositive : 0 < num)
    (denPositive : 0 < den) {exponent : Int} (fits : FitsExponent ((num : ℚ) / den) exponent)
    (nearest : Nat) (low : (2 * (nearest : ℚ) - 1) * 2 ^ exponent ≤ 2 * (num / den))
    (high : 2 * ((num : ℚ) / den) ≤ (2 * nearest + 1) * 2 ^ exponent)
    (evenLow : (2 * (nearest : ℚ) - 1) * 2 ^ exponent = 2 * (num / den) → nearest % 2 = 0)
    (evenHigh : 2 * ((num : ℚ) / den) = (2 * nearest + 1) * 2 ^ exponent → nearest % 2 = 0)
    {significand : Nat} {settled : Int} (positive : 0 < significand)
    (bounded : settled ≤ greatestExponent)
    (carried : (significand, settled) =
      if nearest = 2 ^ 53 then (2 ^ 52, exponent + 1) else (nearest, exponent)) :
    ofRatio negative num den = finite negative significand settled := by
  have power := two_power_pos exponent
  obtain rfl := (exponent_of_fits numPositive denPositive).unique fits
  obtain ⟨bottomPositive, scaled⟩ :=
    scale_down_spec num denPositive (exponentOf num den)
  have halves : 2 * ((num : ℚ) / den) = 2 * ((scaleDown num den (exponentOf num den)).1 /
      (scaleDown num den (exponentOf num den)).2) * 2 ^ exponentOf num den := by
    rw [scaled]
    field_simp
  rw [halves] at low high evenLow evenHigh
  have rounded : roundRatio (scaleDown num den (exponentOf num den)).1
      (scaleDown num den (exponentOf num den)).2 = nearest :=
    round_ratio_eq bottomPositive (le_of_mul_le_mul_right low power)
      (le_of_mul_le_mul_right high power) (fun tie => evenLow (by rw [tie]))
      (fun tie => evenHigh (by rw [tie]))
  have powers : (if nearest = Nat.pow 2 53 then (Nat.pow 2 52, exponentOf num den + 1) else
      (nearest, exponentOf num den)) = (significand, settled) := carried.symm
  unfold ofRatio
  rw [if_neg (by omega)]
  dsimp only
  rw [rounded, powers]
  dsimp only
  rw [if_neg (by omega), if_neg (by omega)]

/-- The ratios of its interval are rounded to a number in normal form. -/
theorem of_ratio_eq {significand : Nat} {exponent : Int} (negative : Bool)
    (normal : (finite negative significand exponent).Normal) (positive : 0 < significand)
    {num den : Nat} (denPositive : 0 < den)
    (rounds : RoundsTo significand exponent ((num : ℚ) / den)) :
    ofRatio negative num den = finite negative significand exponent := by
  obtain ⟨least, greatest, short, full⟩ := normal
  rw [nat_power] at short full
  have power := two_power_pos exponent
  have lowEnd := low_quarters_le significand exponent
  have shortCast : (significand : ℚ) + 1 ≤ 2 ^ 53 := by exact_mod_cast short
  have some : (1 : ℚ) ≤ significand := by exact_mod_cast positive
  have den0 : (0 : ℚ) < den := by exact_mod_cast denPositive
  obtain ⟨low, high, evenLow, evenHigh⟩ := rounds
  have lowHalf : (4 * (significand : ℚ) - 2) * 2 ^ exponent ≤ 4 * (num / den) := by nlinarith
  have numPositive : 0 < num := by
    have : (0 : ℚ) < (num : ℚ) / den := by nlinarith
    have := (div_pos_iff_of_pos_right den0).mp this
    exact_mod_cast this
  have below : (num : ℚ) / den < 2 ^ 53 * 2 ^ exponent := by nlinarith
  by_cases above : 2 ^ 52 * 2 ^ exponent ≤ (num : ℚ) / den ∨ exponent = leastExponent
  · apply of_ratio_of_fits negative numPositive denPositive ⟨least, below, above⟩
      significand _ _ _ _ positive greatest
    · rw [if_neg (by omega)]
    · linarith
    · linarith
    · intro tie
      apply evenLow
      nlinarith
    · intro tie
      exact evenHigh (by linarith)
  · -- The ratio lies below a power of two, where the numbers stand twice as close.
    rw [not_or, not_le] at above
    obtain ⟨less, more⟩ := above
    have top : significand = 2 ^ 52 := by
      refine le_antisymm ?_ (full.resolve_right more)
      have : (4 * (significand : ℚ) - 2) < 4 * 2 ^ 52 := by nlinarith
      have : (significand : ℚ) < 2 ^ 52 + 1 := by linarith
      have : significand < 2 ^ 52 + 1 := by exact_mod_cast this
      omega
    have narrow : IsNarrow significand exponent := ⟨top, lt_of_le_of_ne least (Ne.symm more)⟩
    have half : (2 : ℚ) ^ exponent = 2 * 2 ^ (exponent - 1) := by
      rw [← two_power_succ]
      congr 1
      omega
    have powerHalf := two_power_pos (exponent - 1)
    rw [lowQuarters, if_pos narrow, top, half] at low
    rw [half] at less
    push_cast at low
    have fits : FitsExponent ((num : ℚ) / den) (exponent - 1) :=
      ⟨by omega, by linarith, .inl (by linarith)⟩
    apply of_ratio_of_fits negative numPositive denPositive fits (2 ^ 53) _ _ _ _ positive greatest
    · rw [if_pos rfl, top]
      congr 1
      omega
    · push_cast
      linarith
    · push_cast
      linarith
    · intro _
      decide
    · intro _
      decide

end FixtureImages.Binary64
