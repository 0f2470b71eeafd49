import FixtureImages.Proofs.Decimal.Rounding
import Mathlib.Data.Int.Log
import Mathlib.Data.Rat.Floor

/-!
# The nearest binary64 number

Rounding as it is defined for rationals: scale to the unit in the last place, go to the nearest
integer, ties to even, and scale back. Exponents have a lower bound here and no upper one. The
operations of the model, as long as they stay finite, round the exact result in this way, and
rounding keeps the order and what is rounded already.
-/

namespace FixtureImages.Binary64

set_option autoImplicit false

/-! ## The nearest integer -/

/-- The integer nearest to a rational, the even one of two. -/
def nearestInt (x : ℚ) : ℤ :=
  if 2 * (x - ⌊x⌋) < 1 then ⌊x⌋
  else if 1 < 2 * (x - ⌊x⌋) then ⌊x⌋ + 1
  else if ⌊x⌋ % 2 = 0 then ⌊x⌋ else ⌊x⌋ + 1

theorem nearest_int_bounds (x : ℚ) :
    2 * (nearestInt x : ℚ) - 1 ≤ 2 * x ∧ 2 * x ≤ 2 * nearestInt x + 1 ∧
      ((2 * (nearestInt x : ℚ) - 1 = 2 * x ∨ 2 * x = 2 * nearestInt x + 1) →
        nearestInt x % 2 = 0) := by
  have low := Int.floor_le x
  have high := Int.lt_floor_add_one x
  unfold nearestInt
  split
  · refine ⟨by linarith, by linarith, ?_⟩
    rintro (tie | tie) <;> linarith
  split
  · push_cast
    refine ⟨by linarith, by linarith, ?_⟩
    rintro (tie | tie) <;> linarith
  split
  · rename_i even
    exact ⟨by linarith, by linarith, fun _ => even⟩
  · push_cast
    exact ⟨by linarith, by linarith, fun _ => by omega⟩

/-- An integer at most a half away is the nearest one, if it is even where it is a half away. -/
theorem nearest_int_eq {x : ℚ} {n : ℤ} (low : 2 * (n : ℚ) - 1 ≤ 2 * x) (high : 2 * x ≤ 2 * n + 1)
    (even : 2 * (n : ℚ) - 1 = 2 * x ∨ 2 * x = 2 * n + 1 → n % 2 = 0) : nearestInt x = n := by
  obtain ⟨least, most, tie⟩ := nearest_int_bounds x
  have atMost : n ≤ nearestInt x + 1 := by
    have : (n : ℚ) ≤ nearestInt x + 1 := by linarith
    exact_mod_cast this
  have atLeast : nearestInt x ≤ n + 1 := by
    have : (nearestInt x : ℚ) ≤ n + 1 := by linarith
    exact_mod_cast this
  rcases lt_trichotomy (nearestInt x) n with less | same | more
  · obtain rfl : n = nearestInt x + 1 := by omega
    push_cast at low high even
    have first := tie (.inr (by linarith))
    have second := even (.inl (by linarith))
    omega
  · exact same
  · have next : nearestInt x = n + 1 := by omega
    rw [next] at least most tie
    push_cast at least most tie
    have first := tie (.inl (by linarith))
    have second := even (.inr (by linarith))
    omega

@[simp] theorem nearest_int_cast (n : ℤ) : nearestInt n = n := by
  apply nearest_int_eq
  · linarith
  · linarith
  · rintro (tie | tie) <;> linarith

theorem nearest_int_neg (x : ℚ) : nearestInt (-x) = -nearestInt x := by
  obtain ⟨low, high, even⟩ := nearest_int_bounds x
  apply nearest_int_eq
  · push_cast
    linarith
  · push_cast
    linarith
  · intro tie
    push_cast at tie
    have := even (tie.symm.imp (fun _ => by linarith) fun _ => by linarith)
    omega

theorem nearest_int_mono {x y : ℚ} (le : x ≤ y) : nearestInt x ≤ nearestInt y := by
  obtain ⟨-, high, even⟩ := nearest_int_bounds y
  obtain ⟨low, -, evenToo⟩ := nearest_int_bounds x
  by_contra more
  have next : (nearestInt y : ℚ) + 1 ≤ nearestInt x := by
    exact_mod_cast not_le.mp more
  -- Only one rational lies so near to both integers, and they follow each other.
  have first := even (.inr (by linarith))
  have second := evenToo (.inl (by linarith))
  have after : nearestInt x = nearestInt y + 1 := by
    have : (nearestInt x : ℚ) = nearestInt y + 1 := by linarith
    exact_mod_cast this
  omega

theorem round_ratio_nearest (num : Nat) {den : Nat} (positive : 0 < den) :
    nearestInt ((num : ℚ) / den) = roundRatio num den := by
  obtain ⟨fraction, some, short, parts, rounded⟩ := round_ratio_split num positive
  have floor : ⌊(num : ℚ) / den⌋ = (num / den : Nat) := by
    rw [parts, Int.floor_eq_iff, Int.cast_natCast]
    constructor <;> linarith
  have rest : (num : ℚ) / den - (⌊(num : ℚ) / den⌋ : ℤ) = fraction := by
    rw [floor, parts, Int.cast_natCast, add_sub_cancel_left]
  unfold nearestInt
  rw [rest, floor, rounded]
  generalize num / den = whole
  split
  · rfl
  split
  · push_cast
    rfl
  · by_cases even : whole % 2 = 0
    · rw [if_pos (by omega), if_pos even]
    · rw [if_neg (by omega), if_neg even]
      push_cast
      rfl

/-! ## The nearest number -/

/-- The exponent of the unit in the last place. -/
def unitExponent (x : ℚ) : ℤ := max leastExponent (Int.log 2 |x| - 52)

/-- The binary64 number nearest to a rational, ties to even, if exponents had no upper bound. -/
def nearest (x : ℚ) : ℚ := nearestInt (x / 2 ^ unitExponent x) * 2 ^ unitExponent x

@[simp] theorem nearest_zero : nearest 0 = 0 := by
  have zero : nearestInt 0 = 0 := nearest_int_cast 0
  rw [nearest, zero_div, zero]
  simp

theorem nearest_neg (x : ℚ) : nearest (-x) = -nearest x := by
  simp only [nearest, unitExponent, abs_neg, neg_div, nearest_int_neg]
  push_cast
  ring

theorem unit_exponent_fits {x : ℚ} (positive : 0 < x) : FitsExponent x (unitExponent x) := by
  have low : (2 : ℚ) ^ Int.log 2 x ≤ x := by
    exact_mod_cast Int.zpow_log_le_self (b := 2) (by decide) positive
  have high : x < (2 : ℚ) ^ (Int.log 2 x + 1) := by
    exact_mod_cast Int.lt_zpow_succ_log_self (b := 2) (by decide) x
  unfold unitExponent
  rw [abs_of_pos positive]
  have top : (2 : ℚ) ^ (Int.log 2 x + 1) = 2 ^ 53 * 2 ^ (Int.log 2 x - 52) := by
    rw [← zpow_natCast, ← zpow_add₀ (by norm_num)]
    congr 1
    push_cast
    ring
  have bottom : (2 : ℚ) ^ Int.log 2 x = 2 ^ 52 * 2 ^ (Int.log 2 x - 52) := by
    rw [← zpow_natCast, ← zpow_add₀ (by norm_num)]
    congr 1
    push_cast
    ring
  rw [top] at high
  rw [bottom] at low
  rcases le_total leastExponent (Int.log 2 x - 52) with more | less
  · rw [max_eq_right more]
    exact ⟨more, high, .inl low⟩
  · rw [max_eq_left less]
    have := two_power_le less
    exact ⟨le_rfl, by linarith, .inr rfl⟩

/-- The nearest number, on the grid of the exponent that fits. -/
theorem nearest_of_fits {x : ℚ} {exponent : ℤ} (positive : 0 < x)
    (fits : FitsExponent x exponent) :
    nearest x = nearestInt (x / 2 ^ exponent) * 2 ^ exponent := by
  rw [nearest, (unit_exponent_fits positive).unique fits]

theorem nearest_nonneg {x : ℚ} (nonneg : 0 ≤ x) : 0 ≤ nearest x := by
  have power := two_power_pos (unitExponent x)
  have scaled : ((0 : ℤ) : ℚ) ≤ x / 2 ^ unitExponent x := by
    push_cast
    positivity
  have rounded := nearest_int_mono scaled
  rw [nearest_int_cast] at rounded
  have : (0 : ℚ) ≤ nearestInt (x / 2 ^ unitExponent x) := by exact_mod_cast rounded
  exact mul_nonneg this power.le

/-- What fits an exponent stays within its binade, or comes to the end of it. -/
theorem nearest_bounds {x : ℚ} {exponent : ℤ} (positive : 0 < x)
    (fits : FitsExponent x exponent) :
    nearest x ≤ 2 ^ 53 * 2 ^ exponent ∧
      (2 ^ 52 * 2 ^ exponent ≤ nearest x ∨ exponent = leastExponent) := by
  have power := two_power_pos exponent
  rw [nearest_of_fits positive fits]
  constructor
  · have below : x / 2 ^ exponent ≤ ((2 ^ 53 : ℤ) : ℚ) := by
      rw [div_le_iff₀ power]
      push_cast
      exact fits.below.le
    have rounded := nearest_int_mono below
    rw [nearest_int_cast] at rounded
    have : (nearestInt (x / 2 ^ exponent) : ℚ) ≤ 2 ^ 53 := by exact_mod_cast rounded
    exact mul_le_mul_of_nonneg_right this power.le
  · refine fits.above.imp_left fun above => ?_
    have full : ((2 ^ 52 : ℤ) : ℚ) ≤ x / 2 ^ exponent := by
      rw [le_div_iff₀ power]
      push_cast
      exact above
    have rounded := nearest_int_mono full
    rw [nearest_int_cast] at rounded
    have : (2 ^ 52 : ℚ) ≤ nearestInt (x / 2 ^ exponent) := by exact_mod_cast rounded
    exact mul_le_mul_of_nonneg_right this power.le

private theorem nearest_mono_pos {x y : ℚ} (positive : 0 < x) (le : x ≤ y) :
    nearest x ≤ nearest y := by
  have fitsX := unit_exponent_fits positive
  have fitsY := unit_exponent_fits (positive.trans_le le)
  have exponents : unitExponent x ≤ unitExponent y := by
    unfold unitExponent
    rw [abs_of_pos positive, abs_of_pos (positive.trans_le le)]
    have := Int.log_mono_right (b := 2) positive le
    omega
  rcases exponents.eq_or_lt with same | less
  · have power := two_power_pos (unitExponent y)
    rw [nearest, nearest, same]
    apply mul_le_mul_of_nonneg_right _ power.le
    exact_mod_cast nearest_int_mono (div_le_div_of_nonneg_right le power.le)
  · -- The end of the lower binade is not beyond the beginning of the higher one.
    have last := (nearest_bounds positive fitsX).1
    have first : 2 ^ 52 * 2 ^ unitExponent y ≤ nearest y := by
      refine (nearest_bounds (positive.trans_le le) fitsY).2.resolve_right fun same => ?_
      have := fitsX.least
      omega
    have step : (2 : ℚ) ^ (unitExponent x + 1) ≤ 2 ^ unitExponent y := two_power_le (by omega)
    rw [two_power_succ] at step
    linarith

theorem nearest_mono {x y : ℚ} (le : x ≤ y) : nearest x ≤ nearest y := by
  rcases lt_trichotomy 0 x with positive | rfl | negative
  · exact nearest_mono_pos positive le
  · rw [nearest_zero]
    exact nearest_nonneg le
  · rcases lt_or_ge y 0 with below | above
    · have mirrored := nearest_mono_pos (neg_pos.mpr below) (neg_le_neg le)
      rw [nearest_neg, nearest_neg] at mirrored
      linarith
    · have left := nearest_nonneg (neg_nonneg.mpr negative.le)
      rw [nearest_neg] at left
      linarith [nearest_nonneg above]

/-- The numbers of 53 bits over a unit are rounded already. -/
theorem nearest_of_short {significand : ℕ} {exponent : ℤ} (least : leastExponent ≤ exponent)
    (short : significand < 2 ^ 53) :
    nearest ((significand : ℚ) * 2 ^ exponent) = significand * 2 ^ exponent := by
  rcases Nat.eq_zero_or_pos significand with rfl | some
  · simp
  have power := two_power_pos exponent
  have positive : (0 : ℚ) < significand * 2 ^ exponent :=
    mul_pos (by exact_mod_cast some) power
  have fits := unit_exponent_fits positive
  generalize unitExponent ((significand : ℚ) * 2 ^ exponent) = settled at fits
  have finer : settled ≤ exponent := by
    by_contra coarser
    have full : 2 ^ 52 * 2 ^ settled ≤ (significand : ℚ) * 2 ^ exponent :=
      fits.above.resolve_right (by omega)
    have step : (2 : ℚ) ^ (exponent + 1) ≤ 2 ^ settled := two_power_le (by omega)
    rw [two_power_succ] at step
    have : (significand : ℚ) < 2 ^ 53 := by exact_mod_cast short
    nlinarith
  obtain ⟨shift, rfl⟩ : ∃ shift : ℕ, exponent = settled + shift :=
    ⟨(exponent - settled).toNat, by omega⟩
  have unit := two_power_pos settled
  have whole : (significand : ℚ) * 2 ^ (settled + (shift : ℤ)) =
      ((significand * 2 ^ shift : ℤ) : ℚ) * 2 ^ settled := by
    rw [zpow_add₀ (by norm_num), zpow_natCast]
    push_cast
    ring
  rw [nearest_of_fits positive fits, whole, mul_div_cancel_right₀ _ unit.ne', nearest_int_cast]

/-! ## Values -/

/-- The value of a finite number. -/
def value : Binary64 → ℚ
  | .finite negative significand exponent => (signed negative significand : ℤ) * 2 ^ exponent
  | _ => 0

theorem value_ratio (negative : Bool) (significand : Nat) (exponent : Int) :
    (finite negative significand exponent).value =
      (signed negative (ratio significand exponent).1 : ℤ) / (ratio significand exponent).2 := by
  have parts := (ratio_spec significand exponent).2
  cases negative with
  | false => simpa [value, signed] using parts.symm
  | true => simpa [value, signed, neg_div] using parts.symm

theorem nearest_value {number : Binary64} (normal : number.Normal) :
    nearest number.value = number.value := by
  cases number with
  | nan => exact nearest_zero
  | infinite => exact nearest_zero
  | finite negative significand exponent =>
      have short := nearest_of_short normal.1 normal.2.2.1
      cases negative with
      | false => simpa [value, signed] using short
      | true => simpa [value, signed, nearest_neg] using short

private theorem limit_power (bits : ℕ) (exponent : ℤ) (whole : bits + exponent = 1024) :
    (2 : ℚ) ^ 1024 = 2 ^ bits * 2 ^ exponent := by
  rw [← zpow_natCast, ← zpow_natCast, ← zpow_add₀ (by norm_num), whole]
  rfl

/-- The power of two after the last binade. -/
theorem nearest_limit : nearest (2 ^ 1024) = 2 ^ 1024 := by
  have short : nearest ((2 ^ 52 : ℕ) * 2 ^ (972 : ℤ)) = (2 ^ 52 : ℕ) * 2 ^ (972 : ℤ) :=
    nearest_of_short (by decide) (by decide)
  rw [Nat.cast_pow, Nat.cast_ofNat, ← limit_power 52 972 (by norm_num)] at short
  exact short

/-- No finite number reaches it. -/
theorem value_lt_limit {number : Binary64} (normal : number.Normal) : number.value < 2 ^ 1024 := by
  cases number with
  | nan => exact pow_pos (by norm_num) _
  | infinite => exact pow_pos (by norm_num) _
  | finite negative significand exponent =>
      obtain ⟨-, greatest, short, -⟩ := normal
      have power := two_power_pos exponent
      have limit : (2 : ℚ) ^ exponent ≤ 2 ^ (971 : ℤ) := two_power_le greatest
      have whole := limit_power 53 971 (by norm_num)
      have bits : (significand : ℚ) < 2 ^ 53 := by exact_mod_cast short
      have below : (signed negative significand : ℤ) ≤ (significand : ℚ) := by
        cases negative <;> simp [signed]
      rw [whole, value]
      calc ((signed negative significand : ℤ) : ℚ) * 2 ^ exponent
          ≤ significand * 2 ^ exponent := mul_le_mul_of_nonneg_right below power.le
        _ < 2 ^ 53 * 2 ^ exponent := mul_lt_mul_of_pos_right bits power
        _ ≤ 2 ^ 53 * 2 ^ (971 : ℤ) := mul_le_mul_of_nonneg_left limit (by norm_num)

theorem le_iff_value {first second : Binary64} (one : first.isFinite = true)
    (other : second.isFinite = true) : first.le second = true ↔ first.value ≤ second.value := by
  cases first <;> cases second <;> try contradiction
  rename_i negA sigA expA negB sigB expB
  have denA : (0 : ℚ) < (ratio sigA expA).2 := by exact_mod_cast (ratio_spec sigA expA).1
  have denB : (0 : ℚ) < (ratio sigB expB).2 := by exact_mod_cast (ratio_spec sigB expB).1
  rw [value_ratio, value_ratio, div_le_div_iff₀ denA denB, le]
  dsimp only
  rw [decide_eq_true_eq]
  exact_mod_cast Iff.rfl

theorem infinite_le {number : Binary64} (some : number ≠ .nan) :
    (infinite true).le number = true := by
  cases number with
  | nan => exact absurd rfl some
  | infinite => rfl
  | finite => rfl

theorem le_infinite {number : Binary64} (some : number ≠ .nan) :
    number.le (infinite false) = true := by
  cases number with
  | nan => exact absurd rfl some
  | infinite negative => cases negative <;> rfl
  | finite => rfl

/-- How a ratio is rounded: to the nearest number, to zero with its sign, or beyond the range. -/
inductive Rounded (negative : Bool) (x : ℚ) : Binary64 → Prop
  | finite {significand : Nat} {exponent : Int} (same : nearest x = significand * 2 ^ exponent) :
      Rounded negative x (.finite negative significand exponent)
  | infinite (beyond : 2 ^ 1024 ≤ nearest x) : Rounded negative x (.infinite negative)

/-- A significand that carries is written with the next exponent. -/
theorem carry_spec (rounded : Nat) (exponent : Int) :
    ∃ (significand : Nat) (settled : Int),
      (if rounded = Nat.pow 2 53 then (Nat.pow 2 52, exponent + 1) else (rounded, exponent)) =
          (significand, settled) ∧
        (rounded : ℚ) * 2 ^ exponent = significand * 2 ^ settled ∧
        (settled = exponent ∨ settled = exponent + 1 ∧ significand = 2 ^ 52) := by
  by_cases carries : rounded = Nat.pow 2 53
  · refine ⟨Nat.pow 2 52, exponent + 1, if_pos carries, ?_, .inr ⟨rfl, rfl⟩⟩
    rw [carries, two_power_succ, nat_power, nat_power]
    push_cast
    ring
  · exact ⟨rounded, exponent, if_neg carries, rfl, .inl rfl⟩

theorem limit_le_of_beyond {exponent : Int} (beyond : greatestExponent < exponent) :
    (2 : ℚ) ^ 1024 ≤ 2 ^ 52 * 2 ^ exponent := by
  rw [limit_power 52 972 (by norm_num)]
  exact mul_le_mul_of_nonneg_left (two_power_le (Int.add_one_le_of_lt beyond)) (by norm_num)

theorem of_ratio_rounded (negative : Bool) (num : Nat) {den : Nat} (denPositive : 0 < den) :
    Rounded negative ((num : ℚ) / den) (ofRatio negative num den) := by
  rcases Nat.eq_zero_or_pos num with rfl | numPositive
  · rw [ofRatio, if_pos (.inl rfl)]
    exact .finite (by simp)
  have positive : (0 : ℚ) < (num : ℚ) / den :=
    div_pos (by exact_mod_cast numPositive) (by exact_mod_cast denPositive)
  have fits := exponent_of_fits numPositive denPositive
  have same := nearest_of_fits positive fits
  have bounds := (nearest_bounds positive fits).2
  obtain ⟨bottomPositive, scaled⟩ := scale_down_spec num denPositive (exponentOf num den)
  rw [← scaled, round_ratio_nearest _ bottomPositive] at same
  rw [ofRatio, if_neg (by omega)]
  dsimp only
  generalize roundRatio (scaleDown num den (exponentOf num den)).1
    (scaleDown num den (exponentOf num den)).2 = rounded at *
  generalize exponentOf num den = exponent at *
  push_cast at same
  obtain ⟨significand, settled, written, kept, carried⟩ := carry_spec rounded exponent
  have value : nearest ((num : ℚ) / den) = significand * 2 ^ settled := same.trans kept
  simp only [written]
  by_cases nothing : significand = 0
  · rw [if_pos nothing]
    refine .finite ?_
    rw [value, nothing]
    simp
  rw [if_neg nothing]
  by_cases beyond : greatestExponent < settled
  · rw [if_pos beyond]
    refine .infinite ((limit_le_of_beyond beyond).trans ?_)
    rcases carried with rfl | ⟨-, rfl⟩
    · refine bounds.resolve_right fun least => ?_
      unfold greatestExponent at beyond
      unfold leastExponent at least
      omega
    · rw [value, Nat.cast_pow, Nat.cast_ofNat]
  · rw [if_neg beyond]
    exact .finite value

section

variable {negative : Bool} {x : ℚ} {number : Binary64}

theorem Rounded.value (rounded : Rounded negative x number) (finite : number.isFinite = true) :
    number.value = (if negative then -1 else 1) * nearest x := by
  cases rounded with
  | finite same => cases negative <;> simp [Binary64.value, signed, same]
  | infinite => cases finite

end

theorem value_of_ratio {negative : Bool} {num den : Nat} (denPositive : 0 < den)
    (finite : (ofRatio negative num den).isFinite = true) :
    (ofRatio negative num den).value = nearest ((signed negative num : ℤ) / den) := by
  rw [(of_ratio_rounded negative num denPositive).value finite]
  cases negative with
  | false => simp [signed]
  | true => simp [signed, neg_div, nearest_neg]

/-! ## Sums -/

section

variable {negA negB : Bool} {left right den : Nat}

theorem signed_add_same (negative : Bool) (left right : Nat) :
    signed negative left + signed negative right = signed negative (left + right) := by
  cases negative <;> simp [signed]
  ring

theorem signed_add_less (apart : negA ≠ negB) (less : right < left) :
    signed negA left + signed negB right = signed negA (left - right) := by
  cases negA <;> cases negB <;> simp_all [signed] <;> omega

theorem signed_add_self (apart : negA ≠ negB) : signed negA left + signed negB left = 0 := by
  cases negA <;> cases negB <;> simp_all [signed]

/-- Magnitudes over one denominator, added with their signs and rounded once. -/
theorem value_of_sum {sum : Binary64} (positive : 0 < den)
    (added : sum =
      if negA = negB then ofRatio negA (left + right) den
      else if right < left then ofRatio negA (left - right) den
      else if left < right then ofRatio negB (right - left) den
      else zero false)
    (finite : sum.isFinite = true) :
    sum.value = nearest ((signed negA left + signed negB right : ℤ) / den) := by
  subst added
  by_cases same : negA = negB
  · rw [if_pos same] at finite ⊢
    rw [value_of_ratio positive finite, ← same, signed_add_same]
  rw [if_neg same] at finite ⊢
  rcases lt_trichotomy right left with less | rfl | less
  · rw [if_pos less] at finite ⊢
    rw [value_of_ratio positive finite, signed_add_less same less]
  · rw [signed_add_self same]
    simp [zero, value, signed]
  · rw [if_neg less.not_gt, if_pos less] at finite ⊢
    rw [value_of_ratio positive finite, add_comm, signed_add_less (Ne.symm same) less]

end

theorem value_add_value (negA negB : Bool) (sigA sigB : Nat) (expA expB : Int) :
    (Binary64.finite negA sigA expA).value + (Binary64.finite negB sigB expB).value =
      (signed negA ((ratio sigA expA).1 * (ratio sigB expB).2) +
        signed negB ((ratio sigB expB).1 * (ratio sigA expA).2) : ℤ) /
          ((ratio sigA expA).2 * (ratio sigB expB).2 : ℕ) := by
  have denA : ((ratio sigA expA).2 : ℚ) ≠ 0 := by exact_mod_cast (ratio_spec sigA expA).1.ne'
  have denB : ((ratio sigB expB).2 : ℚ) ≠ 0 := by exact_mod_cast (ratio_spec sigB expB).1.ne'
  rw [value_ratio, value_ratio]
  cases negA <;> cases negB <;> simp only [signed, Bool.false_eq_true, if_true, if_false] <;>
    push_cast <;> field_simp

theorem value_add {first second : Binary64} (one : first.isFinite = true)
    (other : second.isFinite = true) (finite : (first.add second).isFinite = true) :
    (first.add second).value = nearest (first.value + second.value) := by
  cases first with
  | nan | infinite => cases one
  | finite negA sigA expA =>
      cases second with
      | nan | infinite => cases other
      | finite negB sigB expB =>
          rw [value_add_value]
          exact value_of_sum (Nat.mul_pos (ratio_spec sigA expA).1 (ratio_spec sigB expB).1) rfl finite

end FixtureImages.Binary64
