import FixtureImages.Proofs.Decimal.Nearest
import FixtureImages.Time

/-!
# Deadlines on a clock

A clock shows the seconds that have passed rounded to binary64, and a deadline is the rounded sum of
what it shows and a timeout, which has come when the clock shows no less. There is a first tick at
which that is so. Time is taken exactly when this is the first tick that is no earlier than the
timeout after the start, by rationals.
-/

namespace FixtureImages

set_option autoImplicit false

open Binary64 (nearest nearest_limit nearest_mono nearest_value)

variable {perSecond ticks start now later : Nat} {deadline seconds : Binary64}

/-! ## What a clock shows -/

/-- A clock shows the number nearest to the seconds that have passed. -/
theorem value_seconds (positive : 0 < perSecond)
    (finite : (secondsOf perSecond ticks).isFinite = true) :
    (secondsOf perSecond ticks).value = nearest (ticks / perSecond) := by
  rw [secondsOf, Binary64.value_of_ratio positive finite]
  rfl

/-- Beyond the range a clock shows infinitely many seconds. -/
theorem seconds_beyond (positive : 0 < perSecond)
    (infinite : (secondsOf perSecond ticks).isFinite = false) :
    secondsOf perSecond ticks = .infinite false ∧ 2 ^ 1024 ≤ nearest (ticks / perSecond) := by
  have rounded := Binary64.of_ratio_rounded false ticks positive
  rw [← secondsOf] at rounded
  generalize secondsOf perSecond ticks = shown at *
  cases rounded with
  | finite => cases infinite
  | infinite beyond => exact ⟨rfl, beyond⟩

theorem seconds_number (positive : 0 < perSecond) : secondsOf perSecond ticks ≠ .nan := by
  have rounded := Binary64.of_ratio_rounded false ticks positive
  intro none
  rw [← secondsOf, none] at rounded
  cases rounded

/-- A finite deadline has come when the seconds that have passed, rounded, are no fewer. -/
theorem le_seconds_iff (positive : 0 < perSecond) (normal : deadline.Normal)
    (finite : deadline.isFinite = true) :
    deadline.le (secondsOf perSecond now) = true ↔ deadline.value ≤ nearest (now / perSecond) := by
  cases shown : (secondsOf perSecond now).isFinite with
  | true => rw [Binary64.le_iff_value finite shown, value_seconds positive shown]
  | false =>
      obtain ⟨same, beyond⟩ := seconds_beyond positive shown
      have number : deadline ≠ .nan := by
        rintro rfl
        cases finite
      rw [same]
      exact iff_of_true (Binary64.le_infinite number) ((Binary64.value_lt_limit normal).le.trans beyond)

theorem le_seconds_mono (positive : 0 < perSecond) (normal : deadline.Normal)
    (finite : deadline.isFinite = true) (earlier : now ≤ later)
    (reached : deadline.le (secondsOf perSecond now) = true) :
    deadline.le (secondsOf perSecond later) = true := by
  rw [le_seconds_iff positive normal finite] at reached ⊢
  refine reached.trans (nearest_mono ?_)
  have ticks : (now : ℚ) ≤ later := by exact_mod_cast earlier
  exact div_le_div_of_nonneg_right ticks (Nat.cast_nonneg perSecond)

/-- So many ticks make up the value of a number. -/
theorem value_le_ticks (positive : 0 < perSecond) {negative : Bool} {significand : Nat}
    {exponent : Int}
    (passed : ticksOf perSecond (.finite negative significand exponent) ≤ now) :
    (Binary64.finite negative significand exponent).value ≤ now / perSecond := by
  have unit : (0 : ℚ) < perSecond := by exact_mod_cast positive
  have some := (Binary64.ratio_spec significand exponent).1
  have den0 : (0 : ℚ) < (Binary64.ratio significand exponent).2 := by exact_mod_cast some
  rw [Binary64.value_ratio]
  cases negative with
  | true =>
      refine le_trans ?_ (div_nonneg (Nat.cast_nonneg now) unit.le)
      simp only [Binary64.signed, if_true, Int.cast_neg, Int.cast_natCast, neg_div]
      exact neg_nonpos.mpr (div_nonneg (Nat.cast_nonneg _) (Nat.cast_nonneg _))
  | false =>
      simp only [ticksOf, Bool.false_eq_true, if_false] at passed
      simp only [Binary64.signed, Bool.false_eq_true, if_false, Int.cast_natCast]
      generalize Binary64.ratio significand exponent = parts at *
      obtain ⟨num, den⟩ := parts
      dsimp only at *
      have whole : num * perSecond + den - 1 < (now + 1) * den :=
        (Nat.div_lt_iff_lt_mul some).mp (Nat.lt_succ_of_le passed)
      have enough : num * perSecond ≤ now * den := by
        rw [Nat.succ_mul] at whole
        omega
      rw [div_le_div_iff₀ den0 unit]
      exact_mod_cast enough

private theorem power_le_of_ticks {exponent : Nat} (positive : 0 < perSecond)
    (passed : Nat.pow 2 exponent * perSecond ≤ now) : (2 : ℚ) ^ exponent ≤ now / perSecond := by
  rw [le_div_iff₀ (by exact_mod_cast positive)]
  exact_mod_cast passed

/-- The ticks that make up the value of a deadline are enough for it to come. -/
theorem ticks_of_reached (positive : 0 < perSecond) (normal : deadline.Normal)
    (number : deadline ≠ .nan) (passed : ticksOf perSecond deadline ≤ now) :
    deadline.le (secondsOf perSecond now) = true := by
  cases deadline with
  | nan => exact absurd rfl number
  | finite negative significand exponent =>
      rw [le_seconds_iff positive normal rfl, ← nearest_value normal]
      exact nearest_mono (value_le_ticks positive passed)
  | infinite negative =>
      cases negative with
      | true => exact Binary64.infinite_le (seconds_number positive)
      | false =>
          -- So many ticks are beyond the range.
          have beyond := nearest_mono (power_le_of_ticks positive passed)
          rw [nearest_limit] at beyond
          cases shown : (secondsOf perSecond now).isFinite with
          | false => rw [(seconds_beyond positive shown).1]; rfl
          | true =>
              rw [← value_seconds positive shown] at beyond
              have normal : (secondsOf perSecond now).Normal := Binary64.of_ratio_normal _ _ _
              exact absurd beyond (not_le.mpr (Binary64.value_lt_limit normal))

/-- Before a deadline there are fewer ticks than make up its value. -/
theorem ticks_of_early (positive : 0 < perSecond) (normal : deadline.Normal)
    (early : (secondsOf perSecond now).lt deadline = true) : now < ticksOf perSecond deadline := by
  rw [Binary64.lt, Bool.and_eq_true, Bool.not_eq_true'] at early
  by_contra passed
  have number : deadline ≠ .nan := by
    rintro rfl
    generalize secondsOf perSecond now = shown at early
    cases shown <;> cases early.1
  have reached := ticks_of_reached positive normal number (not_lt.mp passed)
  rw [early.2] at reached
  cases reached

/-! ## The first tick of a deadline -/

/-- A deadline comes with a tick: it has come at this tick and at all later ones. -/
def ComesWith (perSecond : Nat) (deadline : Binary64) (first : Nat) : Prop :=
  ∀ now, deadline.le (secondsOf perSecond now) = true ↔ first ≤ now

theorem exists_comes_with (positive : 0 < perSecond) (normal : deadline.Normal)
    (finite : deadline.isFinite = true) : ∃ first, ComesWith perSecond deadline first := by
  classical
  have number : deadline ≠ .nan := by
    rintro rfl
    cases finite
  have ended : ∃ now, deadline.le (secondsOf perSecond now) = true :=
    ⟨_, ticks_of_reached positive normal number le_rfl⟩
  refine ⟨Nat.find ended, fun now => ⟨Nat.find_min' ended, fun reached => ?_⟩⟩
  exact le_seconds_mono positive normal finite reached (Nat.find_spec ended)

section

variable {first : Nat} (comes : ComesWith perSecond deadline first)

include comes

theorem ComesWith.number : deadline ≠ .nan := by
  rintro rfl
  cases (comes first).mpr le_rfl

end

/-! ## Deadlines in seconds -/

theorem finite_of_add {first second : Binary64} (finite : (first.add second).isFinite = true) :
    first.isFinite = true ∧ second.isFinite = true := by
  cases first <;> cases second <;> first | exact ⟨rfl, rfl⟩ | cases finite | skip
  rename_i left right
  cases left <;> cases right <;> cases finite

/-- When a deadline has come that stays finite, with all that is rounded: what the clock showed at
the start, the sum of that and the timeout, and what the clock shows now. -/
theorem deadline_reached_iff (positive : 0 < perSecond)
    (finite : ((secondsOf perSecond start).add seconds).isFinite = true) :
    ((secondsOf perSecond start).add seconds).le (secondsOf perSecond now) = true ↔
      nearest (nearest (start / perSecond) + seconds.value) ≤ nearest (now / perSecond) := by
  obtain ⟨shown, number⟩ := finite_of_add finite
  rw [le_seconds_iff positive (Binary64.add_normal _ _) finite,
    Binary64.value_add shown number finite, value_seconds positive shown]

/-- Time is taken exactly over a timeout: the deadline that a clock comes to has come when so many
seconds have passed since the start. The timeout is what the number of seconds stands for, such as a
tenth for the binary64 number nearest to it. -/
def TakenExactly (perSecond start : Nat) (seconds : Binary64) (timeout : ℚ) : Prop :=
  ∀ now : Nat, ((secondsOf perSecond start).add seconds).le (secondsOf perSecond now) = true ↔
    (start : ℚ) / perSecond + timeout ≤ now / perSecond

/-- The first tick that is no earlier than so many seconds after another. -/
def instantAfter (perSecond : Nat) (timeout : ℚ) (start : Nat) : Nat :=
  ⌈(start : ℚ) + timeout * perSecond⌉.toNat

theorem instant_after_le_iff {timeout : ℚ} (positive : 0 < perSecond) :
    instantAfter perSecond timeout start ≤ now ↔
      (start : ℚ) / perSecond + timeout ≤ now / perSecond := by
  have unit : (0 : ℚ) < perSecond := by exact_mod_cast positive
  rw [instantAfter, Int.toNat_le, Int.ceil_le, Int.cast_natCast, le_div_iff₀ unit, add_mul,
    div_mul_cancel₀ _ unit.ne']

/-- If time is taken exactly, the deadline comes with the first tick so many seconds later. -/
theorem TakenExactly.comes {timeout : ℚ} (exact : TakenExactly perSecond start seconds timeout)
    (positive : 0 < perSecond) :
    ComesWith perSecond ((secondsOf perSecond start).add seconds)
      (instantAfter perSecond timeout start) :=
  fun now => (exact now).trans (instant_after_le_iff positive).symm

/-- Over every timeout whose deadline stays finite time is taken exactly, for the seconds up to the
tick with which it comes. -/
theorem exists_taken_exactly (positive : 0 < perSecond)
    (finite : ((secondsOf perSecond start).add seconds).isFinite = true) :
    ∃ timeout, TakenExactly perSecond start seconds timeout := by
  obtain ⟨first, comes⟩ := exists_comes_with positive (Binary64.add_normal _ _) finite
  have unit : (0 : ℚ) < perSecond := by exact_mod_cast positive
  refine ⟨(first - start) / perSecond, fun now => (comes now).trans ?_⟩
  rw [← add_div, add_sub_cancel, div_le_div_iff_of_pos_right unit, Nat.cast_le]

end FixtureImages
