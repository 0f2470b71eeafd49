import FixtureImages.Decimal.Notation
import FixtureImages.Decimal.Numeral
import FixtureImages.Proofs.Decimal.Shortest
import Mathlib.Data.List.Basic

/-!
# Decimal notation reads back

A written number has digits on both sides of a point and perhaps an exponent. Reading it rounds the
rational that it stands for, so a number comes back whenever that rational lies in its interval.
-/

namespace FixtureImages

set_option autoImplicit false

/-- The number that decimal digits spell. -/
abbrev spelled (digits : List Char) : Nat := Nat.ofDigitChars 10 digits 0

theorem spelled_append (front back : List Char) :
    spelled (front ++ back) = 10 ^ back.length * spelled front + spelled back := by
  rw [spelled, Nat.ofDigitChars_append, Nat.ofDigitChars_eq_ofDigitChars_zero]

theorem spelled_zeros (count : Nat) : spelled (List.replicate count '0') = 0 := by
  rw [spelled, Nat.ofDigitChars_replicate_zero, Nat.mul_zero]

def AllDigits (text : List Char) : Prop := ∀ c ∈ text, c.isDigit = true

theorem AllDigits.append {front back : List Char} (first : AllDigits front)
    (second : AllDigits back) : AllDigits (front ++ back) := by
  intro c member
  rcases List.mem_append.mp member with early | late
  · exact first c early
  · exact second c late

theorem all_digits_zeros (count : Nat) : AllDigits (List.replicate count '0') := by
  intro c member
  rw [List.eq_of_mem_replicate member]
  rfl

theorem nat_digits (n : Nat) :
    (toString n).toList = Nat.toDigits 10 n ∧ AllDigits (Nat.toDigits 10 n) := by
  constructor
  · rw [Nat.toString_eq_repr, Nat.repr_eq_ofList_toDigits, String.toList_ofList]
  · exact fun c member => Nat.isDigit_of_mem_toDigits (by decide) (by decide) member

theorem digit_range {c : Char} (digit : c.isDigit = true) : 48 ≤ c.toNat ∧ c.toNat ≤ 57 := by
  simpa [Char.isDigit, UInt32.le_iff_toNat_le] using digit

/-- Leading digits are cut off up to the first other character. -/
theorem cut_digits_append {digits : List Char} (all : AllDigits digits) (rest : List Char)
    (stops : ∀ c, rest.head? = some c → c.isDigit = false) (number count : Nat) :
    cutDigits number count (digits ++ rest) =
      (Nat.ofDigitChars 10 digits number, count + digits.length, rest) := by
  induction digits generalizing number count with
  | nil =>
      cases rest with
      | nil => rfl
      | cons c rest => simp [cutDigits, stops c rfl]
  | cons c digits ih =>
      have own : c.isDigit = true := all c List.mem_cons_self
      rw [List.cons_append, cutDigits, if_pos own,
        ih fun other member => all other (List.mem_cons_of_mem _ member)]
      simp only [Nat.ofDigitChars_cons, List.length_cons, Prod.mk.injEq, and_true]
      exact ⟨by rw [Nat.mul_comm number 10]; rfl, by omega⟩

/-! ## Written numbers -/

/-- How an exponent is written: not at all, or with its mark and sign. -/
inductive IsExponent : List Char → Int → Prop
  | none : IsExponent [] 0
  | up (digits : List Char) : digits ≠ [] → AllDigits digits →
      IsExponent ('e' :: '+' :: digits) (spelled digits)
  | down (digits : List Char) : digits ≠ [] → AllDigits digits →
      IsExponent ('e' :: '-' :: digits) (-(spelled digits : Int))

theorem IsExponent.head {text : List Char} {shift : Int} (exponent : IsExponent text shift) (c : Char)
    (first : text.head? = some c) : c = 'e' := by
  cases exponent with
  | none => cases first
  | up digits => exact (Option.some.inj first).symm
  | down digits => exact (Option.some.inj first).symm

theorem read_exponent_eq {text : List Char} {shift : Int} (exponent : IsExponent text shift) :
    readExponent text = some shift := by
  have reads (digits : List Char) (some : digits ≠ []) (all : AllDigits digits) :
      cutDigits 0 0 digits = (spelled digits, digits.length, []) := by
    have cut := cut_digits_append all [] (by simp) 0 0
    rwa [List.append_nil, Nat.zero_add] at cut
  cases exponent with
  | none => rfl
  | up digits some all => simp [readExponent, cutSign, reads digits some all, some]
  | down digits some all => simp [readExponent, cutSign, reads digits some all, some]

theorem exponent_text_form (exponent : Int) :
    IsExponent (Binary64.exponentText exponent).toList exponent := by
  obtain ⟨same, all⟩ := nat_digits exponent.natAbs
  have padded : ∃ digits, digits ≠ [] ∧ AllDigits digits ∧ spelled digits = exponent.natAbs ∧
      (if (toString exponent.natAbs).length < 2 then "0" ++ toString exponent.natAbs
        else toString exponent.natAbs).toList = digits := by
    split
    · refine ⟨'0' :: Nat.toDigits 10 exponent.natAbs, by simp, ?_, ?_, ?_⟩
      · intro c member
        rcases List.mem_cons.mp member with rfl | later
        · rfl
        · exact all c later
      · exact Nat.ofDigitChars_ten_toDigits
      · simp
    · exact ⟨_, Nat.toDigits_ne_nil, all, Nat.ofDigitChars_ten_toDigits, same⟩
  obtain ⟨digits, some, digitsAll, value, text⟩ := padded
  unfold Binary64.exponentText
  dsimp only
  rw [String.toList_append, text]
  split
  · rename_i negative
    have form := IsExponent.down digits some digitsAll
    rw [value] at form
    rwa [show -(exponent.natAbs : Int) = exponent by omega] at form
  · rename_i positive
    have form := IsExponent.up digits some digitsAll
    rw [value] at form
    rwa [show (exponent.natAbs : Int) = exponent by omega] at form

/-- A number as it is written: digits, a point, digits, and perhaps an exponent. -/
structure PointedNumeral where
  whole : List Char
  fraction : List Char
  suffix : List Char
  shift : Int
  someWhole : whole ≠ []
  someFraction : fraction ≠ []
  wholeDigits : AllDigits whole
  fractionDigits : AllDigits fraction
  isSuffix : IsExponent suffix shift

namespace PointedNumeral

def chars (numeral : PointedNumeral) : List Char :=
  numeral.whole ++ '.' :: (numeral.fraction ++ numeral.suffix)

/-- The rational that a written number stands for. -/
def amount (numeral : PointedNumeral) : ℚ :=
  spelled (numeral.whole ++ numeral.fraction) *
    10 ^ (numeral.shift - (numeral.fraction.length : Int))

/-- Reading a written number without a sign rounds the rational that it stands for. -/
theorem read_unsigned (numeral : PointedNumeral) (negative : Bool) :
    readUnsignedDecimal negative numeral.chars =
      some (.ofDecimal negative (spelled (numeral.whole ++ numeral.fraction))
        (numeral.shift - (numeral.fraction.length : Int))) := by
  have point : ∀ c, ('.' :: (numeral.fraction ++ numeral.suffix)).head? = some c →
      c.isDigit = false := by
    intro c first
    cases first
    rfl
  have mark : ∀ c, numeral.suffix.head? = some c → c.isDigit = false := by
    intro c first
    rw [numeral.isSuffix.head c first]
    rfl
  have some : numeral.whole.length ≠ 0 := by simpa using numeral.someWhole
  unfold readUnsignedDecimal chars
  rw [cut_digits_append numeral.wholeDigits _ point]
  have cut := cut_digits_append numeral.fractionDigits _ mark (spelled numeral.whole) 0
  change (if 0 + numeral.whole.length = 0 ∧
      (cutDigits (spelled numeral.whole) 0 (numeral.fraction ++ numeral.suffix)).2.1 = 0 then _
    else (readExponent
        (cutDigits (spelled numeral.whole) 0 (numeral.fraction ++ numeral.suffix)).2.2).map
      fun exponent => Binary64.ofDecimal negative
        (cutDigits (spelled numeral.whole) 0 (numeral.fraction ++ numeral.suffix)).1
        (exponent -
          ((cutDigits (spelled numeral.whole) 0 (numeral.fraction ++ numeral.suffix)).2.1 : Int)))
    = _
  rw [cut, if_neg (by omega)]
  simp only [read_exponent_eq numeral.isSuffix, Nat.zero_add, Option.map_some,
    Nat.ofDigitChars_append]

end PointedNumeral

namespace Binary64

/-! ## Rounding a decimal -/

theorem two_power_log_bounds (log : Nat) :
    10 ^ (log / 4) ≤ 2 ^ log ∧ 2 * 2 ^ log ≤ 10 ^ (log / 3 + 1) := by
  constructor
  · calc 10 ^ (log / 4) ≤ 16 ^ (log / 4) := Nat.pow_le_pow_left (by decide) _
      _ = 2 ^ (4 * (log / 4)) := by rw [Nat.pow_mul]
      _ ≤ 2 ^ log := Nat.pow_le_pow_right (by decide) (by omega)
  · calc 2 * 2 ^ log = 2 ^ (log + 1) := by rw [Nat.pow_succ, Nat.mul_comm]
      _ ≤ 2 ^ (3 * (log / 3 + 1)) := Nat.pow_le_pow_right (by decide) (by omega)
      _ = 8 ^ (log / 3 + 1) := by rw [Nat.pow_mul]
      _ ≤ 10 ^ (log / 3 + 1) := Nat.pow_le_pow_left (by decide) _

/-- The rationals that are rounded to a positive number lie within the range of the format. -/
theorem RoundsTo.range {significand : Nat} {exponent : Int} {negative : Bool} {value : ℚ}
    (normal : (finite negative significand exponent).Normal) (positive : 0 < significand)
    (rounds : RoundsTo significand exponent value) :
    (10 : ℚ) ^ (-399 : Int) ≤ value ∧ value < 10 ^ (400 : Int) := by
  obtain ⟨least, greatest, short, -⟩ := normal
  have some : (1 : ℚ) ≤ significand := by exact_mod_cast positive
  have small : (significand : ℚ) + 1 ≤ 2 ^ 53 := by exact_mod_cast short
  have power := two_power_pos exponent
  have first : (2 : ℚ) ^ leastExponent ≤ 2 ^ exponent := two_power_le least
  have last : (2 : ℚ) ^ exponent ≤ 2 ^ greatestExponent := two_power_le greatest
  have lowEnd := low_quarters_le significand exponent
  have low := rounds.low
  have high := rounds.high
  constructor
  · have tiny : (2 : ℚ) * 10 ^ (-399 : Int) ≤ 2 ^ leastExponent := by
      have powers : (2 : ℚ) ^ (-1075 : Int) ≤ 2 ^ leastExponent / 2 := by
        rw [le_div_iff₀ (by norm_num), mul_comm, ← two_power_succ]
        exact two_power_le (by decide)
      have tens : (10 : ℚ) ^ (-399 : Int) ≤ 2 ^ (-1075 : Int) := by
        rw [zpow_neg, zpow_neg]
        apply inv_anti₀ (by positivity)
        calc (2 : ℚ) ^ (1075 : Int) ≤ 2 ^ ((3 : Int) * 399) := two_power_le (by decide)
          _ = 8 ^ (399 : Int) := by rw [zpow_mul]; norm_num
          _ ≤ 10 ^ (399 : Int) := zpow_le_zpow_left₀ (by decide) (by norm_num) (by norm_num)
      linarith
    nlinarith
  · have huge : 4 * 2 ^ 53 * (2 : ℚ) ^ greatestExponent ≤ 10 ^ (400 : Int) := by
      calc 4 * 2 ^ 53 * (2 : ℚ) ^ greatestExponent = 2 ^ (55 + greatestExponent) := by
            rw [zpow_add₀ (by norm_num)]
            norm_num
        _ ≤ 2 ^ ((3 : Int) * 400) := two_power_le (by decide)
        _ = 8 ^ (400 : Int) := by rw [zpow_mul]; norm_num
        _ ≤ 10 ^ (400 : Int) := zpow_le_zpow_left₀ (by decide) (by norm_num) (by norm_num)
    have : (4 * (significand : ℚ) + 2) * 2 ^ exponent ≤ 4 * 2 ^ 53 * 2 ^ greatestExponent :=
      mul_le_mul (by linarith) last power.le (by norm_num)
    have top := ten_power_pos 400
    generalize (10 : ℚ) ^ (400 : Int) = most at *
    linarith

/-- A decimal of the interval is rounded to its number: it is neither so great nor so small that its
size alone would settle what it reads as. -/
theorem of_decimal_eq {significand : Nat} {exponent : Int} (negative : Bool)
    (normal : (finite negative significand exponent).Normal) (positive : 0 < significand)
    {digits : Nat} {scale : Int}
    (rounds : RoundsTo significand exponent (digits * 10 ^ scale)) :
    ofDecimal negative digits scale = finite negative significand exponent := by
  obtain ⟨small, large⟩ := rounds.range normal positive
  have step := ten_power_pos scale
  have some : 0 < digits := by
    refine Nat.pos_of_ne_zero fun none => ?_
    rw [none, Nat.cast_zero, zero_mul] at small
    exact absurd small (not_le.mpr (ten_power_pos _))
  obtain ⟨logLow, logHigh⟩ := log2_bounds some
  rw [zpow_natCast] at logLow logHigh
  obtain ⟨four, three⟩ := two_power_log_bounds digits.log2
  have fourCast : (10 : ℚ) ^ (digits.log2 / 4) ≤ 2 ^ digits.log2 := by exact_mod_cast four
  have threeCast : (2 : ℚ) * 2 ^ digits.log2 ≤ 10 ^ (digits.log2 / 3 + 1) := by
    exact_mod_cast three
  have notGreat : ¬400 < scale + (digits.log2 / 4 : Nat) := by
    intro great
    have : (10 : ℚ) ^ (400 : Int) ≤ digits * 10 ^ scale :=
      calc (10 : ℚ) ^ (400 : Int) ≤ 10 ^ (scale + (digits.log2 / 4 : Nat)) :=
            ten_power_le great.le
        _ = 10 ^ (digits.log2 / 4) * 10 ^ scale := by
            rw [zpow_add₀ (by norm_num), zpow_natCast, mul_comm]
        _ ≤ digits * 10 ^ scale := by gcongr; linarith
    linarith
  have notSmall : ¬scale + (digits.log2 / 3 : Nat) < -400 := by
    intro less
    have : digits * (10 : ℚ) ^ scale < 10 ^ (-399 : Int) :=
      calc digits * (10 : ℚ) ^ scale < 10 ^ (digits.log2 / 3 + 1) * 10 ^ scale := by
            gcongr
            linarith
        _ = 10 ^ (scale + ((digits.log2 / 3 + 1 : Nat) : Int)) := by
            rw [zpow_add₀ (by norm_num), zpow_natCast, mul_comm]
        _ ≤ 10 ^ (-399 : Int) := ten_power_le (by omega)
    linarith
  unfold ofDecimal
  dsimp only
  rw [if_neg (by omega), if_neg notGreat, if_neg notSmall]
  cases scale with
  | ofNat up =>
      apply of_ratio_eq negative normal positive Nat.one_pos
      simpa [nat_power] using rounds
  | negSucc down =>
      apply of_ratio_eq negative normal positive (Nat.pow_pos (by decide))
      rw [zpow_negSucc, ← div_eq_mul_inv] at rounds
      simpa [nat_power] using rounds

/-! ## The text of a decimal -/

/-- Digits on both sides of a point stand for what all digits spell, scaled down by the places behind
it. -/
theorem pointed_amount {numeral : PointedNumeral} {digits : List Char} {scale : Int} (zeros : Nat)
    (same : spelled (numeral.whole ++ numeral.fraction) = spelled digits * 10 ^ zeros)
    (shift : numeral.shift = scale - zeros + numeral.fraction.length) :
    numeral.amount = spelled digits * (10 : ℚ) ^ scale := by
  have power : (10 : ℚ) ^ (numeral.shift - numeral.fraction.length) * 10 ^ zeros = 10 ^ scale := by
    rw [shift, ← zpow_natCast, ← zpow_add₀ (by norm_num)]
    congr 1
    omega
  rw [PointedNumeral.amount, same, ← power]
  push_cast
  ring

/-- A point stands between two of the digits, and an exponent may follow. -/
theorem pointed_inside {digits suffix : List Char} {shift scale : Int} {count : Nat}
    (all : AllDigits digits) (form : IsExponent suffix shift) (some : 0 < count)
    (inside : count < digits.length) (place : shift = scale + ((digits.length : Int) - count)) :
    ∃ numeral : PointedNumeral,
      numeral.chars = digits.take count ++ '.' :: (digits.drop count ++ suffix) ∧
        numeral.amount = spelled digits * 10 ^ scale := by
  have someWhole : digits.take count ≠ [] := by
    rw [ne_eq, List.take_eq_nil_iff, not_or]
    exact ⟨some.ne', List.ne_nil_of_length_pos (by omega)⟩
  have someFraction : digits.drop count ≠ [] := by simpa using inside
  refine ⟨⟨digits.take count, digits.drop count, suffix, shift, someWhole, someFraction,
    fun c member => all c (List.mem_of_mem_take member),
    fun c member => all c (List.mem_of_mem_drop member), form⟩, rfl, pointed_amount 0 ?_ ?_⟩
  · rw [List.take_append_drop, pow_zero, mul_one]
  · simp only [List.length_drop]
    omega

/-- The point stands behind all digits and the zeros that make them as great as they are, and an
exponent may follow. -/
theorem pointed_behind {digits suffix : List Char} {shift : Int} (some : digits ≠ [])
    (all : AllDigits digits) (form : IsExponent suffix shift) (zeros : Nat) :
    ∃ numeral : PointedNumeral,
      numeral.chars = digits ++ List.replicate zeros '0' ++ '.' :: '0' :: suffix ∧
        numeral.amount = spelled digits * 10 ^ (zeros + shift) := by
  refine ⟨⟨digits ++ List.replicate zeros '0', ['0'], suffix, shift, by simp [some], by simp,
    all.append (all_digits_zeros _), all_digits_zeros 1, form⟩, rfl,
    pointed_amount (zeros + 1) ?_ ?_⟩
  · dsimp only
    rw [List.append_assoc, ← List.replicate_succ', spelled_append, spelled_zeros,
      List.length_replicate, Nat.add_zero, Nat.mul_comm]
  · simp only [List.length_singleton]
    omega

/-- The point stands before all digits and the zeros that make them as small as they are. -/
theorem pointed_before {digits : List Char} (some : digits ≠ []) (all : AllDigits digits)
    (zeros : Nat) :
    ∃ numeral : PointedNumeral,
      numeral.chars = '0' :: '.' :: (List.replicate zeros '0' ++ digits) ∧
        numeral.amount = spelled digits * 10 ^ (-((zeros : Int) + digits.length)) := by
  refine ⟨⟨['0'], List.replicate zeros '0' ++ digits, [], 0, by simp, by simp [some],
    all_digits_zeros 1, (all_digits_zeros _).append all, .none⟩, ?_, pointed_amount 0 ?_ ?_⟩
  · simp [PointedNumeral.chars]
  · dsimp only
    rw [← List.append_assoc, List.singleton_append, ← List.replicate_succ, spelled_append,
      spelled_zeros, Nat.mul_zero, Nat.zero_add, pow_zero, Nat.mul_one]
  · simp only [List.length_append, List.length_replicate]
    omega

/-- The text of a decimal has a point, or else is one digit with an exponent. -/
theorem decimal_text_form (decimal : Decimal) :
    (∃ numeral : PointedNumeral,
      decimal.text.toList = numeral.chars ∧ numeral.amount = decimal.amount) ∨
    ∃ digits suffix : List Char, ∃ shift : Int,
      decimal.text.toList = digits ++ suffix ∧ digits ≠ [] ∧ AllDigits digits ∧ suffix ≠ [] ∧
        IsExponent suffix shift ∧ spelled digits * (10 : ℚ) ^ shift = decimal.amount := by
  obtain ⟨same, all⟩ := nat_digits decimal.digits
  have some : Nat.toDigits 10 decimal.digits ≠ [] := Nat.toDigits_ne_nil
  have value : spelled (Nat.toDigits 10 decimal.digits) = decimal.digits :=
    Nat.ofDigitChars_ten_toDigits
  unfold Decimal.text Decimal.amount
  dsimp only
  rw [same]
  generalize Nat.toDigits 10 decimal.digits = digits at *
  generalize decimal.scale = scale
  rw [← value]
  have length : 0 < digits.length := List.length_pos_iff.mpr some
  split
  · have form := exponent_text_form (scale + ((digits.length : Int) - 1))
    by_cases single : digits.drop 1 = []
    · right
      have one : digits.length = 1 := by
        have : digits.length - 1 = 0 := by simpa using congrArg List.length single
        omega
      refine ⟨digits, _, _, ?_, some, all, ?_, form, ?_⟩
      · simp [single, List.take_of_length_le one.le]
      · simp only [exponentText]
        split <;> simp
      · rw [one]
        simp
    · left
      have more : 1 < digits.length := by rwa [List.drop_eq_nil_iff, not_le] at single
      obtain ⟨numeral, chars, amount⟩ := pointed_inside all form Nat.one_pos more rfl
      refine ⟨numeral, ?_, amount⟩
      rw [chars]
      simp [show digits.tail ≠ [] by rwa [← List.drop_one]]
  left
  split
  · rename_i up
    obtain ⟨numeral, chars, amount⟩ := pointed_behind some all .none scale.toNat
    rw [Int.add_zero, Int.toNat_of_nonneg up] at amount
    exact ⟨numeral, by simp [chars], amount⟩
  split
  · rename_i down inside
    have place : (0 : Int) = scale + ((digits.length : Int) -
        ((scale + ((digits.length : Int) - 1)).toNat + 1 : Nat)) := by omega
    obtain ⟨numeral, chars, amount⟩ :=
      pointed_inside all .none (Nat.succ_pos _) (by omega) place
    exact ⟨numeral, by simp [chars], amount⟩
  · rename_i down outside
    obtain ⟨numeral, chars, amount⟩ :=
      pointed_before some all ((-(scale + ((digits.length : Int) - 1))).toNat - 1)
    refine ⟨numeral, by simp [chars], ?_⟩
    rw [amount]
    congr 2
    omega

end Binary64

end FixtureImages
