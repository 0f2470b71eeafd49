import FixtureImages.Decimal.Binary64

/-!
# Shortest decimals

The fewest decimal digits that read back as a given binary64 number. A number owns the interval of
the reals that round to it. On each decimal grid, from one digit to seventeen, only the two
neighbours of the number can lie in that interval; the first grid with a hit gives the digits.
-/

namespace FixtureImages.Binary64

set_option autoImplicit false

/-- Twice the numbers in question over a common denominator: the value, and the ends of the interval
of reals that round to it. The ends belong to it exactly when the significand is even. -/
structure RoundingInterval where
  low : Nat
  value : Nat
  high : Nat
  den : Nat
  closed : Bool

/-- The interval of a positive number. Below a power of two the gap is half as wide. -/
def roundingInterval (significand : Nat) (exponent : Int) : RoundingInterval :=
  let (unit, den) := ratio 1 exponent
  let narrow := significand = Nat.pow 2 52 ∧ leastExponent < exponent
  { low := unit * (4 * significand - if narrow then 1 else 2)
    value := unit * (4 * significand)
    high := unit * (4 * significand + 2)
    den := 4 * den
    closed := significand % 2 = 0 }

def RoundingInterval.owns (interval : RoundingInterval) (num den : Nat) : Bool :=
  let scaled := num * interval.den
  let low := interval.low * den
  let high := interval.high * den
  if interval.closed then low ≤ scaled && scaled ≤ high else low < scaled && scaled < high

/-- `digits * 10 ^ scale`. -/
structure Decimal where
  digits : Nat
  scale : Int
deriving DecidableEq, Repr

def tenPower (exponent : Int) : Nat × Nat :=
  match exponent with
  | .ofNat up => (Nat.pow 10 up, 1)
  | .negSucc down => (1, Nat.pow 10 (down + 1))

/-- The power of ten at or below a positive ratio. -/
def decimalExponent (num den : Nat) : Int :=
  let guess := ((num.log2 : Int) - (den.log2 : Int)) * 30103 / 100000
  let reaches (exponent : Int) : Bool :=
    let (top, bottom) := tenPower exponent
    top * den ≤ num * bottom
  if reaches (guess + 1) then guess + 1
  else if reaches guess then guess
  else if reaches (guess - 1) then guess - 1
  else guess - 2

/-- The neighbour of the value on the grid of multiples of `10 ^ scale` that reads back, the nearer
of two, the even one on a tie. -/
def RoundingInterval.onGrid (interval : RoundingInterval) (scale : Int) : Option Decimal :=
  let (top, bottom) := tenPower scale
  let below := interval.value * bottom / (interval.den * top)
  let remainder := 2 * (interval.value * bottom % (interval.den * top))
  let reads (digits : Nat) : Bool := digits != 0 && interval.owns (digits * top) bottom
  let nearer :=
    if remainder < interval.den * top then below
    else if interval.den * top < remainder then below + 1
    else if below % 2 = 0 then below else below + 1
  let farther := if nearer = below then below + 1 else below
  if reads nearer then some ⟨nearer, scale⟩
  else if reads farther then some ⟨farther, scale⟩
  else none

def Decimal.trim (fuel : Nat) (decimal : Decimal) : Decimal :=
  match fuel with
  | 0 => decimal
  | fuel + 1 =>
      if decimal.digits % 10 = 0 ∧ decimal.digits ≠ 0 then
        Decimal.trim fuel ⟨decimal.digits / 10, decimal.scale + 1⟩
      else decimal

def shortest (significand : Nat) (exponent : Int) : Decimal :=
  let interval := roundingInterval significand exponent
  let leading := decimalExponent interval.value interval.den
  let grids := (List.range 17).map fun (k : Nat) => leading - (k : Int)
  match grids.findSome? interval.onGrid with
  | some decimal => decimal.trim 20
  | none => ⟨0, 0⟩

end FixtureImages.Binary64
