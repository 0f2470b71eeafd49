/-!
# Binary floating point, 64 bits

The numbers of the binary64 format as exact values: a sign, a significand and a power of two. Every
operation computes the exact result as a ratio of naturals and rounds it once, to nearest, ties to
even. No native arithmetic is used, so every result can be computed inside a proof.
-/

namespace FixtureImages

set_option autoImplicit false

/-- A finite number is `significand * 2 ^ exponent` with its sign. It is kept in normal form: the
significand has 53 bits, or fewer at the least exponent -1074, which zero has as well. -/
inductive Binary64
  | nan
  | infinite (negative : Bool)
  | finite (negative : Bool) (significand : Nat) (exponent : Int)
deriving DecidableEq, Repr, Inhabited

namespace Binary64

def leastExponent : Int := -1074

def greatestExponent : Int := 971

def zero (negative : Bool) : Binary64 := .finite negative 0 leastExponent

/-- A ratio divided by a power of two, again as a ratio. -/
def scaleDown (num den : Nat) (exponent : Int) : Nat × Nat :=
  match exponent with
  | .ofNat up => (num, den * Nat.pow 2 up)
  | .negSucc down => (num * Nat.pow 2 (down + 1), den)

/-- The natural nearest to a ratio, the even one of two. -/
def roundRatio (num den : Nat) : Nat :=
  let floor := num / den
  let twice := 2 * (num % den)
  if twice < den then floor
  else if den < twice then floor + 1
  else if floor % 2 = 0 then floor else floor + 1

/-- The exponent at which a positive ratio has a significand of 53 bits, the least one at least. -/
def exponentOf (num den : Nat) : Int :=
  let guess : Int := (num.log2 : Int) - (den.log2 : Int) - 53
  let (top, bottom) := scaleDown num den guess
  max leastExponent (if top / bottom < Nat.pow 2 53 then guess else guess + 1)

/-- The binary64 number nearest to a ratio. -/
def ofRatio (negative : Bool) (num den : Nat) : Binary64 :=
  if num = 0 ∨ den = 0 then zero negative
  else
    let exponent := exponentOf num den
    let (top, bottom) := scaleDown num den exponent
    let rounded := roundRatio top bottom
    let (significand, exponent) :=
      if rounded = Nat.pow 2 53 then (Nat.pow 2 52, exponent + 1) else (rounded, exponent)
    if significand = 0 then zero negative
    else if greatestExponent < exponent then .infinite negative
    else .finite negative significand exponent

def ofInt (n : Int) : Binary64 := ofRatio (n < 0) n.natAbs 1

/-- The number nearest to `digits * 10 ^ exponent`. Sizes far outside the range are settled by their
order of magnitude. -/
def ofDecimal (negative : Bool) (digits : Nat) (exponent : Int) : Binary64 :=
  let magnitude : Int := exponent + (digits.log2 / 3 : Nat)
  if digits = 0 then zero negative
  else if 400 < exponent + (digits.log2 / 4 : Nat) then .infinite negative
  else if magnitude < -400 then zero negative
  else
    match exponent with
    | .ofNat up => ofRatio negative (digits * Nat.pow 10 up) 1
    | .negSucc down => ofRatio negative digits (Nat.pow 10 (down + 1))

def ratio (significand : Nat) (exponent : Int) : Nat × Nat :=
  match exponent with
  | .ofNat up => (significand * Nat.pow 2 up, 1)
  | .negSucc down => (significand, Nat.pow 2 (down + 1))

def negate : Binary64 → Binary64
  | .nan => .nan
  | .infinite negative => .infinite !negative
  | .finite negative significand exponent => .finite (!negative) significand exponent

def isFinite : Binary64 → Bool
  | .finite .. => true
  | _ => false

/-- The sum, rounded once. A sum of opposite numbers is the positive zero. -/
def add : Binary64 → Binary64 → Binary64
  | .nan, _ => .nan
  | _, .nan => .nan
  | .infinite a, .infinite b => if a = b then .infinite a else .nan
  | .infinite a, _ => .infinite a
  | _, .infinite b => .infinite b
  | .finite negA sigA expA, .finite negB sigB expB =>
      let (numA, denA) := ratio sigA expA
      let (numB, denB) := ratio sigB expB
      let left := numA * denB
      let right := numB * denA
      if negA = negB then ofRatio negA (left + right) (denA * denB)
      else if right < left then ofRatio negA (left - right) (denA * denB)
      else if left < right then ofRatio negB (right - left) (denA * denB)
      else zero false

def isZero : Binary64 → Bool
  | .finite _ 0 _ => true
  | _ => false

def isNegative : Binary64 → Bool
  | .nan => false
  | .infinite negative => negative
  | .finite negative _ _ => negative

def mul (a b : Binary64) : Binary64 :=
  match a, b with
  | .nan, _ => .nan
  | _, .nan => .nan
  | .finite negA sigA expA, .finite negB sigB expB =>
      let (numA, denA) := ratio sigA expA
      let (numB, denB) := ratio sigB expB
      ofRatio (xor negA negB) (numA * numB) (denA * denB)
  | _, _ =>
      if a.isZero || b.isZero then .nan else .infinite (xor a.isNegative b.isNegative)

def signed (negative : Bool) (size : Nat) : Int := if negative then -size else size

/-- Whether a number is at most another. What is not a number compares with nothing. -/
def le : Binary64 → Binary64 → Bool
  | .nan, _ => false
  | _, .nan => false
  | .infinite true, _ => true
  | _, .infinite false => true
  | .infinite false, _ => false
  | _, .infinite true => false
  | .finite negA sigA expA, .finite negB sigB expB =>
      let (numA, denA) := ratio sigA expA
      let (numB, denB) := ratio sigB expB
      decide (signed negA numA * denB ≤ signed negB numB * denA)

def lt (a b : Binary64) : Bool := a.le b && !b.le a

/-- The integer that a finite number equals, if there is one. -/
def toInt? : Binary64 → Option Int
  | .finite negative significand exponent =>
      let (num, den) := ratio significand exponent
      if num % den = 0 then
        some (if negative then -((num / den : Nat) : Int) else ((num / den : Nat) : Int))
      else none
  | _ => none

end Binary64

end FixtureImages
