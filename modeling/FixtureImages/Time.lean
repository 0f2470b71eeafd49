import FixtureImages.Decimal.Binary64

/-!
# Time

A clock counts whole ticks, and shows them as a binary64 number of seconds. Deadlines are such
numbers, so what is added to the time and compared with it is rounded each time.
-/

namespace FixtureImages

set_option autoImplicit false

/-- The seconds that a clock shows after so many ticks. -/
def secondsOf (perSecond ticks : Nat) : Binary64 := .ofRatio false ticks perSecond

/-- Enough ticks for a number of seconds to pass, the fewest unless the clock rounds up. Infinitely
many pass with the ticks beyond the range, and what is not a number never passes. -/
def ticksOf (perSecond : Nat) : Binary64 → Nat
  | .nan => Nat.pow 2 1024 * perSecond
  | .infinite negative => if negative then 0 else Nat.pow 2 1024 * perSecond
  | .finite negative significand exponent =>
      if negative then 0
      else
        let (num, den) := Binary64.ratio significand exponent
        (num * perSecond + den - 1) / den

end FixtureImages
