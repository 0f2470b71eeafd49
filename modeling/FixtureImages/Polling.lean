import FixtureImages.Action
import FixtureImages.Time

/-!
# Polling

Fetching something again and again, with a pause after each time, until it is as wanted or the
deadline has come. It is fetched once at least, and the last thing fetched counts.
-/

namespace FixtureImages

set_option autoImplicit false

variable {State Event Failure α : Type}

/-- How actions see the time: how many ticks make a second, the ticks so far, and a pause. -/
structure Clock (State Event Failure : Type) where
  perSecond : Nat
  now : Action State Event Failure Nat
  sleep : Nat → Action State Event Failure Unit

/-- Poll at most `rounds` times more after the first. -/
def poll (clock : Clock State Event Failure) (fetch : Action State Event Failure α)
    (done : α → Bool) (deadline : Binary64) (interval : Nat) :
    (rounds : Nat) → Action State Event Failure α
  | 0 => fetch
  | rounds + 1 => do
      let found ← fetch
      if done found then return found
      let now ← clock.now
      if deadline.le (secondsOf clock.perSecond now) then return found
      clock.sleep interval
      poll clock fetch done deadline interval rounds

/-- Poll until so many seconds have passed. Every pause takes a tick at least, so the time that is
left bounds the rounds. -/
def waitFor (clock : Clock State Event Failure) (fetch : Action State Event Failure α)
    (done : α → Bool) (timeout : Binary64) (interval : Nat) : Action State Event Failure α := do
  let start ← clock.now
  let deadline := (secondsOf clock.perSecond start).add timeout
  poll clock fetch done deadline interval (ticksOf clock.perSecond deadline - start)

end FixtureImages
