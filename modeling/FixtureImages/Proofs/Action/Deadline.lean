import FixtureImages.Proofs.Action.Law
import FixtureImages.Proofs.Time
import FixtureImages.Scripted
import Mathlib.Logic.Function.Iterate

/-!
# Polling until a deadline

Nothing bounds the fetches of a poll but the time that its pauses take. On a clock that passes time
as it should, polling is a row of fetches with one pause between each two: it ends with the first
fetch that fails, that finds what is wanted, or after which the deadline has come. Each round takes
a pause at least, so the deadline bounds their number; that the rounds are counted down never shows.

Instants and pauses are whole ticks of a clock, and a tick may take any part of a second. The
deadline is what the program adds up in binary64; where time is taken exactly it is the start and
the timeout as rationals.
-/

namespace FixtureImages

set_option autoImplicit false

open Action

variable {State Event Failure α : Type}

/-- So many ticks of a clock, in seconds. -/
def Clock.seconds (clock : Clock State Event Failure) (ticks : Nat) : ℚ := ticks / clock.perSecond

/-- A clock is exact: it shows the time of a state, looking at it does nothing else, and a pause
lasts as long as it should. -/
structure Clock.Exact (clock : Clock State Event Failure) (time : State → Nat) : Prop where
  ticks : 0 < clock.perSecond
  shows : ∀ state, clock.now state = ⟨.ok (time state), state, []⟩
  pauses : ∀ pause state, (clock.sleep pause state).result = .ok ()
  lasts : ∀ pause state, time (clock.sleep pause state).state = time state + pause

section

variable (clock : Clock State Event Failure) (fetch : Action State Event Failure α) (interval : Nat)

/-- A fetch and a pause after it. -/
def afterPause (state : State) : State := (clock.sleep interval (fetch state).state).state

/-- The state in which a fetch begins, if there is a pause after each fetch before it. Fetches are
counted from 0. -/
def fetchStart (start : State) (number : Nat) : State :=
  (afterPause clock fetch interval)^[number] start

/-- What a fetch and the pause after it record. -/
def recordedRound (state : State) : List Event :=
  (fetch state).trace ++ (clock.sleep interval (fetch state).state).trace

end

section

variable {clock : Clock State Event Failure} {fetch : Action State Event Failure α} {interval : Nat}
  {time : State → Nat} {done : α → Bool} {deadline seconds : Binary64} {first rounds : Nat}
  {start state : State}

theorem fetch_start_succ (start : State) (number : Nat) :
    fetchStart clock fetch interval start (number + 1) =
      fetchStart clock fetch interval (afterPause clock fetch interval start) number :=
  Function.iterate_succ_apply _ _ _

end

/-! ## So many seconds -/

section

variable {clock : Clock State Event Failure} {fetch : Action State Event Failure α} {interval : Nat}
  {time : State → Nat} {timeout : ℚ} {start : State} {last : Nat}

end

namespace FetchScript

end FetchScript

end FixtureImages
