import FixtureImages.Proofs.Action.Deadline
import FixtureImages.Proofs.Deployment.Probe

/-!
# Waiting until a container is ready

A round inspects the container, asks the server in it, and pauses. The deadline is looked at before
each round and never within one, so that a round which began in time counts however long it takes.
Every round but the last ends with a pause, and with it the deadline bounds the number of rounds.
What the rounds meet may be anything and may take any time, as long as the clock is exact.
-/

namespace FixtureImages

set_option autoImplicit false

open Action

variable {State Event : Type}

namespace Probe

section

variable (probe : Probe State Event)

/-- The state in which a round begins, if all rounds before it end with a pause. Rounds are counted
from 0. -/
def roundStart (container : Container) (interval : Nat) (start : State) (number : Nat) : State :=
  fetchStart probe.clock (probe.look container) interval start number

variable (time : State → Nat) (config : Config) (container : Container) (url : String)
  (interval first : Nat)

/-- How a wait ends, after so many rounds, when the deadline comes with the tick `first`. It begins
with the last answer so far. -/
inductive Waits :
    Option String → State → Nat → Outcome State Event Failure Unit → Prop
  /-- The deadline has come. -/
  | late {last : Option String} {state : State} (late : first ≤ time state) :
      Waits last state 0
        ⟨.error (.notReady container.name container.id url config.spawnTimeout last), state, []⟩
  /-- The server is ready. -/
  | ready {last : Option String} {state : State} (early : time state < first)
      (looked : (probe.look container state).result = .ok none) :
      Waits last state 1
        ⟨.ok (), (probe.look container state).state, (probe.look container state).trace⟩
  /-- A round fails. -/
  | stuck {last : Option String} {state : State} {failure : Failure} (early : time state < first)
      (looked : (probe.look container state).result = .error failure) :
      Waits last state 1
        ⟨.error failure, (probe.look container state).state, (probe.look container state).trace⟩
  /-- The server is not ready yet. After a pause there are more rounds. -/
  | again {last : Option String} {state : State} {answer : String} {rounds : Nat}
      {later : Outcome State Event Failure Unit} (early : time state < first)
      (looked : (probe.look container state).result = .ok (some answer))
      (goesOn : Waits (some answer) (afterPause probe.clock (probe.look container) interval state)
        rounds later) :
      Waits last state (rounds + 1)
        ⟨later.result, later.state,
          recordedRound probe.clock (probe.look container) interval state ++ later.trace⟩

end

/-! ## Round after round -/

/-- Neither an inspection nor a request sets the time back. -/
structure Forward (probe : Probe State Event) (time : State → Nat) : Prop where
  inspect : ∀ state, time state ≤ time (probe.inspect state).state
  request : ∀ state, time state ≤ time (probe.request state).state

section

variable {probe : Probe State Event} {time : State → Nat} {config : Config} {container : Container}
  {url : String} {interval first rounds : Nat} {deadline : Binary64} {last : Option String}
  {start state : State} {outcome : Outcome State Event Failure Unit}

theorem Forward.look (forward : probe.Forward time) (state : State) :
    time state ≤ time (probe.look container state).state := by
  by_cases runs : probe.Runs state
  · obtain ⟨shown, inspected, running⟩ := runs
    have asked : (probe.question (probe.inspect state).state).state =
        (probe.request (probe.inspect state).state).state := by
      rw [question, attempt_bind_apply]
      cases (probe.request (probe.inspect state).state).result with
      | ok status => rfl
      | error failure =>
          dsimp only
          split <;> rfl
    rw [look_of_inspected inspected]
    simp only [running, if_true, asked]
    exact (forward.inspect state).trans (forward.request _)
  · rw [(look_of_down container runs).2.1]
    exact forward.inspect state

theorem round_start_succ (start : State) (number : Nat) :
    probe.roundStart container interval start (number + 1) =
      probe.roundStart container interval
        (afterPause probe.clock (probe.look container) interval start) number :=
  fetch_start_succ start number

/-- The last round begins in time, however many pauses there are before it. -/
theorem Waits.early (timed : probe.clock.Exact time) (forward : probe.Forward time)
    (waits : probe.Waits time config container url interval first last state (rounds + 1)
      outcome) : time state + rounds * interval < first := by
  induction rounds generalizing last state outcome with
  | zero => cases waits <;> simpa
  | succ rounds ih =>
      cases waits with
      | again early looked goesOn =>
          have later := ih goesOn
          have took : time state ≤ time (probe.look container state).state := forward.look state
          rw [afterPause, timed.lasts] at later
          rw [Nat.succ_mul]
          omega

/-- In all rounds before the last the container runs. -/
theorem Waits.runs
    (waits : probe.Waits time config container url interval first last state rounds outcome)
    {number : Nat} (before : number + 1 < rounds) :
    probe.Runs (probe.roundStart container interval state number) := by
  induction waits generalizing number with
  | late | ready | stuck => omega
  | again early looked goesOn ih =>
      cases number with
      | zero => exact runs_of_looked looked
      | succ number =>
          rw [round_start_succ]
          exact ih (Nat.lt_of_succ_lt_succ before)

end

/-! ## Waiting for so many seconds -/

section

variable {container : Container} {url : String} {host : Host}

end

/-- A running container. -/
def served : Container :=
  { Host.requestedContainer ⟨"img", "c1", "hs1", ∅, ∅, "n", [], ∅, true⟩ (containerId 1)
      (Host.fresh ∅) with
    running := true }

end Probe

end FixtureImages
