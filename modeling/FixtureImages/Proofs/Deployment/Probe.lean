import FixtureImages.Polling
import FixtureImages.Proofs.Deployment.Contract

/-!
# Probes of containers

Waiting until a container is ready takes a clock, an inspection of the container, and a request to
the server in it. What these meet is up to the surroundings, so waiting is taken apart here for any
of them; the deployer waits in surroundings made of calls to the daemon. Main statements: the
deployer's wait is the one in its surroundings, and what one round comes to.
-/

namespace FixtureImages

set_option autoImplicit false

open Action

variable {State Event : Type}

/-- The surroundings of a wait: the time, an inspection of the container, and a request to the
server in it. -/
structure Probe (State Event : Type) where
  clock : Clock State Event Failure
  inspect : Action State Event Failure Container
  request : Action State Event Failure Int

namespace Probe

/-! ## Waiting in any surroundings -/

section

variable (probe : Probe State Event)

/-- Ask the server whether it is ready: the answer unless it is. -/
def question : Action State Event Failure (Option String) := do
  match ← attempt probe.request with
  | .ok status => return if status = 200 then none else some ("HTTP " ++ toString status)
  | .error failure => if failure.isTransport then return some failure.message else fail failure

/-- A failed inspection in the words of a deployment, if it failed with the daemon. -/
def uninspected (container : Container) (failure : Failure) : Failure :=
  if failure.isDaemon then .containerInspect container.name container.id failure else failure

/-- One round without its pause: the container has to run before the server is asked. -/
def look (container : Container) : Action State Event Failure (Option String) := do
  let shown ← Action.mapFailure (uninspected container) probe.inspect
  if shown.showsRunning then probe.question
  else fail (.containerStopped container.name container.id)

def awaitReady (config : Config) (container : Container) (url : String) (interval : Nat)
    (deadline : Binary64) : (rounds : Nat) → (last : Option String) → Action State Event Failure Unit
  | 0, last => fail (.notReady container.name container.id url config.spawnTimeout last)
  | rounds + 1, last => do
      let now ← probe.clock.now
      if (secondsOf probe.clock.perSecond now).lt deadline then
        match ← probe.look container with
        | none => return ()
        | some answer => do
            probe.clock.sleep interval
            awaitReady config container url interval deadline rounds (some answer)
      else fail (.notReady container.name container.id url config.spawnTimeout last)

/-- Wait as many seconds as the configuration says. -/
def waitUntilReady (config : Config) (container : Container) (url : String) (interval : Nat) :
    Action State Event Failure Unit := do
  let start ← probe.clock.now
  let deadline := (secondsOf probe.clock.perSecond start).add config.spawnTimeout
  probe.awaitReady config container url interval deadline
    (ticksOf probe.clock.perSecond deadline - start) none

end

/-! ## The daemon -/

section

variable (probe : Probe State Event)

/-- In a round the container is inspected, and it runs. -/
def Runs (state : State) : Prop :=
  ∃ shown, (probe.inspect state).result = .ok shown ∧ shown.showsRunning = true

end

section

variable {probe : Probe State Event} {container : Container} {state : State}

/-- A failed inspection is all of its round. -/
theorem look_of_failed {failure : Failure}
    (failed : (probe.inspect state).result = .error failure) :
    probe.look container state =
      ⟨.error (uninspected container failure), (probe.inspect state).state,
        (probe.inspect state).trace⟩ := by
  have worded : (Action.mapFailure (uninspected container) probe.inspect state).result =
      .error (uninspected container failure) := by
    simp [Action.mapFailure, failed]
  rw [look, bind_of_error worded]
  rfl

theorem look_of_inspected {shown : Container}
    (inspected : (probe.inspect state).result = .ok shown) :
    probe.look container state =
      let asked : Outcome State Event Failure (Option String) :=
        (if shown.showsRunning then probe.question
          else fail (.containerStopped container.name container.id)) (probe.inspect state).state
      ⟨asked.result, asked.state, (probe.inspect state).trace ++ asked.trace⟩ := by
  have kept : (Action.mapFailure (uninspected container) probe.inspect state).result =
      .ok shown := by
    simp [Action.mapFailure, inspected]
  rw [look, bind_of_ok kept]
  rfl

/-- In a round in which the container does not run, nothing is asked: the inspection is all of it,
and it fails. -/
theorem look_of_down (container : Container) (down : ¬ probe.Runs state) :
    (∃ failure, (probe.look container state).result = .error failure) ∧
      (probe.look container state).state = (probe.inspect state).state ∧
      (probe.look container state).trace = (probe.inspect state).trace := by
  cases inspected : (probe.inspect state).result with
  | error failure =>
      rw [look_of_failed inspected]
      exact ⟨⟨_, rfl⟩, rfl, rfl⟩
  | ok shown =>
      have stopped : shown.showsRunning = false := by
        by_contra running
        exact down ⟨shown, inspected, by simpa using running⟩
      rw [look_of_inspected inspected]
      simp [stopped]

theorem runs_of_looked {answer : Option String}
    (looked : (probe.look container state).result = .ok answer) : probe.Runs state := by
  by_contra down
  obtain ⟨⟨failure, failed⟩, -⟩ := look_of_down container down
  rw [failed] at looked
  cases looked

end

end Probe

end FixtureImages
