/-!
# Actions

An action runs on a state and ends with a value or a failure, a new state, and the trace of what it
did. A failure keeps the state and the trace up to it. Main statements: what `attempt` and sequences
leave.
-/

namespace FixtureImages

set_option autoImplicit false

/-- How an action ended. -/
structure Outcome (State Event Failure α : Type) where
  result : Except Failure α
  state : State
  trace : List Event

def Action (State Event Failure α : Type) : Type := State → Outcome State Event Failure α

namespace Action

variable {State Event Failure Other α β : Type}

def succeed (value : α) : Action State Event Failure α := fun state => ⟨.ok value, state, []⟩

def fail (failure : Failure) : Action State Event Failure α := fun state =>
  ⟨.error failure, state, []⟩

def andThen (first : Action State Event Failure α) (next : α → Action State Event Failure β) :
    Action State Event Failure β := fun state =>
  let outcome := first state
  match outcome.result with
  | .error failure => ⟨.error failure, outcome.state, outcome.trace⟩
  | .ok value =>
      let later := next value outcome.state
      ⟨later.result, later.state, outcome.trace ++ later.trace⟩

instance : Monad (Action State Event Failure) where
  pure := succeed
  bind := andThen

def emit (event : Event) : Action State Event Failure Unit := fun state => ⟨.ok (), state, [event]⟩

def look (view : State → α) : Action State Event Failure α := fun state =>
  ⟨.ok (view state), state, []⟩

def change (update : State → State) : Action State Event Failure Unit :=
  fun state => ⟨.ok (), update state, []⟩

def take (step : State → α × State) : Action State Event Failure α := fun state =>
  let (value, state) := step state
  ⟨.ok value, state, []⟩

def ofExcept : Except Failure α → Action State Event Failure α
  | .ok value => succeed value
  | .error failure => fail failure

/-- Run an action and hand its failure on as a value. The attempt itself cannot fail, whatever the
type of failures around it. -/
def attempt (action : Action State Event Failure α) :
    Action State Event Other (Except Failure α) := fun state =>
  let outcome := action state
  ⟨.ok outcome.result, outcome.state, outcome.trace⟩

/-- Change the failure of an action. -/
def mapFailure (convert : Failure → Other) (action : Action State Event Failure α) :
    Action State Event Other α := fun state =>
  let outcome := action state
  ⟨outcome.result.mapError convert, outcome.state, outcome.trace⟩

theorem attempt_result (action : Action State Event Failure α) (state : State) :
    (attempt action : Action State Event Other _) state =
      ⟨.ok (action state).result, (action state).state, (action state).trace⟩ := rfl

end Action

end FixtureImages
