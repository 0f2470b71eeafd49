import FixtureImages.Builder

/-!
# Scripted collaborators

Runners and deployers, and a fetch to poll, whose behaviour is laid down beforehand.
-/

namespace FixtureImages

set_option autoImplicit false

open FixtureImages.Action

/-- What a runner answers for each instance, and which of its answers are failures. -/
structure RunnerScript where
  factoryFailure : Option Failure
  runFailures : List (String × Failure)
  credentialFailures : List (String × Failure)
  deviceFailures : List (String × Failure)
  credentials : List (String × Labels)
  devices : List (String × Labels)

namespace RunnerScript

/-- Record a call and fail as the script says. -/
def meet (call : Call) (failures : List (String × Failure)) (server : String) :
    HostAction Failure Unit := do
  perform call
  match failures.lookup server with
  | some failure => fail failure
  | none => return ()

def runner (script : RunnerScript) : Runner where
  run server url :=
    meet (.run server.name.text url server.steps) script.runFailures server.name.text
  credentials server := do
    meet (.credentials server) script.credentialFailures server
    return (script.credentials.lookup server).getD ∅
  devices server := do
    meet (.devices server) script.deviceFailures server
    return (script.devices.lookup server).getD ∅

def make (script : RunnerScript) (blueprint : Blueprint) : HostAction Failure Runner := do
  perform (.makeRunner blueprint.name.text)
  match script.factoryFailure with
  | some failure => fail failure
  | none => return script.runner

end RunnerScript

/-- A deployer that records each request, answers for the listed instances as laid down, and leaves
the others to another deployer. -/
def scriptedDeployer (script : List (String × Except Failure Deployment)) (usual : Deployer) :
    Deployer := fun request => do
  perform (.deploy request)
  match script.lookup request.server with
  | none => usual request
  | some answer => ofExcept answer

/-! ## A scripted fetch -/

/-- The clock, the fetches and pauses so far, and what the next fetches give. The last answer stays.
-/
structure FetchScript where
  clock : Nat
  fetches : Nat
  cost : Nat
  answers : List (Except Failure Nat)

namespace FetchScript

/-- Take the next answer. A fetch that succeeds takes some time. -/
def next (script : FetchScript) : Except Failure Nat × FetchScript :=
  let answer := script.answers.headD (.ok 0)
  let rest := if script.answers.length ≤ 1 then script.answers else script.answers.tail
  let cost := if answer.toOption.isSome then script.cost else 0
  (answer,
    { script with clock := script.clock + cost, fetches := script.fetches + 1, answers := rest })

/-- Fetch as many numbers as the script says. Pauses are the events. -/
def fetch : Action FetchScript Nat Failure (List Nat) := do
  let answer ← take next
  let count ← ofExcept answer
  return List.range count

def scriptClock : Clock FetchScript Nat Failure where
  perSecond := 1000000
  now := look FetchScript.clock
  sleep pause := do
    emit pause
    change fun script => { script with clock := script.clock + pause }

/-- Poll until so many numbers are fetched or some seconds have passed. Without pauses the answers
bound the rounds that take no time. -/
def poll (wanted : Nat) (timeout : Binary64) (interval : Nat) :
    Action FetchScript Nat Failure (List Nat) :=
  let done := fun (found : List Nat) => decide (wanted ≤ found.length)
  if interval = 0 then do
    let start ← scriptClock.now
    let answers ← look FetchScript.answers
    let deadline := (secondsOf scriptClock.perSecond start).add timeout
    FixtureImages.poll scriptClock fetch done deadline interval
      (ticksOf scriptClock.perSecond deadline - start + answers.length)
  else waitFor scriptClock fetch done timeout interval

end FetchScript

end FixtureImages
