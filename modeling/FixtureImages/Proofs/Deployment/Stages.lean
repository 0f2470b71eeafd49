import FixtureImages.Deployment
import FixtureImages.Proofs.Daemon.Calls

/-!
# The stages of a deployment

A container is made, launched, looked at until it is ready, and described. Each stage puts the
failures that it knows into its own words and lets the others pass.
-/

namespace FixtureImages.Deployment

set_option autoImplicit false

open Action

/-- Make the container. -/
def create (config : Config) (request : DeployRequest) : HostAction Failure Container := do
  let process ← Action.look Host.environment
  Action.mapFailure
    (fun failure =>
      if failure.isDaemon then .containerCreate request.containerName failure else failure)
    (Daemon.createContainer (containerRequest config process request))

/-- Launch the container, and show where ports are bound when its own cannot be found out. -/
def settleLaunch (config : Config) (request : DeployRequest) (container : Container) :
    HostAction Failure Endpoints := do
  match ← attempt (launch config request container) with
  | .ok place => return place
  | .error failure =>
      if failure.stage = some .ports then
        Catalog.printPortBindings request.containerName
        fail (.containerStart request.containerName container.id failure)
      else if failure.isDaemon then
        fail (.containerStart request.containerName container.id failure)
      else fail failure

/-- Ask an instance whether it is ready: the answer unless it is. -/
def question (url : String) : HostAction Failure (Option String) := do
  match ← attempt (Daemon.request url (.ofInt 1)) with
  | .ok status => return if status = 200 then none else some ("HTTP " ++ toString status)
  | .error failure => if failure.isTransport then return some failure.message else fail failure

/-- What is known of a container that answers. -/
def describe (request : DeployRequest) (container : Container) (place : Endpoints) :
    HostAction Failure Deployment := do
  note .debug .deployer
    ("[Deployer] " ++ request.containerName ++ " ready at " ++ place.client ++ " (" ++
      shortId container.id ++ ")")
  let labels := container.labels.getD ∅
  return ⟨container.id, place.client, place.federation, credentialsOf labels, devicesOf labels,
    servicesOf labels⟩

theorem look_eq (container : Container) (url : String) :
    look container url = (do
      let shown ← Action.mapFailure
        (fun failure =>
          if failure.isDaemon then .containerInspect container.name container.id failure
          else failure)
        (Daemon.inspect container)
      if shown.showsRunning then question url
      else fail (.containerStopped container.name container.id)) := by
  rw [← attempt_or_fail, look]
  simp only [bind_assoc]
  congr 1
  funext inspected
  cases inspected with
  | error failure => rfl
  | ok shown =>
      simp only [pure_bind]
      cases shown.showsRunning <;> rfl

theorem deploy_eq (config : Config) (request : DeployRequest) :
    deploy config request = (do
      let container ← create config request
      let place ← settleLaunch config request container
      waitUntilReady config container place.client
      describe request container place) := by
  simp only [create, ← attempt_or_fail, bind_assoc]
  rw [deploy]
  congr 1
  funext process
  congr 1
  funext made
  cases made with
  | error failure => rfl
  | ok container =>
      simp only [pure_bind, settleLaunch, bind_assoc]
      congr 1
      funext launched
      cases launched with
      | ok place => rfl
      | error failure =>
          dsimp only
          split
          · simp only [bind_assoc, fail_bind]
          · split <;> rfl

end FixtureImages.Deployment
