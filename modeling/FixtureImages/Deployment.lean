import FixtureImages.Captured
import FixtureImages.Catalog
import FixtureImages.ClientCache
import FixtureImages.Config
import FixtureImages.Time

/-!
# Deployments

Starting a container from an image and waiting until it answers. Every failure after the container
was made names it, so that its log can be shown before it is removed.
-/

namespace FixtureImages

set_option autoImplicit false

open FixtureImages.Action

/-- A started container that answers, with the state that was captured on it. -/
structure Deployment where
  containerId : String
  baseUrl : String
  federationUrl : String
  credentials : Labels
  devices : Labels
  services : Labels
deriving DecidableEq

/-- Whoever starts containers. -/
abbrev Deployer : Type := DeployRequest → HostAction Failure Deployment

namespace Deployment

def readinessInterval : Nat := 50000

/-- The environment of a container: the name of its server, and what is shared with it from the
environment of the process, under names without the stem. -/
def environment (stem : String) (process : Labels) (server : String) : Labels :=
  let base := (∅ : Labels).insert "SERVER_NAME" server
  if stem.isEmpty then base
  else base.overlay <| (Table.ofList (process.entries.filter (·.1 != stem))).cutStem stem

def containerRequest (config : Config) (process : Labels) (request : DeployRequest) :
    ContainerRequest :=
  { image := request.baseImage
    name := request.containerName
    hostname := request.server
    labels := resourceLabels request.scope (some request.blueprint) (some request.server)
    environment := environment config.sharedStem process request.server
    network := request.network
    ports := ((∅ : Table (List String)).insertAll
      [(portKey config.clientPort "tcp", [config.bindAddress]),
        (portKey config.federationPort "tcp", [config.bindAddress])]).entries
    extraHosts := Table.ofList [("host.docker.internal", "host-gateway")]
    detach := true }

/-- Copy the registrations into a container, start it, and find out where it can be reached. -/
def launch (config : Config) (request : DeployRequest) (container : Container) :
    HostAction Failure Endpoints := do
  if !request.registrations.isEmpty then
    Daemon.putArchive container "/" (Archive.ofRegistrations request.registrations.entries)
  Daemon.start container
  let shown ← Daemon.inspect container
  ofExcept <| (endpoints shown.shownPorts config.bindAddress config.clientPort
    config.federationPort).mapError .unreachable

/-- One look at a container: it has to run, and the last answer is kept unless it is ready. -/
def look (container : Container) (url : String) : HostAction Failure (Option String) := do
  let shown ←
    match ← attempt (Daemon.inspect container) with
    | .ok shown => pure shown
    | .error failure =>
        fail (if failure.isDaemon then .containerInspect container.name container.id failure
          else failure)
  if !shown.showsRunning then fail (.containerStopped container.name container.id)
  match ← attempt (Daemon.request url (.ofInt 1)) with
  | .ok status => return if status = 200 then none else some ("HTTP " ++ toString status)
  | .error failure => if failure.isTransport then return some failure.message else fail failure

/-- Look at a container until it is ready or the deadline has come, at most `rounds` times. -/
def awaitReady (config : Config) (container : Container) (url : String) (deadline : Binary64) :
    (rounds : Nat) → (last : Option String) → HostAction Failure Unit
  | 0, last => fail (.notReady container.name container.id url config.spawnTimeout last)
  | rounds + 1, last => do
      let now ← Daemon.now
      if (secondsOf Daemon.ticksPerSecond now).lt deadline then
        match ← look container url with
        | none => return ()
        | some answer => do
            Daemon.sleep readinessInterval
            awaitReady config container url deadline rounds (some answer)
      else fail (.notReady container.name container.id url config.spawnTimeout last)

/-- Wait until a container is ready. Each round takes a tick at least, so the time that is left
bounds their number. -/
def waitUntilReady (config : Config) (container : Container) (baseUrl : String) :
    HostAction Failure Unit := do
  let start ← Daemon.now
  let deadline := (secondsOf Daemon.ticksPerSecond start).add config.spawnTimeout
  awaitReady config container (baseUrl ++ config.readinessPath) deadline
    (ticksOf Daemon.ticksPerSecond deadline - start) none

def deploy (config : Config) : Deployer := fun request => do
  let process ← Action.look Host.environment
  let container ←
    match ← attempt (Daemon.createContainer (containerRequest config process request)) with
    | .ok container => pure container
    | .error failure =>
        fail (if failure.isDaemon then .containerCreate request.containerName failure else failure)
  let place ←
    match ← attempt (launch config request container) with
    | .ok place => pure place
    | .error failure => do
        if failure.stage = some .ports then
          Catalog.printPortBindings request.containerName
          fail (.containerStart request.containerName container.id failure)
        if failure.isDaemon then
          fail (.containerStart request.containerName container.id failure)
        fail failure
  waitUntilReady config container place.client
  note .debug .deployer
    ("[Deployer] " ++ request.containerName ++ " ready at " ++ place.client ++ " (" ++
      shortId container.id ++ ")")
  let labels := container.labels.getD ∅
  return ⟨container.id, place.client, place.federation, credentialsOf labels, devicesOf labels,
    servicesOf labels⟩

/-- The deployer over a connection to the daemon that is made when it is first asked for. -/
def deployThrough {Client : Type} (connect : Nat → Except Failure Client)
    (cache : ClientCache Client) (config : Config) : Deployer := fun request => do
  let _ ← Action.ofExcept (cache.get connect).1
  deploy config request

end Deployment

end FixtureImages
