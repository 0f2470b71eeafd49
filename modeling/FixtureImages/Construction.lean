import FixtureImages.Deployment

/-!
# Construction of instances

An instance is brought to the point where it can be committed: its base image is deployed, and its
set-up steps are run against it. The outcome is a record, which holds the failure if there was one.
-/

namespace FixtureImages

set_option autoImplicit false

open FixtureImages.Action

variable {Problem : Type}

/-- Whoever runs set-up steps, and remembers what was captured by them. -/
structure Runner where
  run : Instance → String → HostAction Failure Unit
  credentials : String → HostAction Failure Labels
  devices : String → HostAction Failure Labels

/-- The outcome for one instance. The container is empty when none was started, and none when a
deployer failed without knowing it. -/
structure Construction where
  server : Instance
  context : String
  scope : String
  containerId : Option String
  baseUrl : String
  failure : Option Failure
deriving DecidableEq

namespace Construction

def container (construction : Construction) : String := construction.containerId.getD ""

end Construction

/-- The base image of an instance: its own, else the one configured for its name, else the usual
one. -/
def baseImageOf (server : Instance) (config : Config) : String :=
  let own := server.baseImage.getD ""
  if own.isEmpty then config.baseImages.getD (Text.lower server.name.text) config.baseImage else own

def registrationsOf (server : Instance) : Labels := servicesOf (serviceLabels server.services)

def noteInstance (level : LogLevel) (context message : String) : HostAction Problem Unit :=
  note level .construction ("[Instance] " ++ context ++ " : " ++ message)

def setUpInstance (runner : Runner) (deployed : Construction) :
    HostAction Problem Construction := do
  match ← attempt (runner.run deployed.server deployed.baseUrl) with
  | .ok () => return deployed
  | .error failure =>
      noteInstance .error deployed.context ("failed to run instructions: " ++ failure.message)
      return { deployed with failure := some (.setup deployed.context failure) }

/-- The outcome of a failed deployment. A failure that is not one of deployment becomes the cause of
one. -/
def Construction.failDeployment (started : Construction) (failure : Failure) : Construction :=
  if failure.stage = some .deployment then
    { started with containerId := failure.container.getD (some ""), failure := some failure }
  else
    { started with
      containerId := some failure.containerId
      failure := some (.deployment started.context failure) }

def constructInstance (server : Instance) (blueprint network : String) (config : Config)
    (deployer : Deployer) (runner : Runner) : HostAction Problem Construction := do
  let scope := config.scope.text
  let context := contextOf scope blueprint server.name.text
  let started : Construction :=
    { server, context, scope, containerId := some "", baseUrl := "", failure := none }
  noteInstance .debug context "constructing..."
  let baseImage := baseImageOf server config
  if baseImage.isEmpty then return { started with failure := some (.noBaseImage context) }
  let deployed ← attempt <| deployer
    { baseImage, containerName := containerName context, scope, blueprint
      server := server.name.text, registrations := registrationsOf server, network }
  match deployed with
  | .error failure =>
      noteInstance .error context ("failed to deploy base image: " ++ failure.message)
      return started.failDeployment failure
  | .ok deployment =>
      noteInstance .debug context
        ("deployed " ++ baseImage ++ " to " ++ deployment.baseUrl ++ " (" ++
          shortId deployment.containerId ++ ")")
      setUpInstance runner
        { started with
          containerId := some deployment.containerId
          baseUrl := deployment.baseUrl }

end FixtureImages
