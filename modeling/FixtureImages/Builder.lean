import FixtureImages.Cleanup
import FixtureImages.Commit
import FixtureImages.Polling
import FixtureImages.Provision

/-!
# The builder

A blueprint is built into images: its network is provided, its instances are constructed one after
the other and committed, their containers are released in reverse order, the images are waited for,
and the network is removed. The first instance that cannot be constructed ends the build.
-/

namespace FixtureImages

set_option autoImplicit false

open FixtureImages.Action

variable {Problem : Type}

/-- The settings of a builder and its collaborators. A runner is made for each build. -/
structure Builder where
  config : Config
  deployer : Deployer
  makeRunner : Blueprint → HostAction Failure Runner

namespace Builder

/-- Microseconds between two looks for the images. -/
def visibilityInterval : Nat := 100000

/-- Seconds in which the images have to show up. -/
def visibilityTimeout : Binary64 := .ofInt 5

def scope (builder : Builder) : String := builder.config.scope.text

def queryFor (builder : Builder) (blueprint : Blueprint) : Query :=
  .ofBlueprint builder.scope blueprint.name.text

def noteBuild (level : LogLevel) (message : String) : HostAction Problem Unit :=
  note level .builder ("[Builder] " ++ message)

def release (construction : Construction) : HostAction Problem Unit := do
  let _ ← Catalog.killContainer construction.container construction.context
  let _ ← Catalog.removeContainer construction.container construction.context
  return ()

/-- Show the log of a container that failed, and remove it. -/
def discard (construction : Construction) : HostAction Problem Unit := do
  if !construction.container.isEmpty then
    Catalog.printLog construction.container construction.context
    let _ ← Catalog.removeContainer construction.container construction.context
  return ()

/-- Construct the remaining instances and then commit all of them, those in `built` included: the
failures. Each constructed instance is released once those after it are. -/
def constructRest (builder : Builder) (blueprint : Blueprint) (network : String) (runner : Runner)
    (built : List Construction) : List Instance → HostAction Problem (List Failure)
  | [] => do
      let (_, failures) ← commitAll blueprint runner built
      return failures
  | server :: rest => do
      let construction ← constructInstance server blueprint.name.text network builder.config
        builder.deployer runner
      match construction.failure with
      | some failure =>
          discard construction
          return [failure]
      | none =>
          let failures ←
            constructRest builder blueprint network runner (built ++ [construction]) rest
          release construction
          return failures

/-- Construct and commit all instances on the network of the blueprint: the failures. -/
def constructAll (builder : Builder) (blueprint : Blueprint) :
    HostAction Failure (List Failure) := do
  noteBuild .info ("Constructing blueprint '" ++ blueprint.name.text ++ "'")
  match ← attempt (Provision.ensureNetwork builder.scope blueprint.name.text) with
  | .error failure =>
      if failure.stage = some .provisioning then return [failure] else fail failure
  | .ok network =>
      let runner ← builder.makeRunner blueprint
      constructRest builder blueprint network runner [] blueprint.instances

def clock : Clock Host Event Failure := ⟨Daemon.ticksPerSecond, Daemon.now, Daemon.sleep⟩

/-- Wait until as many images as there are instances can be listed. -/
def awaitImages (builder : Builder) (blueprint : Blueprint) : HostAction Failure (List Image) :=
  (waitFor clock (Catalog.listImages (builder.queryFor blueprint))
    (fun images => decide (blueprint.instances.length ≤ images.length))
    visibilityTimeout visibilityInterval).mapFailure
    (.listing blueprint.name.text)

def imageText (image : Image) : String :=
  image.id ++ "=>" ++
    match image.labels with
    | none => Value.null.inspect
    | some labels =>
        (Value.map (labels.entries.map fun entry => (.text entry.1, .text entry.2))).inspect

def noteFailures : List Failure → HostAction Problem Unit
  | [] => return ()
  | failure :: rest => do
      noteBuild .error ("Could not construct blueprint: " ++ failure.message)
      noteFailures rest

def build (builder : Builder) (blueprint : Blueprint) : HostAction BuildFailure (List Image) := do
  let failures ← (constructAll builder blueprint).mapFailure .single
  if !failures.isEmpty then
    noteFailures failures
    fail (.construction blueprint.name.text failures)
  (awaitImages builder blueprint).mapFailure .single

/-- Build a blueprint: the identifiers of its images. The network is removed however the build ends.
-/
def construct (builder : Builder) (blueprint : Blueprint) :
    HostAction BuildFailure (List String) := do
  let built ← attempt (build builder blueprint)
  let _ ← Provision.removeNetworks builder.scope blueprint.name.text
  let images ← ofExcept built
  let expected := blueprint.instances.length
  if images.length < expected then
    fail (.single (.visibility blueprint.name.text expected images.length))
  noteBuild .info
    ("Constructed blueprint '" ++ blueprint.name.text ++ "': " ++
      ", ".intercalate (images.map imageText))
  return images.map Image.id

/-- Build a blueprint unless there is an image of it: whether it was built. -/
def constructIfMissing (builder : Builder) (blueprint : Blueprint) :
    HostAction BuildFailure Bool := do
  let name := blueprint.name.text
  let images ← (Catalog.listImages (builder.queryFor blueprint)).mapFailure fun failure =>
    .single (.listing ("construct_if_not_exist(" ++ name ++ ")") failure)
  if !images.isEmpty then
    noteBuild .debug ("Blueprint '" ++ name ++ "' already built, reusing")
    return false
  let _ ← construct builder blueprint
  return true

/-- Clean the namespace of the builder but for the blueprints that it keeps. -/
def cleanUp (builder : Builder) : HostAction Problem Cleanup.Removed :=
  Cleanup.run builder.scope builder.config.keepBlueprints

end Builder

end FixtureImages
