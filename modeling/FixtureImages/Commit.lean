import FixtureImages.Construction

/-!
# Committing instances

Each constructed instance is frozen into an image: its labels are collected, its container is
stopped so that the servers inside shut down cleanly, and then committed. A failure for one instance
does not keep the others from being committed.
-/

namespace FixtureImages

set_option autoImplicit false

open FixtureImages.Action

variable {Problem : Type}

/-- Seconds that a container has for shutting down. -/
def stopGrace : Nat := 10

def commitAuthor : String := "blueprint-commander"

/-- The labels of the image of an instance: its ownership, and then what was captured. -/
def imageLabels (construction : Construction) (blueprint : Blueprint) (runner : Runner) :
    HostAction Failure Labels := do
  let name := construction.server.name.text
  let owned := resourceLabels construction.scope (some blueprint.name.text) (some name)
  let credentials ← runner.credentials name
  let devices ← runner.devices name
  return (((owned.overlay (credentialLabels credentials blueprint.keepCredentialsFor)).overlay
    (deviceLabels devices)).overlay (serviceLabels construction.server.services))

def noteCommit (context message : String) : HostAction Problem Unit :=
  note .debug .commit ("[Commit] " ++ context ++ ": " ++ message)

def stopInstance (construction : Construction) : HostAction Failure Container := do
  let id := construction.container
  let container ← Daemon.getContainer id
  noteCommit construction.context ("Stopping container: " ++ shortId id)
  Daemon.stop container stopGrace
  noteCommit construction.context ("Stopped container: " ++ shortId id)
  return container

/-- Stop and commit one instance: the identifier of its image, without the name of the digest. -/
def commitInstance (construction : Construction) (labels : Labels) : HostAction Failure String := do
  let context := construction.context
  let container ← (stopInstance construction).mapFailure (.stop context)
  let image ← Action.mapFailure (Failure.commit context) <|
    Daemon.commit container
      { repository := localRepository, tag := context, author := commitAuthor, pause := true
        changes := Directive.ofLabels labels }
  let id := String.ofList (Text.dropFirst "sha256:".toList image.id.toList)
  noteCommit context ("Created docker image " ++ id)
  return id

def labelAndCommit (blueprint : Blueprint) (runner : Runner) (construction : Construction) :
    HostAction Failure String := do
  let labels ← imageLabels construction blueprint runner
  commitInstance construction labels

/-- The failure to report for an instance that was not committed. What is no failure of this stage
came up while its labels were collected. -/
def commitFailure (context : String) (failure : Failure) : Failure :=
  if failure.stage = some .commit then failure else .labels context failure.message

/-- Commit all instances that were constructed: the images, and the failures. -/
def commitAll (blueprint : Blueprint) (runner : Runner) :
    List Construction → HostAction Problem (List String × List Failure)
  | [] => return ([], [])
  | construction :: rest => do
      if construction.failure.isSome then commitAll blueprint runner rest
      else
        match ← attempt (labelAndCommit blueprint runner construction) with
        | .ok id => do
            let (images, failures) ← commitAll blueprint runner rest
            return (id :: images, failures)
        | .error failure => do
            let reported := commitFailure construction.context failure
            note .error .commit ("[Commit] " ++ reported.message)
            let (images, failures) ← commitAll blueprint runner rest
            return (images, reported :: failures)

end FixtureImages
