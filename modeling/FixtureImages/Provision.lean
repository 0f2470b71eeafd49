import FixtureImages.Catalog

/-!
# Networks of blueprints

Each blueprint of a namespace has a network of its own, which is made when there is none and used
again when there is one.
-/

namespace FixtureImages.Provision

set_option autoImplicit false

open FixtureImages.Action

variable {Problem : Type}

/-- Put a failure of the daemon into the words of this stage; other failures stay as they are. -/
def wrapDaemon {α : Type} (wrap : Failure → Failure) (action : HostAction Failure α) :
    HostAction Failure α :=
  action.mapFailure fun failure => if failure.isDaemon then wrap failure else failure

/-- Make the network of a blueprint. A warning without an identifier is fatal. -/
def makeNetwork (scope blueprint : String) : HostAction Failure String := do
  let name := networkName scope blueprint
  let reply ← wrapDaemon (.networkCreate blueprint) <|
    Daemon.createNetwork name "bridge" (resourceLabels scope (some blueprint) none)
  if !reply.warning.isEmpty then
    if reply.id.isEmpty then fail (.networkWarning blueprint reply.warning)
    note .warning .network ("[Network] " ++ name ++ ": " ++ reply.warning)
  if reply.id.isEmpty then fail (.networkWithoutId blueprint)
  note .info .network ("[Network] Created: " ++ name ++ " (" ++ shortId reply.id ++ ")")
  return name

/-- The name of the network of a blueprint, which is made if needed. -/
def ensureNetwork (scope blueprint : String) : HostAction Failure String := do
  let existing ← wrapDaemon (.networkList blueprint) <|
    Catalog.listNetworks (.ofBlueprint scope blueprint)
  match existing with
  | [] => makeNetwork scope blueprint
  | network :: others => do
      if !others.isEmpty then
        note .warning .network
          ("[Network] Got " ++ toString existing.length ++ " networks for namespace=" ++ scope ++
            " blueprint=" ++ blueprint ++ ", using " ++ network.name)
      return network.name

/-- Remove the networks of a blueprint as far as that can be done: the names of those removed. -/
def removeNetworks (scope blueprint : String) : HostAction Problem (List String) := do
  match ← attempt (Catalog.listNetworks (.ofBlueprint scope blueprint)) with
  | .error failure => do
      note .error .network
        ("[Network] List failed for " ++ scope ++ "/" ++ blueprint ++ ": " ++ failure.message)
      return []
  | .ok networks =>
      Catalog.removeAll Network.name (fun network => Catalog.removeNetwork network.id network.name)
        networks

end FixtureImages.Provision
