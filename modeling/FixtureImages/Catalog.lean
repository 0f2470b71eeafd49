import FixtureImages.Host.Daemon
import FixtureImages.Text.LowerCase
import FixtureImages.Text.Search

/-!
# The catalog of resources

Listing resources by query, removing them, and showing what became of them. Listings fail as the
daemon does; removals never fail, but say whether they succeeded and log why not.
-/

namespace FixtureImages.Catalog

set_option autoImplicit false

open FixtureImages.Action

variable {Problem : Type}

def listNetworks (query : Query) : HostAction Failure (List Network) :=
  Daemon.listNetworks query.filters

def listImages (query : Query) : HostAction Failure (List Image) := Daemon.listImages query.filters

/-- All containers of a query, running or not. -/
def listContainers (query : Query) : HostAction Failure (List Container) :=
  Daemon.listContainers true query.filters

def noteHere (level : LogLevel) (message : String) : HostAction Problem Unit :=
  note level .catalog ("[Catalog] " ++ message)

/-! ## Removal -/

/-- Remove a container, running or not. One that is gone already does not count. -/
def removeContainer (id context : String) : HostAction Problem Bool := do
  let removed ← attempt do
    let container ← Daemon.getContainer id
    Daemon.removeContainer container true
  match removed with
  | .ok () =>
      noteHere .debug (context ++ " removed container " ++ shortId id)
      return true
  | .error failure =>
      if failure.isMissing then return false
      noteHere .error
        (context ++ " failed to remove container " ++ shortId id ++ ": " ++ failure.message)
      return false

def removeImage (id : String) : HostAction Problem Bool := do
  match ← attempt (Daemon.removeImage id true) with
  | .ok () =>
      noteHere .debug ("Removed image " ++ id)
      return true
  | .error failure =>
      if failure.isMissing then return false
      noteHere .error ("Failed to remove image " ++ id ++ ": " ++ failure.message)
      return false

/-- Whether a failure says that containers are attached to a network. -/
def isAttached (failure : Failure) : Bool :=
  failure.isApi &&
    Text.occursIn "has active endpoints".toList (Text.lower failure.message).toList

def removeNetwork (id name : String) : HostAction Problem Bool := do
  match ← attempt (Daemon.removeNetwork id name) with
  | .ok () =>
      noteHere .debug ("Removed network " ++ name)
      return true
  | .error failure =>
      if failure.isMissing then return false
      if isAttached failure then
        noteHere .warning ("Cannot remove " ++ name ++ ": containers still connected")
      else
        noteHere .error ("Failed to remove network " ++ name ++ ": " ++ failure.message)
      return false

/-- Remove items one after the other: the names of those that were removed. -/
def removeAll {α : Type} (name : α → String) (remove : α → HostAction Problem Bool) :
    List α → HostAction Problem (List String)
  | [] => return []
  | item :: rest => do
      let removed ← remove item
      let others ← removeAll name remove rest
      return if removed then name item :: others else others

/-- Kill a container if it is running. -/
def killContainer (id context : String) : HostAction Problem Bool := do
  match ← attempt (Daemon.getContainer id) with
  | .error failure =>
      noteHere .warning
        (context ++ " can't get status of " ++ shortId id ++ ": " ++ failure.message)
      return false
  | .ok container =>
      if !container.showsRunning then return false
      match ← attempt (Daemon.kill container "KILL") with
      | .ok () => return true
      | .error failure =>
          noteHere .warning
            (context ++ " failed to kill container " ++ shortId id ++ ": " ++ failure.message)
          return false

/-! ## Diagnostics -/

def containerLog (id : String) : HostAction Failure String := do
  let container ← Daemon.getContainer id
  let bytes ← Daemon.readLog container
  return Text.ofUtf8Lossy bytes

def printLog (id context : String) : HostAction Problem Unit := do
  match ← attempt (containerLog id) with
  | .error failure =>
      noteHere .error (context ++ " : Failed to extract container logs: " ++ failure.message)
  | .ok text =>
      note .error .catalog
        ("============================================\n" ++ context ++ " : Server logs:\n" ++
          text ++ "\n============== " ++ context ++ " : END LOGS ==============")

def reportedPlace (binding : Value) : String :=
  let shown (name : String) : String :=
    match binding with
    | .map entries => ((Value.field? entries name).map Value.display).getD ""
    | _ => ""
  shown "HostIp" ++ ":" ++ shown "HostPort"

def reportedPlaces : Value → List String
  | .list items => items.map reportedPlace
  | _ => []

def bindingLines (container : Container) : List String :=
  ["Container: " ++ container.id ++ ": " ++ container.name, "    (host) -> (container)"] ++
    (portEntries container.shownPorts).map fun entry =>
      "    " ++ ", ".intercalate (reportedPlaces entry.2) ++ " -> " ++ entry.1.display

/-- Log where the ports of all managed containers are bound. -/
def printPortBindings (context : String) : HostAction Problem Unit := do
  match ← attempt (listContainers .everything) with
  | .error failure =>
      noteHere .error
        (context ++ " : Failed to list containers for port bindings: " ++ failure.message)
  | .ok containers =>
      let lines :=
        ["============== " ++ context ++ " : START ALL PORT BINDINGS =============="] ++
          containers.flatMap bindingLines ++
          ["=============== " ++ context ++ " : END ALL PORT BINDINGS ==============="]
      note .info .catalog ("\n".intercalate lines)

end FixtureImages.Catalog
