import FixtureImages.Action
import FixtureImages.Directive
import FixtureImages.Host.Call
import FixtureImages.Naming

/-!
# The daemon

What each call does on the host, once it is recorded and meets no failure. It is assumed of the
daemon that a call which fails has changed nothing else: no failure comes after the effect, as when
an answer is lost on the way back.
-/

namespace FixtureImages

set_option autoImplicit false

abbrev HostAction (Problem α : Type) : Type := Action Host Event Problem α

/-- Record a call and meet the failure that is due, if any. -/
def perform (call : Call) : HostAction Failure Unit := fun host =>
  let (faults, failure) := meetFaults call host.faults
  ⟨match failure with
    | some failure => .error failure
    | none => .ok (),
    { host with faults }, [.call call]⟩

def note {Problem : Type} (level : LogLevel) (source : LogSource) (message : String) :
    HostAction Problem Unit :=
  Action.emit (.log ⟨level, source, message⟩)

namespace Host

/-! ## Changes -/

def updateContainer (id : String) (update : Container → Container) (host : Host) : Host :=
  { host with
    containers := host.containers.map fun container =>
      if container.id = id then update container else container }

def dropContainer (id : String) (host : Host) : Host :=
  { host with containers := host.containers.filter (·.id != id) }

def dropImage (id : String) (host : Host) : Host :=
  { host with images := host.images.filter (·.id != id) }

def dropNetwork (id : String) (host : Host) : Host :=
  { host with networks := host.networks.filter (·.id != id) }

/-- Put an item in the place of one with its identifier, or at the end. -/
def placeBy {α : Type} (idOf : α → String) (item : α) : List α → List α
  | [] => [item]
  | other :: rest =>
      if idOf other = idOf item then item :: rest else other :: placeBy idOf item rest

/-- A new network, whose identifier is counted unless one is given. -/
def addNetwork (name : String) (labels : Option Labels) (id : Option String) (always : Bool)
    (host : Host) : String × Host :=
  let (id, nextId) :=
    match id with
    | some id => (id, host.nextId)
    | none => (networkId host.nextId, host.nextId + 1)
  (id,
    { host with
      networks := placeBy Network.id ⟨id, name, labels, always⟩ host.networks
      knownNetworks := placeBy Prod.fst (id, name) host.knownNetworks
      nextId })

def addImage (tags : Option (List String)) (labels : Option Labels) (id : Option String)
    (visibleAt : Nat) (always : Bool) (host : Host) : Image × Host :=
  let (id, nextId) :=
    match id with
    | some id => (id, host.nextId)
    | none => (imageId host.nextId, host.nextId + 1)
  let image : Image := ⟨id, tags, labels, visibleAt, always⟩
  (image, { host with images := placeBy Image.id image host.images, nextId })

/-- The labels of all images with a tag, later ones over earlier ones. -/
def labelsOfTag (tag : String) (host : Host) : Labels :=
  host.images.foldl
    (fun labels image =>
      if (image.tags.getD []).contains tag then labels.overlay (image.labels.getD ∅) else labels)
    ∅

/-- The labels of a container of an image: those of the image, and the given ones over them. -/
def inheritedLabels (image : String) (labels : Option Labels) (host : Host) : Option Labels :=
  let inherited := host.labelsOfTag image
  match labels with
  | some labels => some (inherited.overlay labels)
  | none => if inherited.isEmpty then none else some inherited

/-- A new container, as the settings are now. -/
def addContainer (id : Option String) (build : String → Host → Container) (host : Host) :
    Container × Host :=
  let (id, nextId) :=
    match id with
    | some id => (id, host.nextId)
    | none => (containerId host.nextId, host.nextId + 1)
  let container := build id host
  (container,
    { host with containers := placeBy Container.id container host.containers, nextId })

def requestedContainer (request : ContainerRequest) (id : String) (host : Host) : Container :=
  { id, name := request.name, image := request.image, running := false
    labels := some ((host.labelsOfTag request.image).overlay request.labels)
    network := some request.network, ports := request.ports, published := []
    reported := host.settings.reportedPorts, hidesNetwork := host.settings.hidesNetwork
    hidesState := false, log := host.settings.log, crashAt := host.settings.crashAt
    inspections := 0, always := false }

/-- Publish ports at the next free places on the host, from `next` on. -/
def publishPorts (address : Option String) (next : Nat) :
    List (String × List String) → List (Value × Value)
  | [] => []
  | (port, addresses) :: rest =>
      let place := address.getD (addresses.headD "")
      (.text port, .list [.map
        [(.text "HostIp", .text place), (.text "HostPort", .text (toString next))]]) ::
        publishPorts address (next + 1) rest

def startContainer (id : String) (host : Host) : Host :=
  match host.containers.find? (·.id == id) with
  | none => host
  | some container =>
      let published := publishPorts host.settings.publishAddress host.nextPort container.ports
      { host.updateContainer id fun container => { container with running := true, published } with
        nextPort := host.nextPort + container.ports.length }

/-- Count an inspection; the container may be found to have stopped. -/
def countInspection (container : Container) : Container :=
  let inspections := container.inspections + 1
  { container with
    inspections
    running := container.running && !(container.crashAt != 0 && container.crashAt ≤ inspections) }

/-- The labels of a committed image: the container's, and those of the directives over them. -/
def committedLabels (labels : Option Labels) (changes : List String) : Labels :=
  (labels.getD ∅).insertAll (changes.filterMap Directive.read)

def commitContainer (container : Container) (request : CommitRequest) (host : Host) :
    Image × Host :=
  let (image, host) :=
    host.addImage (some [request.repository ++ ":" ++ request.tag])
      (some (committedLabels container.labels request.changes)) host.settings.nextImageId
      (host.clock + host.settings.visibilityDelay) false
  (image, { host with settings := { host.settings with nextImageId := none } })

/-- The answer to a request: the next one, or the usual one when there is none left. -/
def nextAnswer (host : Host) : HttpAnswer × Host :=
  match host.answers with
  | [] => (host.settings.usualAnswer, host)
  | answer :: rest => (answer, { host with answers := rest })

end Host

/-! ## Calls -/

namespace Daemon

open FixtureImages.Action

def missing (what : String) (name : String) : Failure :=
  .outside .notFound (what ++ " " ++ name ++ " not found") none

def listNetworks (filters : List String) : HostAction Failure (List Network) := do
  perform (.listNetworks filters)
  look fun host => host.networks.filter fun network =>
    network.always || meetsFilters filters network.labels

/-- Images are listed once they are visible. -/
def listImages (filters : List String) : HostAction Failure (List Image) := do
  perform (.listImages filters)
  look fun host => host.images.filter fun image =>
    image.visibleAt ≤ host.clock && (image.always || meetsFilters filters image.labels)

def listContainers (all : Bool) (filters : List String) : HostAction Failure (List Container) := do
  perform (.listContainers all filters)
  look fun host => host.containers.filter fun container =>
    (all || container.running) && (container.always || meetsFilters filters container.labels)

def getContainer (id : String) : HostAction Failure Container := do
  perform (.getContainer id)
  match ← look fun host => host.containers.find? (·.id == id) with
  | some container => return container
  | none => fail (missing "container" id)

def createContainer (request : ContainerRequest) : HostAction Failure Container := do
  perform (.createContainer request)
  take (Host.addContainer none (Host.requestedContainer request))

def removeImage (id : String) (force : Bool) : HostAction Failure Unit := do
  perform (.removeImage id force)
  if ← look fun host => host.images.any (·.id == id) then change (Host.dropImage id)
  else fail (missing "image" id)

/-- Remove a network, unless a running container is attached to it. -/
def removeNetwork (id name : String) : HostAction Failure Unit := do
  perform (.removeNetwork name)
  if ← look fun host => !host.networks.any (·.id == id) then fail (missing "network" name)
  else if ← look fun host => host.containers.any fun container =>
      container.running && container.network == some name then
    fail (.outside .api
      ("error while removing network: network " ++ name ++ " has active endpoints") none)
  else change (Host.dropNetwork id)

/-- Make a network, unless the daemon is to answer something else. -/
def createNetwork (name driver : String) (labels : Labels) : HostAction Failure NetworkReply := do
  perform (.createNetwork name driver labels)
  match ← look fun host => host.settings.networkReply with
  | some reply => return reply
  | none => do
      let id ← take (Host.addNetwork name (some labels) none false)
      let warning ← look fun host => host.settings.networkWarning
      return ⟨id, warning⟩

/-- Look at a container afresh. -/
def inspect (container : Container) : HostAction Failure Container := do
  perform (.inspect container.name)
  change (Host.updateContainer container.id Host.countInspection)
  look fun host => (host.containers.find? (·.id == container.id)).getD container

def start (container : Container) : HostAction Failure Unit := do
  perform (.start container.name)
  change (Host.startContainer container.id)

def halt (container : Container) : HostAction Failure Unit :=
  change (Host.updateContainer container.id fun current => { current with running := false })

def stop (container : Container) (grace : Nat) : HostAction Failure Unit := do
  perform (.stop container.name grace)
  halt container

def kill (container : Container) (signal : String) : HostAction Failure Unit := do
  perform (.kill container.name signal)
  halt container

def removeContainer (container : Container) (force : Bool) : HostAction Failure Unit := do
  perform (.removeContainer container.name force)
  match ← look fun host => host.containers.find? (·.id == container.id) with
  | none => fail (missing "container" container.id)
  | some current =>
      if current.running && !force then fail (.outside .api "container is running" none)
      else change (Host.dropContainer container.id)

/-- Both outputs of a container so far. -/
def readLog (container : Container) : HostAction Failure (List UInt8) := do
  perform (.readLog container.name true true false)
  return container.log

def putArchive (container : Container) (path : String) (archive : List UInt8) :
    HostAction Failure Unit :=
  perform (.putArchive container.name path (Archive.read archive))

def commit (container : Container) (request : CommitRequest) : HostAction Failure Image := do
  perform (.commit container.name request)
  take (Host.commitContainer container request)

/-- Ask a server for a page. It answers or fails as the next answer says. -/
def request (url : String) (timeout : Binary64) : HostAction Failure Int := do
  emit (.call (.get url timeout))
  let answer ← take Host.nextAnswer
  change fun host => { host with clock := host.clock + answer.cost }
  ofExcept answer.status

variable {Problem : Type}

/-- The clock of a host counts microseconds. -/
def ticksPerSecond : Nat := 1000000

def now : HostAction Problem Nat := look fun host => host.clock

/-- Pause. No failure can come of it. -/
def sleep (microseconds : Nat) : HostAction Problem Unit := do
  emit (.call (.sleep microseconds))
  change fun host => { host with clock := host.clock + microseconds }

end Daemon

end FixtureImages
