import FixtureImages.Archive.Reader
import FixtureImages.Blueprint
import FixtureImages.Host
import FixtureImages.Log

/-!
# Calls and events

Every call to the outside, with its arguments, as it appears in a trace. A call has a method and,
unless it is about no resource in particular, a key.
-/

namespace FixtureImages

set_option autoImplicit false

/-- What a container is made from. Each port is published at the given addresses. -/
structure ContainerRequest where
  image : String
  name : String
  hostname : String
  labels : Labels
  environment : Labels
  network : String
  ports : List (String × List String)
  extraHosts : Labels
  detach : Bool
deriving DecidableEq

structure CommitRequest where
  repository : String
  tag : String
  author : String
  pause : Bool
  changes : List String
deriving DecidableEq

structure DeployRequest where
  baseImage : String
  containerName : String
  scope : String
  blueprint : String
  server : String
  registrations : Labels
  network : String
deriving DecidableEq

inductive Call
  | listNetworks (filters : List String)
  | listImages (filters : List String)
  | listContainers (all : Bool) (filters : List String)
  | getContainer (id : String)
  | createContainer (request : ContainerRequest)
  | removeImage (id : String) (force : Bool)
  | removeNetwork (name : String)
  | createNetwork (name driver : String) (labels : Labels)
  | inspect (name : String)
  | start (name : String)
  | stop (name : String) (grace : Nat)
  | kill (name signal : String)
  | removeContainer (name : String) (force : Bool)
  | readLog (name : String) (output errors follow : Bool)
  | putArchive (name path : String) (members : Option (List ArchiveMember))
  | commit (name : String) (request : CommitRequest)
  | get (url : String) (timeout : Binary64)
  | sleep (microseconds : Nat)
  | makeRunner (blueprint : String)
  | run (server url : String) (steps : List SetupStep)
  | credentials (server : String)
  | devices (server : String)
  | deploy (request : DeployRequest)
deriving DecidableEq

namespace Call

def method : Call → String
  | .listNetworks _ => "networks.list"
  | .listImages _ => "images.list"
  | .listContainers .. => "containers.list"
  | .getContainer _ => "containers.get"
  | .createContainer _ => "containers.create"
  | .removeImage .. => "images.remove"
  | .removeNetwork _ => "network.remove"
  | .createNetwork .. => "api.create_network"
  | .inspect _ => "container.reload"
  | .start _ => "container.start"
  | .stop .. => "container.stop"
  | .kill .. => "container.kill"
  | .removeContainer .. => "container.remove"
  | .readLog .. => "container.logs"
  | .putArchive .. => "container.put_archive"
  | .commit .. => "container.commit"
  | .get .. => "httpx.get"
  | .sleep _ => "sleep"
  | .makeRunner _ => "runner_factory"
  | .run .. => "runner.run"
  | .credentials _ => "runner.credentials"
  | .devices _ => "runner.device_ids"
  | .deploy _ => "deployer.deploy"

/-- The resource that a call is about. -/
def key : Call → Option String
  | .getContainer id | .removeImage id _ => some id
  | .createContainer request => some request.name
  | .removeNetwork name | .createNetwork name _ _ | .inspect name | .start name | .stop name _
  | .kill name _ | .removeContainer name _ | .readLog name _ _ _ | .putArchive name _ _
  | .commit name _ | .makeRunner name | .run name _ _ | .credentials name | .devices name =>
      some name
  | .deploy request => some request.server
  | .listNetworks _ | .listImages _ | .listContainers .. | .get .. | .sleep _ => none

end Call

inductive Event
  | call (call : Call)
  | log (record : LogRecord)
deriving DecidableEq

/-! ## Failures to come -/

def FaultRule.concerns (rule : FaultRule) (call : Call) : Bool :=
  rule.method == call.method && rule.times != some 0 &&
    (rule.key.isNone || rule.key == call.key)

/-- The rules after a call, and the failure that it meets: that of the first rule about it which no
longer lets calls pass. -/
def meetFaults (call : Call) : List FaultRule → List FaultRule × Option Failure
  | [] => ([], none)
  | rule :: rest =>
      if !rule.concerns call then
        let (later, failure) := meetFaults call rest
        (rule :: later, failure)
      else if rule.skip ≠ 0 then
        let (later, failure) := meetFaults call rest
        ({ rule with skip := rule.skip - 1 } :: later, failure)
      else ({ rule with times := rule.times.map (· - 1) } :: rest, some rule.failure)

end FixtureImages
