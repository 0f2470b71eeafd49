import FixtureImages.Decimal.Notation
import FixtureImages.Port

/-!
# Failures

What can go wrong with a build. Calls to the outside fail in their own ways; each stage of a build
adds what it was doing and keeps the failure that led to it as the cause.
-/

namespace FixtureImages

set_option autoImplicit false

/-- The kinds of failure of calls to the outside: of the daemon, of the connection to it, of a
request to an instance, or of a collaborator. All of them are ordinary exceptions, such as a handler
for every exception catches; an interruption of the whole process is no failure here. -/
inductive OutsideKind
  | daemon
  | api
  | notFound
  | imageNotFound
  | runtime
  | invalidValue
  | connection
  | connect
  | readTimeout
  | invalidUrl
deriving DecidableEq, Repr

inductive Stage
  | provisioning
  | deployment
  | setup
  | commit
  | ports
deriving DecidableEq, Repr

inductive Failure
  /-- A call failed. The failure may name a container, or name none in particular. -/
  | outside (kind : OutsideKind) (message : String) (container : Option (Option String))
  /-- A collaborator failed at a stage of the build, in its own words. -/
  | reported (stage : Stage) (message : String) (container : Option (Option String))
  | networkList (blueprint : String) (cause : Failure)
  | networkCreate (blueprint : String) (cause : Failure)
  | networkWarning (blueprint warning : String)
  | networkWithoutId (blueprint : String)
  | containerCreate (name : String) (cause : Failure)
  | containerStart (name id : String) (cause : Failure)
  | unreachable (fault : EndpointFault)
  | containerInspect (name id : String) (cause : Failure)
  | containerStopped (name id : String)
  | notReady (name id url : String) (timeout : Binary64) (last : Option String)
  | noBaseImage (context : String)
  | deployment (context : String) (cause : Failure)
  | setup (context : String) (cause : Failure)
  | stop (context : String) (cause : Failure)
  | commit (context : String) (cause : Failure)
  /-- The labels of an image could not be collected. Only the message of the cause is kept. -/
  | labels (context cause : String)
  | listing (activity : String) (cause : Failure)
  | visibility (blueprint : String) (expected found : Int)
deriving DecidableEq

namespace Failure

def message : Failure → String
  | .outside _ message _ | .reported _ message _ => message
  | .networkList blueprint cause => blueprint ++ ": failed to list networks. " ++ cause.message
  | .networkCreate blueprint cause =>
      blueprint ++ ": failed to create docker network. " ++ cause.message
  | .networkWarning blueprint warning =>
      blueprint ++ ": fatal warning while creating docker network. " ++ warning
  | .networkWithoutId blueprint => blueprint ++ ": unexpected empty ID while creating network"
  | .containerCreate name cause => "failed to create container " ++ name ++ ": " ++ cause.message
  | .containerStart name _ cause => name ++ ": " ++ cause.message
  | .unreachable fault => fault.message
  | .containerInspect name _ cause => name ++ ": inspect failed: " ++ cause.message
  | .containerStopped name _ => name ++ ": container is no longer running"
  | .notReady name _ url timeout last =>
      name ++ ": not ready after " ++ timeout.text ++ "s at " ++ url ++ ": " ++ last.getD "None"
  | .noBaseImage context => context ++ " : no base image configured"
  | .deployment context cause => context ++ " : " ++ cause.message
  | .setup context cause => context ++ " : failed to run instructions: " ++ cause.message
  | .stop context cause => context ++ " : failed to stop container: " ++ cause.message
  | .commit context cause => context ++ " : failed to commit container: " ++ cause.message
  | .labels context cause => context ++ " : failed to collect image labels: " ++ cause
  | .listing activity cause => activity ++ ": failed to list images: " ++ cause.message
  | .visibility blueprint expected found =>
      "failed to find built images for '" ++ blueprint ++ "': expected " ++ toString expected ++
        ", found " ++ toString found ++ ". Did they all build ok?"

def cause : Failure → Option Failure
  | .networkList _ cause | .networkCreate _ cause | .containerCreate _ cause
  | .containerStart _ _ cause | .containerInspect _ _ cause | .deployment _ cause
  | .setup _ cause | .stop _ cause | .commit _ cause | .listing _ cause => some cause
  | .outside .. | .reported .. | .networkWarning .. | .networkWithoutId _ | .unreachable _
  | .containerStopped .. | .notReady .. | .noBaseImage _ | .labels .. | .visibility .. => none

def stage : Failure → Option Stage
  | .reported stage _ _ => some stage
  | .networkList .. | .networkCreate .. | .networkWarning .. | .networkWithoutId _ =>
      some .provisioning
  | .containerCreate .. | .containerStart .. | .containerInspect .. | .containerStopped ..
  | .notReady .. | .noBaseImage _ | .deployment .. => some .deployment
  | .setup .. => some .setup
  | .stop .. | .commit .. | .labels .. => some .commit
  | .unreachable _ => some .ports
  | .outside .. | .listing .. | .visibility .. => none

/-- What a failure says about a container: nothing, that it is unknown, or its identifier. -/
def container : Failure → Option (Option String)
  | .outside _ _ container | .reported _ _ container => container
  | .containerStart _ id _ | .containerInspect _ id _ | .containerStopped _ id
  | .notReady _ id _ _ _ => some (some id)
  | .deployment _ cause => some (some ((cause.container.join).getD ""))
  | .containerCreate .. | .noBaseImage _ => some (some "")
  | .networkList .. | .networkCreate .. | .networkWarning .. | .networkWithoutId _ | .unreachable _
  | .setup .. | .stop .. | .commit .. | .labels .. | .listing .. | .visibility .. => none

/-- The container that a failure names, or the empty identifier. -/
def containerId (failure : Failure) : String := failure.container.join.getD ""

def isDaemon : Failure → Bool
  | .outside .daemon _ _ | .outside .api _ _ | .outside .notFound _ _
  | .outside .imageNotFound _ _ => true
  | _ => false

/-- Whether the daemon refused a request, be it that something is missing. -/
def isApi : Failure → Bool
  | .outside .api _ _ | .outside .notFound _ _ | .outside .imageNotFound _ _ => true
  | _ => false

def isMissing : Failure → Bool
  | .outside .notFound _ _ | .outside .imageNotFound _ _ => true
  | _ => false

/-- Whether a request to an instance failed on the way. -/
def isTransport : Failure → Bool
  | .outside .connect _ _ | .outside .readTimeout _ _ => true
  | _ => false

end Failure

/-- How a build fails: with one failure, or with all that came up while its instances were
constructed. -/
inductive BuildFailure
  | single (failure : Failure)
  | construction (blueprint : String) (failures : List Failure)
deriving DecidableEq

def BuildFailure.message : BuildFailure → String
  | .single failure => failure.message
  | .construction blueprint failures =>
      "errors whilst constructing blueprint " ++ blueprint ++ ": [" ++
        "; ".intercalate (failures.map Failure.message) ++ "]"

end FixtureImages
