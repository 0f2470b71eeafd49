import FixtureImages.Failure
import FixtureImages.Query

/-!
# The host

The host on which fixtures are built: the networks, images and containers of its daemon, its clock,
the answers that instances will give, and the failures that are yet to come.
-/

namespace FixtureImages

set_option autoImplicit false

/-- Resources marked `always` show up in every listing. -/
structure Network where
  id : String
  name : String
  labels : Option Labels
  always : Bool
deriving DecidableEq

/-- An image can be listed from some instant on. -/
structure Image where
  id : String
  tags : Option (List String)
  labels : Option Labels
  visibleAt : Nat
  always : Bool
deriving DecidableEq

/-- A container reports its ports as published, or as `reported` when that is given, and leaves out
the state or the network settings when told so. At the `crashAt`-th inspection and later it is found
stopped; zero stands for never. -/
structure Container where
  id : String
  name : String
  image : String
  running : Bool
  labels : Option Labels
  network : Option String
  ports : List (String × List String)
  published : List (Value × Value)
  reported : Option Value
  hidesNetwork : Bool
  hidesState : Bool
  log : List UInt8
  crashAt : Nat
  inspections : Nat
  always : Bool
deriving DecidableEq

/-- What the daemon answers when a network is made. Missing parts are empty. -/
structure NetworkReply where
  id : String
  warning : String
deriving DecidableEq

/-- How an instance answers a request: after some microseconds, with a status or a failure. -/
structure HttpAnswer where
  cost : Nat
  status : Except Failure Int

/-- How the daemon behaves from now on. -/
structure Settings where
  publishAddress : Option String
  reportedPorts : Option Value
  hidesNetwork : Bool
  crashAt : Nat
  log : List UInt8
  networkWarning : String
  networkReply : Option NetworkReply
  nextImageId : Option String
  visibilityDelay : Nat
  usualAnswer : HttpAnswer

/-- A failure of calls of one method, and of one key unless `key` is none. It lets `skip` calls pass
and then comes up so many `times`, or for ever. -/
structure FaultRule where
  method : String
  key : Option String
  failure : Failure
  skip : Nat
  times : Option Nat
deriving DecidableEq

structure Host where
  networks : List Network
  images : List Image
  containers : List Container
  knownNetworks : List (String × String)
  nextId : Nat
  nextPort : Nat
  clock : Nat
  settings : Settings
  answers : List HttpAnswer
  faults : List FaultRule
  environment : Labels

namespace Host

/-- A status of 200 after no time. -/
def readyAnswer : HttpAnswer := ⟨0, .ok 200⟩

def usualSettings : Settings :=
  { publishAddress := none, reportedPorts := none, hidesNetwork := false, crashAt := 0, log := [],
    networkWarning := "", networkReply := none, nextImageId := none, visibilityDelay := 0,
    usualAnswer := readyAnswer }

/-- A host with nothing on it. -/
def fresh (environment : Labels) : Host :=
  { networks := [], images := [], containers := [], knownNetworks := [], nextId := 1,
    nextPort := 32768, clock := 0, settings := usualSettings, answers := [], faults := [],
    environment }

end Host

/-! ## Identifiers -/

/-- The hexadecimal digits of a number, twelve at least. -/
def idDigits (number : Nat) : String :=
  String.ofList (Text.hexDigits (max 12 (number.log2 / 4 + 1)) number)

def networkId (number : Nat) : String := idDigits number ++ "ne70"

def containerId (number : Nat) : String := idDigits number ++ "c0de"

def imageId (number : Nat) : String := "sha256:" ++ idDigits number ++ "1a6e"

/-- The first twelve characters of an identifier. -/
def shortId (id : String) : String := String.ofList (id.toList.take 12)

/-! ## What a container shows -/

namespace Container

def showsRunning (container : Container) : Bool := !container.hidesState && container.running

/-- The ports that are shown, or null. -/
def shownPorts (container : Container) : Value :=
  if container.hidesNetwork then .null else container.reported.getD (.map container.published)

end Container

end FixtureImages
