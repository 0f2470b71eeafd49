import FixtureImages.Value.Inspect

/-!
# Published ports

A daemon reports for each port of a container where on the host it can be reached. Of several
bindings the one at the wanted address comes first, then one at all interfaces, and then, for the
loopback address, one that names no address.
-/

namespace FixtureImages

set_option autoImplicit false

def allInterfaces : String := "0.0.0.0"

def loopback : String := "127.0.0.1"

/-- A place on the host, or the interface to which it is bound. The address is none when it was
reported as something other than a text. -/
structure Binding where
  address : Option String
  port : String
deriving DecidableEq

structure HostPort where
  address : String
  port : String
deriving DecidableEq

def HostPort.text (place : HostPort) : String := place.address ++ ":" ++ place.port

/-- Why a port cannot be reached, with all reported ports. -/
inductive PortFault
  | notExposed (port : String) (ports : Value)
  | notMapped (port : String) (ports : Value)
  | noBinding (address port : String) (ports : Value)
deriving DecidableEq

def PortFault.message : PortFault → String
  | .notExposed port ports =>
      "port " ++ port ++ " not exposed - exposed ports: " ++ ports.display
  | .notMapped port ports =>
      "port " ++ port ++ " exposed with no mapped host port: " ++ ports.display
  | .noBinding address port ports =>
      "unable to find matching port binding for " ++ address ++ " " ++ port ++ ": " ++ ports.display

/-- An address as it was reported; what stands for nothing is the empty address. -/
def reportedAddress : Option Value → Option String
  | none => some ""
  | some (.text address) => some address
  | some value => if value.isNothing then some "" else none

/-- A reported binding. Its address has one of two spellings, of which the first counts when
present. -/
def Binding.ofValue (value : Value) : Binding :=
  match value with
  | .map entries =>
      let address := (Value.field? entries "HostIp").or (Value.field? entries "HostIP")
      let port := (Value.field? entries "HostPort").getD .null
      ⟨reportedAddress address, if port.isNothing then "" else port.display⟩
  | _ => ⟨none, ""⟩

def bindingsOf : Value → List Binding
  | .list items => items.map .ofValue
  | _ => []

def chooseBinding (wanted : String) (bindings : List Binding) : Option HostPort :=
  let at? (address : String) : Option HostPort :=
    (bindings.find? (·.address == some address)).map fun binding => ⟨wanted, binding.port⟩
  ((at? wanted).or (at? allInterfaces)).or (if wanted = loopback then at? "" else none)

/-- The entries of reported ports; what stands for nothing has none. -/
def portEntries : Value → List (Value × Value)
  | .map entries => entries
  | _ => []

def portKey (port : Int) (protocol : String) : String := toString port ++ "/" ++ protocol

/-- Find where a port can be reached at the wanted address. -/
def resolvePort (ports : Value) (wanted : String) (port : Int) (protocol : String) :
    Except PortFault HostPort :=
  let ports := if ports.isNothing then .map [] else ports
  let key := portKey port protocol
  match Value.field? (portEntries ports) key with
  | none => .error (.notExposed key ports)
  | some reported =>
      if reported.isNothing then .error (.notMapped key ports)
      else
        match chooseBinding wanted (bindingsOf reported) with
        | some place => .ok place
        | none => .error (.noBinding wanted key ports)

/-- Which of the two interfaces of an instance cannot be reached. -/
inductive EndpointFault
  | client (fault : PortFault)
  | federation (fault : PortFault)
deriving DecidableEq

def EndpointFault.message : EndpointFault → String
  | .client fault => "problem finding client API port: " ++ fault.message
  | .federation fault => "problem finding federation API port: " ++ fault.message

structure Endpoints where
  client : String
  federation : String
deriving DecidableEq

def endpoints (ports : Value) (wanted : String) (clientPort federationPort : Int) :
    Except EndpointFault Endpoints := do
  let client ← (resolvePort ports wanted clientPort "tcp").mapError .client
  let federation ← (resolvePort ports wanted federationPort "tcp").mapError .federation
  return ⟨"http://" ++ client.text, "https://" ++ federation.text⟩

end FixtureImages
