import FixtureImages.Blueprint.Validation
import FixtureImages.Config
import FixtureImages.Decimal.NumeralFault
import FixtureImages.Text.LowerCase

/-!
# Configuration by environment variables

Each setting has a variable, which may be unset. Variables that name a base image for one instance
carry its name behind a common stem.
-/

namespace FixtureImages

set_option autoImplicit false

/-- The first variable whose text cannot be read, in order of the settings; the namespace is judged
last. -/
inductive EnvironmentFault
  | timeout (text : String)
  | port (text : String) (fault : IntegerFault)
  | invalid (complaints : List Complaint)
deriving DecidableEq

/-- The message of a fault; complaints have messages of their own. -/
def EnvironmentFault.message : EnvironmentFault → String
  | .timeout text => decimalMessage text
  | .port text fault => fault.message 10 text
  | .invalid _ => ""

/-- The stem of variables that name a base image for one instance. -/
def baseImageStem : String := "COMMANDER_BASE_IMAGE_"

def isYes (text : String) : Bool :=
  let word := Text.lower (String.ofList (Text.trimBy Text.isBlank text.toList))
  word = "1" || word = "true" || word = "yes"

/-- Base images by instance, in lower case, from the variables that are not empty. -/
def baseImagesOf (environment : Labels) : Labels :=
  .ofList <| environment.entries.filterMap fun entry =>
    if entry.2.isEmpty then none
    else (baseImageStem.toList.isPrefixOf? entry.1.toList).map fun name =>
      (Text.lower (String.ofList name), entry.2)

def readPort (text : String) : Except EnvironmentFault Int :=
  (readInteger 10 text).mapError (.port text)

def Config.ofEnvironment (environment : Labels) : Except EnvironmentFault Config := do
  let setting (name fallback : String) : String := environment.getD name fallback
  let timeout := setting "COMMANDER_SPAWN_TIMEOUT" "30"
  let spawnTimeout ← (readDecimal timeout).elim (.error (.timeout timeout)) .ok
  let clientPort ← readPort (setting "COMMANDER_CLIENT_PORT" "8008")
  let federationPort ← readPort (setting "COMMANDER_FEDERATION_PORT" "8448")
  let scope ←
    (Checked.inside (.name "namespace")
      (Checked.name "namespace" (.text (setting "COMMANDER_NAMESPACE" "default")))).mapError
        .invalid
  return {
    scope
    baseImage := setting "COMMANDER_BASE_IMAGE" ""
    baseImages := baseImagesOf environment
    keepBlueprints := Text.words (setting "COMMANDER_KEEP_BLUEPRINTS" "")
    debug := isYes (setting "COMMANDER_DEBUG" "false")
    bindAddress := setting "COMMANDER_HOST_BIND_IP" "127.0.0.1"
    spawnTimeout
    sharedStem := setting "COMMANDER_SHARE_ENV_PREFIX" ""
    clientPort
    federationPort
    readinessPath := setting "COMMANDER_READINESS_PATH" "/_matrix/client/versions" }

end FixtureImages
