import FixtureImages.Name
import FixtureImages.Table
import FixtureImages.Decimal.Binary64

/-!
# Configuration

The settings that the builder, the deployer and the cleaning of a namespace share.
-/

namespace FixtureImages

set_option autoImplicit false

/-- `scope` is the namespace that all resources belong to. Base images are looked up by the name of
the instance in lower case before the general one is taken. -/
structure Config where
  scope : Name
  baseImage : String
  baseImages : Labels
  keepBlueprints : List String
  debug : Bool
  bindAddress : String
  spawnTimeout : Binary64
  sharedStem : String
  clientPort : Int
  federationPort : Int
  readinessPath : String
deriving DecidableEq

namespace Config

def defaultScope : Name := ⟨"default", by decide⟩

def usual : Config where
  scope := defaultScope
  baseImage := ""
  baseImages := ∅
  keepBlueprints := []
  debug := false
  bindAddress := "127.0.0.1"
  spawnTimeout := .ofInt 30
  sharedStem := ""
  clientPort := 8008
  federationPort := 8448
  readinessPath := "/_matrix/client/versions"

end Config

end FixtureImages
