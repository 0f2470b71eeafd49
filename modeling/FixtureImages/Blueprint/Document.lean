import FixtureImages.Blueprint.Dump
import FixtureImages.Blueprint.Validation
import FixtureImages.Yaml.Data
import FixtureImages.Yaml.Printer

/-!
# Blueprints as documents

Reading a blueprint from a text and writing it back.
-/

namespace FixtureImages

set_option autoImplicit false

/-- Why a text is no blueprint. -/
inductive DocumentFault
  | document (fault : Yaml.Fault)
  | notMapping
  | invalid (complaints : List Complaint)
deriving DecidableEq

namespace Blueprint

def ofYaml (text : String) : Except DocumentFault Blueprint :=
  match Yaml.read text with
  | .error fault => .error (.document fault)
  | .ok (.map entries) => (ofValue (.map entries)).mapError .invalid
  | .ok _ => .error .notMapping

def toYaml (blueprint : Blueprint) : Except Text.Utf8Fault String :=
  blueprint.stored.map (Yaml.write true)

/-- Whether a document, when it can be read, gives the blueprint. -/
def survives (blueprint : Blueprint) (document : String) : Except DocumentFault Bool :=
  (ofYaml document).map fun again => again = blueprint

end Blueprint

end FixtureImages
