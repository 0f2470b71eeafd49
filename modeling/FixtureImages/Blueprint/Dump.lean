import FixtureImages.Blueprint
import FixtureImages.Plain

/-!
# Blueprints as data

The data of a blueprint with all its fields, and the plain data that is stored, in which an absent
base image is left out.
-/

namespace FixtureImages

set_option autoImplicit false

open Text

/-- A mapping with the given texts for keys. -/
def Value.record (fields : List (String × Value)) : Value :=
  .map (fields.map fun field => (.text field.1, field.2))

def ApplicationService.fields (service : ApplicationService) : List (String × Plain) :=
  [("id", .text service.id), ("hs_token", .text service.serverToken),
    ("as_token", .text service.serviceToken), ("url", .text service.url),
    ("sender_localpart", .text service.sender), ("rate_limited", .bool service.rateLimited),
    ("send_ephemeral", .bool service.sendEphemeral),
    ("enable_encryption", .bool service.enableEncryption)]

def ApplicationService.value (service : ApplicationService) : Value :=
  (Plain.map service.fields).value

def Instance.value (server : Instance) : Value :=
  .record
    [("name", .text server.name.text),
      ("base_image_uri", (server.baseImage.map Value.text).getD .null),
      ("steps", .list (server.steps.map fun step => .record step.entries)),
      ("application_services", .list (server.services.map ApplicationService.value))]

def Blueprint.value (blueprint : Blueprint) : Value :=
  .record
    [("name", .text blueprint.name.text),
      ("instances", .list (blueprint.instances.map Instance.value)),
      ("keep_credentials_for", .list (blueprint.keepCredentialsFor.map Value.text))]

/-! ## Stored form -/

def storedStep (step : SetupStep) : Except Utf8Fault Plain := do
  let entries ← step.entries.mapM fun entry => do
    let content ← Plain.ofValue entry.2
    return (entry.1, content)
  return .map entries

def Instance.stored (server : Instance) : Except Utf8Fault Plain := do
  let steps ← server.steps.mapM storedStep
  let baseImage := match server.baseImage with
    | some image => [("base_image_uri", .text image)]
    | none => []
  return .map <|
    ("name", .text server.name.text) :: baseImage ++
      [("steps", .list steps),
        ("application_services",
          .list (server.services.map fun service => .map service.fields))]

/-- The stored form of a blueprint. There is none when a step has bytes that spell no text. -/
def Blueprint.stored (blueprint : Blueprint) : Except Utf8Fault (List (String × Plain)) := do
  let instances ← blueprint.instances.mapM Instance.stored
  return [("name", .text blueprint.name.text), ("instances", .list instances),
    ("keep_credentials_for", .list (blueprint.keepCredentialsFor.map Plain.text))]

end FixtureImages
