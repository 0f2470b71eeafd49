import FixtureImages.Blueprint
import FixtureImages.Validation.Collection

/-!
# Blueprints from untyped data

Which data makes a service, an instance or a blueprint, and which fields it may leave out. The rules
about the instances as a whole are checked only when every field is in order.
-/

namespace FixtureImages

set_option autoImplicit false

open Checked

def Checked.name (what : String) (value : Value) : Checked Name := do
  let text ← Checked.text value
  match Name.of what (some text) with
  | .ok name => return name
  | .error invalid => complain (.custom invalid.message)

def ApplicationService.ofValue (value : Value) : Checked ApplicationService := do
  let fields ← model "ApplicationService" value
  Except.ok ApplicationService.mk
    |> (apply · (required fields "id" Checked.text))
    |> (apply · (required fields "hs_token" Checked.text))
    |> (apply · (required fields "as_token" Checked.text))
    |> (apply · (optional fields "url" "" Checked.text))
    |> (apply · (required fields "sender_localpart" Checked.text))
    |> (apply · (optional fields "rate_limited" false truth))
    |> (apply · (optional fields "send_ephemeral" false truth))
    |> (apply · (optional fields "enable_encryption" false truth))

def Instance.ofValue (value : Value) : Checked Instance := do
  let fields ← model "Instance" value
  Except.ok Instance.mk
    |> (apply · (required fields "name" (Checked.name "instance")))
    |> (apply · (optional fields "base_image_uri" none (orNull Checked.text)))
    |> (apply · (optional fields "steps" [] (tuple (table .ok))))
    |> (apply · (optional fields "application_services" [] (tuple ApplicationService.ofValue)))

def Blueprint.ofValue (value : Value) : Checked Blueprint := do
  let fields ← model "Blueprint" value
  let build ←
    Except.ok Blueprint.of
      |> (apply · (required fields "name" (Checked.name "blueprint")))
      |> (apply · (required fields "instances" (tuple Instance.ofValue)))
      |> (apply · (optional fields "keep_credentials_for" [] (tuple Checked.text)))
  match build with
  | .ok blueprint => return blueprint
  | .error fault => complain (.custom fault.message)

end FixtureImages
