import FixtureImages.Blueprint.Dump
import FixtureImages.Blueprint.Validation
import FixtureImages.Config

/-!
# Configurations from untyped data

Every setting may be left out.
-/

namespace FixtureImages

set_option autoImplicit false

open Checked

def Config.ofValue (value : Value) : Checked Config := do
  let fields ← model "BuilderConfig" value
  Except.ok Config.mk
    |> (apply · (optional fields "namespace" usual.scope (Checked.name "namespace")))
    |> (apply · (optional fields "base_image_uri" usual.baseImage Checked.text))
    |> (apply · (optional fields "base_image_uris" usual.baseImages (table Checked.text)))
    |> (apply · (optional fields "keep_blueprints" usual.keepBlueprints (list Checked.text)))
    |> (apply · (optional fields "debug" usual.debug truth))
    |> (apply · (optional fields "host_bind_ip" usual.bindAddress Checked.text))
    |> (apply · (optional fields "spawn_timeout" usual.spawnTimeout real))
    |> (apply · (optional fields "env_propagate_prefix" usual.sharedStem Checked.text))
    |> (apply · (optional fields "client_port" usual.clientPort Checked.integer))
    |> (apply · (optional fields "federation_port" usual.federationPort Checked.integer))
    |> (apply · (optional fields "readiness_path" usual.readinessPath Checked.text))

def Config.value (config : Config) : Value :=
  .record
    [("namespace", .text config.scope.text), ("base_image_uri", .text config.baseImage),
      ("base_image_uris",
        .record (config.baseImages.entries.map fun entry => (entry.1, .text entry.2))),
      ("keep_blueprints", .list (config.keepBlueprints.map Value.text)),
      ("debug", .bool config.debug), ("host_bind_ip", .text config.bindAddress),
      ("spawn_timeout", .real config.spawnTimeout),
      ("env_propagate_prefix", .text config.sharedStem), ("client_port", .int config.clientPort),
      ("federation_port", .int config.federationPort),
      ("readiness_path", .text config.readinessPath)]

end FixtureImages
