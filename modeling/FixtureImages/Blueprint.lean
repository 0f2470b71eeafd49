import FixtureImages.Name
import FixtureImages.Table
import FixtureImages.Value

/-!
# Blueprints

A blueprint is a named set of server instances that are set up once and kept as images. It has at
least one instance, and its instances have distinct names.
-/

namespace FixtureImages

set_option autoImplicit false

/-- A service that is registered with an instance. -/
structure ApplicationService where
  id : String
  serverToken : String
  serviceToken : String
  url : String
  sender : String
  rateLimited : Bool
  sendEphemeral : Bool
  enableEncryption : Bool
deriving DecidableEq

/-- One step of the set-up of an instance, which is handed on as it is. -/
abbrev SetupStep := Table Value

/-- One server of a blueprint. Its own base image, if any, goes before the configured ones. -/
structure Instance where
  name : Name
  baseImage : Option String
  steps : List SetupStep
  services : List ApplicationService
deriving DecidableEq

def instanceNames (instances : List Instance) : List String :=
  instances.map fun server => server.name.text

/-- Credentials are kept for the listed identities, or for all when none is listed. -/
structure Blueprint where
  name : Name
  instances : List Instance
  keepCredentialsFor : List String
  nonempty : instances ≠ []
  distinct : (instanceNames instances).Nodup
deriving DecidableEq

/-- The first name that also stands earlier in the list, after the names `seen`. -/
def repeatedName? (seen : List String) : List String → Option String
  | [] => none
  | name :: rest => if seen.contains name then some name else repeatedName? (name :: seen) rest

theorem nodup_of_repeatedName?_eq_none (seen names : List String)
    (fresh : repeatedName? seen names = none) : names.Nodup ∧ ∀ name ∈ names, name ∉ seen := by
  induction names generalizing seen with
  | nil => simp
  | cons name rest induction =>
      have known : name ∉ seen := by
        intro known
        simp [repeatedName?, known] at fresh
      simp only [repeatedName?, List.contains_eq_mem, known, decide_false, Bool.false_eq_true,
        if_false] at fresh
      obtain ⟨nodup, apart⟩ := induction _ fresh
      grind

/-- Why instances do not make a blueprint. -/
inductive BlueprintFault
  | noInstances (blueprint : String)
  | duplicate (blueprint instanceName : String)
deriving DecidableEq

def BlueprintFault.message : BlueprintFault → String
  | .noInstances blueprint => "blueprint '" ++ blueprint ++ "' has no instances"
  | .duplicate blueprint instanceName =>
      "blueprint '" ++ blueprint ++ "' has duplicate instance '" ++ instanceName ++ "'"

def Blueprint.of (name : Name) (instances : List Instance) (keepCredentialsFor : List String) :
    Except BlueprintFault Blueprint :=
  if nonempty : instances = [] then .error (.noInstances name.text)
  else
    match fresh : repeatedName? [] (instanceNames instances) with
    | some instanceName => .error (.duplicate name.text instanceName)
    | none =>
        .ok
          { name, instances, keepCredentialsFor, nonempty
            distinct := (nodup_of_repeatedName?_eq_none [] _ fresh).1 }

end FixtureImages
