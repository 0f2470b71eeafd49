import FixtureImages.Catalog

/-!
# Cleaning a namespace

Everything that a namespace owns is removed in three passes: its containers, its networks, and its
images except foreign ones and those of blueprints that are to be kept. A pass that fails is logged,
and the next one still runs.
-/

namespace FixtureImages.Cleanup

set_option autoImplicit false

open FixtureImages.Action

variable {Problem : Type}

/-- What was removed, in order: containers and images by identifier, networks by name. -/
structure Removed where
  containers : List String
  networks : List String
  images : List String
deriving DecidableEq

def noteFailedList (kind scope : String) (failure : Failure) :
    HostAction Problem (List String) := do
  note .error .cleanup
    ("[Cleanup] Failed to list " ++ kind ++ " for " ++ scope ++ ": " ++ failure.message)
  return []

def removeContainers (scope : String) : HostAction Problem (List String) := do
  match ← attempt (Catalog.listContainers (.ofScope scope)) with
  | .error failure => noteFailedList "containers" scope failure
  | .ok containers =>
      Catalog.removeAll Container.id (fun container => Catalog.removeContainer container.id scope)
        containers

def removeNetworks (scope : String) : HostAction Problem (List String) := do
  match ← attempt (Catalog.listNetworks (.ofScope scope)) with
  | .error failure => noteFailedList "networks" scope failure
  | .ok networks =>
      Catalog.removeAll Network.name (fun network => Catalog.removeNetwork network.id network.name)
        networks

/-- The blueprint that an image was made from, or the empty text. -/
def blueprintOf (image : Image) : String := (image.labels.getD ∅).getD blueprintLabel ""

def tagsText (image : Image) : String :=
  match image.tags with
  | none => Value.null.inspect
  | some tags => (Value.list (tags.map Value.text)).inspect

/-- Remove an image unless it is foreign or kept. -/
def removeUnlessKept (keep : List String) (image : Image) : HostAction Problem Bool := do
  if !isLocalImage image.tags then
    note .debug .cleanup ("[Cleanup] Not cleaning up image with tags: " ++ tagsText image)
    return false
  if keep.contains (blueprintOf image) then
    note .debug .cleanup
      ("[Cleanup] Keeping image created from blueprint " ++ blueprintOf image)
    return false
  Catalog.removeImage image.id

def removeImages (scope : String) (keep : List String) : HostAction Problem (List String) := do
  match ← attempt (Catalog.listImages (.ofScope scope)) with
  | .error failure => noteFailedList "images" scope failure
  | .ok images => Catalog.removeAll Image.id (removeUnlessKept keep) images

/-- Clean a namespace but for the images of some blueprints. -/
def run (scope : String) (keep : List String) : HostAction Problem Removed := do
  let containers ← removeContainers scope
  let networks ← removeNetworks scope
  let images ← removeImages scope keep
  note .info .cleanup
    ("[Cleanup] " ++ scope ++ ": removed " ++ toString containers.length ++ " containers, " ++
      toString networks.length ++ " networks, " ++ toString images.length ++ " images")
  return ⟨containers, networks, images⟩

end FixtureImages.Cleanup
