import FixtureImages.Proofs.Labels.Image

/-!
# Captured state on labels

Credentials, devices and services are written under three stems, none of which begins another or a
name of ownership. So whatever the identities and secrets are, each of them is read back from the
labels of an image as it was written, whether these lie over labels without captured state or under
them.
-/

namespace FixtureImages

set_option autoImplicit false

/-- The stems under which captured state is written. -/
def capturedStems : List String := [credentialStem, deviceStem, serviceStem]

/-- Labels that tell of no captured state. -/
def Uncaptured (labels : Labels) : Prop :=
  ∀ stem ∈ capturedStems, ∀ key, labels.get? (stem ++ key) = none

/-- The first letters tell the stems apart. -/
theorem stems_apart {stem other key name : String} (captured : stem ∈ capturedStems)
    (foreign : other ∈ capturedStems) (same : stem ++ key = other ++ name) : stem = other := by
  have heads : ∀ stem ∈ capturedStems, ∀ other ∈ capturedStems,
      stem.toList.head? = other.toList.head? → stem = other := by decide
  have filled : ∀ stem ∈ capturedStems, stem.toList ≠ [] := by decide
  apply heads stem captured other foreign
  rw [← List.head?_append_of_ne_nil _ (filled stem captured),
    ← List.head?_append_of_ne_nil _ (filled other foreign), ← String.toList_append,
    ← String.toList_append, same]

theorem get?_of_other_stem {labels : Labels} {stem other : String} (captured : stem ∈ capturedStems)
    (foreign : other ∈ capturedStems) (apart : stem ≠ other) (under : labels.Under other)
    (key : String) : labels.get? (stem ++ key) = none := by
  refine Table.get?_eq_none fun written => ?_
  obtain ⟨name, same⟩ := under _ written
  exact apart (stems_apart captured foreign same)

theorem resource_labels_uncaptured (scope blueprint server : String) :
    Uncaptured (resourceLabels scope (some blueprint) (some server)) := by
  intro stem captured key
  cases held : (resourceLabels scope (some blueprint) (some server)).get? (stem ++ key) with
  | none => rfl
  | some value =>
      have own := resource_labels_own held
      have foreign : ∀ stem ∈ capturedStems,
          isOwnName stem = false ∧ 2 ≤ stem.toList.length := by decide
      obtain ⟨other, long⟩ := foreign stem captured
      rw [isOwnName, String.toList_append, List.take_append_of_le_length long] at own
      exact absurd (other.symm.trans own) (by decide)

theorem kept_credentials (credentials : Labels) (keepFor : List String) (key : String) :
    (keptCredentials credentials keepFor).get? key =
      if keepFor = [] ∨ key ∈ keepFor then credentials.get? key else none := by
  rw [keptCredentials]
  cases keepFor with
  | nil => simp
  | cons first rest => simp [Table.get?_select]

theorem service_label_iff (services : List ApplicationService) (id : String) :
    ((serviceLabels services).get? (serviceStem ++ id)).isSome = true ↔
      ∃ service ∈ services, service.id = id := by
  rw [Table.get?_isSome_iff, serviceLabels, Table.mem_keys_ofList_iff]
  simp [← String.toList_inj]

/-! ## The labels of an image -/

/-- The labels of the image of an instance, with what was captured for it. -/
def collectedLabels (construction : Construction) (blueprint : Blueprint)
    (credentials devices : Labels) : Labels :=
  (((resourceLabels construction.scope (some blueprint.name.text)
    (some construction.server.name.text)).overlay
      (credentialLabels credentials blueprint.keepCredentialsFor)).overlay
        (deviceLabels devices)).overlay (serviceLabels construction.server.services)

section

variable (construction : Construction) (blueprint : Blueprint) (credentials devices : Labels)
  (key : String)

/-- Under the stems, nothing comes from the labels of ownership. -/
theorem collected_captured {stem : String} (captured : stem ∈ capturedStems) :
    (collectedLabels construction blueprint credentials devices).get? (stem ++ key) =
      ((serviceLabels construction.server.services).get? (stem ++ key)).or
        (((deviceLabels devices).get? (stem ++ key)).or
          ((credentialLabels credentials blueprint.keepCredentialsFor).get? (stem ++ key))) := by
  rw [collectedLabels, Table.get?_overlay, Table.get?_overlay, Table.get?_overlay,
    resource_labels_uncaptured _ _ _ stem captured, Option.or_none]

theorem collected_credentials :
    (collectedLabels construction blueprint credentials devices).get? (credentialStem ++ key) =
      (keptCredentials credentials blueprint.keepCredentialsFor).get? key := by
  have captured : credentialStem ∈ capturedStems := by decide
  rw [collected_captured _ _ _ _ _ captured,
    get?_of_other_stem captured (by decide) (by decide) (service_labels_under _),
    get?_of_other_stem captured (by decide) (by decide) (device_labels_under _), Option.none_or,
    Option.none_or, credentialLabels, Table.get?_addStem]

theorem collected_devices :
    (collectedLabels construction blueprint credentials devices).get? (deviceStem ++ key) =
      devices.get? key := by
  have captured : deviceStem ∈ capturedStems := by decide
  rw [collected_captured _ _ _ _ _ captured,
    get?_of_other_stem captured (by decide) (by decide) (service_labels_under _),
    get?_of_other_stem captured (by decide) (by decide) (credential_labels_under _ _),
    Option.none_or, Option.or_none, deviceLabels, Table.get?_addStem]

theorem collected_services :
    (collectedLabels construction blueprint credentials devices).get? (serviceStem ++ key) =
      (serviceLabels construction.server.services).get? (serviceStem ++ key) := by
  have captured : serviceStem ∈ capturedStems := by decide
  rw [collected_captured _ _ _ _ _ captured,
    get?_of_other_stem captured (by decide) (by decide) (device_labels_under _),
    get?_of_other_stem captured (by decide) (by decide) (credential_labels_under _ _),
    Option.or_none, Option.or_none]

end

end FixtureImages
