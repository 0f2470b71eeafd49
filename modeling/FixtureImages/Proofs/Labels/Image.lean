import FixtureImages.Commit
import FixtureImages.Proofs.Action.Law
import FixtureImages.Proofs.Labels.Directive
import FixtureImages.Proofs.Labels.Query
import FixtureImages.Proofs.Labels.Table

/-!
# Labels of committed images

The labels that say whom an image belongs to survive what was captured, since captured state has
stems of its own, and survive the commit, since directives go over the labels of the container. So a
committed image is found by the query of its instance, and by that of its blueprint.
-/

namespace FixtureImages

set_option autoImplicit false

open Action

namespace Query

/-- The images of one instance of a blueprint. -/
def ofInstance (scope blueprint server : String) : Query :=
  ⟨some scope, some blueprint, some server, true⟩

theorem labels_of_instance (scope blueprint server : String) :
    (ofInstance scope blueprint server).labels =
      (ofBlueprint scope blueprint).labels.insert instanceLabel server := rfl

theorem blueprint_query_asks_no_instance (scope blueprint : String) :
    (ofBlueprint scope blueprint).labels.get? instanceLabel = none := by
  obtain ⟨-, -, -, server⟩ := (ofBlueprint scope blueprint).labels_get?
  exact server

/-- What is found for an instance is found for its blueprint. -/
theorem accepts_blueprint_of_instance {scope blueprint server : String} {labels : Option Labels}
    (accepted : (ofInstance scope blueprint server).accepts labels = true) :
    (ofBlueprint scope blueprint).accepts labels = true := by
  rw [accepts_iff] at accepted ⊢
  intro key value asked
  have apart : key ≠ instanceLabel := by
    rintro rfl
    rw [blueprint_query_asks_no_instance] at asked
    cases asked
  refine accepted key value ?_
  rwa [labels_of_instance, Table.get?_insert, if_neg apart]

end Query

/-- The labels of an instance's resource answer all that queries ask for. -/
theorem resource_labels_ask_all (scope blueprint server : String) :
    ∀ key ∈ Query.askedKeys,
      ((resourceLabels scope (some blueprint) (some server)).get? key).isSome = true := by
  intro key asked
  simp only [Query.askedKeys, List.mem_cons, List.not_mem_nil, or_false] at asked
  rcases asked with rfl | rfl | rfl | rfl <;> rfl

/-- Labels agree on whom a resource belongs to. -/
def SameOwner (labels owned : Labels) : Prop :=
  ∀ key ∈ Query.askedKeys, labels.get? key = owned.get? key

theorem resource_labels_accepted {labels : Labels} {scope blueprint server : String}
    (same : SameOwner labels (resourceLabels scope (some blueprint) (some server))) :
    (Query.ofInstance scope blueprint server).accepts (some labels) = true := by
  rw [Query.accepts_iff]
  intro key value asked
  have named : key ∈ Query.askedKeys :=
    Query.labels_keys _ key (List.mem_map_of_mem (Table.mem_of_get? asked))
  have apart : ∀ name ∈ Query.askedKeys, name ≠ contextLabel := by decide
  have own : resourceLabels scope (some blueprint) (some server) =
      (Query.ofInstance scope blueprint server).labels.insert contextLabel
        (contextOf scope blueprint server) := rfl
  rw [Option.getD_some, same key named, own, Table.get?_insert, if_neg (apart key named)]
  exact asked

/-! ## Captured state -/

/-- Labels carry the whole of others. -/
def Carries (labels owned : Labels) : Prop :=
  ∀ key value, owned.get? key = some value → labels.get? key = some value

/-- Whether a name begins as those of ownership do. No stem of captured state does. -/
def isOwnName (name : String) : Bool := name.toList.take 2 == ['c', 'o']

theorem resource_labels_own {scope blueprint server key value : String}
    (held : (resourceLabels scope (some blueprint) (some server)).get? key = some value) :
    isOwnName key = true := by
  have own : resourceLabels scope (some blueprint) (some server) =
      (Query.ofInstance scope blueprint server).labels.insert contextLabel
        (contextOf scope blueprint server) := rfl
  rw [own, Table.get?_insert] at held
  split at held
  · subst key
    decide
  · have asked : key ∈ Query.askedKeys :=
      Query.labels_keys _ key (List.mem_map_of_mem (Table.mem_of_get? held))
    have named : ∀ name ∈ Query.askedKeys, isOwnName name = true := by decide
    exact named key asked

/-- Every name of a table begins with a stem. -/
def Table.Under {α : Type} (stem : String) (table : Table α) : Prop :=
  ∀ name ∈ table.keys, ∃ key, name = stem ++ key

theorem credential_labels_under (credentials : Labels) (keepFor : List String) :
    (credentialLabels credentials keepFor).Under credentialStem :=
  fun _ => Table.mem_keys_addStem

theorem device_labels_under (devices : Labels) : (deviceLabels devices).Under deviceStem :=
  fun _ => Table.mem_keys_addStem

theorem service_labels_under (services : List ApplicationService) :
    (serviceLabels services).Under serviceStem := by
  intro name written
  obtain ⟨pair, member, rfl⟩ := List.mem_map.mp (Table.mem_keys_ofList written)
  obtain ⟨service, _, rfl⟩ := List.mem_map.mp member
  exact ⟨service.id, rfl⟩

private theorem stem_apart {captured : Labels} {stem name : String}
    (foreign : isOwnName stem = false) (long : 2 ≤ stem.toList.length)
    (under : captured.Under stem) (own : isOwnName name = true) : captured.get? name = none := by
  apply Table.get?_eq_none
  intro written
  obtain ⟨key, rfl⟩ := under name written
  have start : isOwnName (stem ++ key) = isOwnName stem := by
    rw [isOwnName, isOwnName, String.toList_append, List.take_append_of_le_length long]
  rw [start, foreign] at own
  cases own

section

variable {name : String} (own : isOwnName name = true)

include own

theorem credential_labels_apart (credentials : Labels) (keepFor : List String) :
    (credentialLabels credentials keepFor).get? name = none :=
  stem_apart (by decide) (by decide) (credential_labels_under _ _) own

theorem device_labels_apart (devices : Labels) : (deviceLabels devices).get? name = none :=
  stem_apart (by decide) (by decide) (device_labels_under _) own

theorem service_labels_apart (services : List ApplicationService) :
    (serviceLabels services).get? name = none :=
  stem_apart (by decide) (by decide) (service_labels_under _) own

end

/-- Labels of ownership stay as they are under captured state. -/
theorem captured_over_owned (scope blueprint server : String) (credentials devices : Labels)
    (keepFor : List String) (services : List ApplicationService) :
    Carries ((((resourceLabels scope (some blueprint) (some server)).overlay
        (credentialLabels credentials keepFor)).overlay (deviceLabels devices)).overlay
          (serviceLabels services))
      (resourceLabels scope (some blueprint) (some server)) := by
  intro key value held
  have own := resource_labels_own held
  simp only [Table.get?_overlay, service_labels_apart own, device_labels_apart own,
    credential_labels_apart own, Option.none_or]
  exact held

/-- Whatever is captured, the labels of an image carry those of its ownership. -/
theorem image_labels_carry (construction : Construction) (blueprint : Blueprint)
    (runner : Runner) :
    Gives (Carries · (resourceLabels construction.scope (some blueprint.name.text)
        (some construction.server.name.text)))
      (imageLabels construction blueprint runner) := by
  apply gives_bind
  intro credentials
  apply gives_bind
  intro devices
  apply gives_pure
  exact captured_over_owned _ _ _ _ _ _ _

/-- Whatever is captured, the labels of an image say whom it belongs to. -/
theorem image_labels_same_owner (construction : Construction) (blueprint : Blueprint)
    (runner : Runner) :
    Gives (SameOwner · (resourceLabels construction.scope (some blueprint.name.text)
        (some construction.server.name.text)))
      (imageLabels construction blueprint runner) := by
  intro host labels given key asked
  have carries := image_labels_carry construction blueprint runner host labels given
  cases held : (resourceLabels construction.scope (some blueprint.name.text)
      (some construction.server.name.text)).get? key with
  | some value => exact carries key value held
  | none =>
      have written := resource_labels_ask_all construction.scope blueprint.name.text
        construction.server.name.text key asked
      rw [held] at written
      cases written

/-- An image that is committed with directives has their labels, over those of its container. -/
theorem committed_labels_eq (container : Option Labels) (labels : Labels) :
    Host.committedLabels container (Directive.ofLabels labels) =
      (container.getD ∅).overlay labels := by
  rw [Host.committedLabels, Directive.read_of_labels]
  rfl

/-- A committed image is found by the query of its instance, whatever its container carried. -/
theorem committed_labels_accepted {labels : Labels} {scope blueprint server : String}
    (container : Option Labels)
    (same : SameOwner labels (resourceLabels scope (some blueprint) (some server))) :
    (Query.ofInstance scope blueprint server).accepts
      (some (Host.committedLabels container (Directive.ofLabels labels))) = true := by
  have accepted := resource_labels_accepted same
  rw [Query.accepts_iff] at accepted ⊢
  intro key value asked
  have written : labels.get? key = some value := accepted key value asked
  rw [committed_labels_eq, Option.getD_some, Table.get?_overlay, written, Option.some_or]

end FixtureImages
