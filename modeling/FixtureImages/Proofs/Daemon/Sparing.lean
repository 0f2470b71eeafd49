import FixtureImages.Cleanup
import FixtureImages.Proofs.Daemon.Law
import FixtureImages.Proofs.Daemon.Sound
import FixtureImages.Proofs.Labels.Image

/-!
# Sparing what belongs to others

Between two hosts, resources that do not carry the marks of a namespace are spared when they are
still there as they were, and images are gone only if they may be. Calls that make something new
spare everything. A call that stops or removes something does so if what it is about belongs to the
namespace, as all does that a listing for the namespace shows.
-/

namespace FixtureImages

set_option autoImplicit false

open Action

variable {Problem : Type}

/-- Whether labels say that a resource is managed, and by this namespace. -/
def OwnedBy (scope : String) (labels : Option Labels) : Prop :=
  (labels.getD ∅).get? managedLabel = some managedMark ∧
    (labels.getD ∅).get? namespaceLabel = some scope

/-- Whatever else it asks, a query of a namespace accepts only what belongs to it. -/
theorem Query.owned_of_accepts {scope : String} {blueprint : Option String}
    {labels : Option Labels} (accepted : accepts ⟨some scope, blueprint, none, true⟩ labels) :
    OwnedBy scope labels := by
  have apart : namespaceLabel ≠ blueprintLabel ∧ managedLabel ≠ blueprintLabel ∧
      managedLabel ≠ namespaceLabel := by decide
  rw [accepts_iff] at accepted
  constructor <;> apply accepted <;> cases blueprint <;>
    simp [Query.labels, writeSome, Table.get?_insert, apart]

/-- The query of a blueprint asks for the marks of the namespace and for the name of the blueprint.
-/
theorem Query.accepts_blueprint_iff {scope blueprint : String} {labels : Option Labels} :
    (ofBlueprint scope blueprint).accepts labels = true ↔
      OwnedBy scope labels ∧ (labels.getD ∅).get? blueprintLabel = some blueprint := by
  constructor
  · intro accepted
    refine ⟨owned_of_accepts accepted, accepts_iff.mp accepted _ _ ?_⟩
    simp [Query.labels, ofBlueprint, writeSome, Table.get?_insert]
  · rintro ⟨⟨managed, owned⟩, named⟩
    rw [accepts_iff]
    intro key value asked
    simp only [Query.labels, ofBlueprint, writeSome, Table.get?_insert, if_true] at asked
    split at asked
    · obtain rfl := Option.some.inj asked
      simp_all
    · split at asked
      · obtain rfl := Option.some.inj asked
        simp_all
      · split at asked
        · obtain rfl := Option.some.inj asked
          simp_all
        · cases asked

/-- An image that the cleaning of a namespace may remove: it belongs to the namespace, no tag lies
outside the local repository, and its blueprint is not to be kept. -/
structure Disposable (scope : String) (keep : List String) (image : Image) : Prop where
  owned : OwnedBy scope image.labels
  tagged : ∀ tag ∈ image.tags.getD [], isLocalTag tag = true
  unkept : Cleanup.blueprintOf image ∉ keep

/-- A tenant of a host: its namespace, the containers that its deployers made, and the failures that
it can meet. -/
structure Tenant where
  scope : String
  made : String → Prop
  possible : Failure → Prop

/-- A container belongs to a tenant by its labels, or because a deployer of the tenant made it. -/
def Tenant.Owns (tenant : Tenant) (container : Container) : Prop :=
  OwnedBy tenant.scope container.labels ∨ tenant.made container.id

/-- Between two hosts, what does not belong to a tenant is still there as it was, and images that
are gone were removable. -/
structure Spares (tenant : Tenant) (removable : Image → Prop) (before after : Host) : Prop where
  sound : after.Sound tenant.possible
  networks : ∀ network ∈ before.networks, ¬OwnedBy tenant.scope network.labels →
    network ∈ after.networks
  images : ∀ image ∈ before.images, image ∈ after.images ∨ removable image
  containers : ∀ container ∈ before.containers, ¬tenant.Owns container →
    ∃ same ∈ after.containers, same.id = container.id ∧ same.labels = container.labels ∧
      same.running = container.running

theorem Tenant.owns_of_same {tenant : Tenant} {container same : Container}
    (owns : tenant.Owns same) (id : same.id = container.id)
    (labels : same.labels = container.labels) : tenant.Owns container := by
  rw [Owns, ← id, ← labels]
  exact owns

/-- The frame of all changes to sound hosts that spare what belongs to others. -/
def sparing (tenant : Tenant) (removable : Image → Prop) : Frame Host where
  holds before after := before.Sound tenant.possible → Spares tenant removable before after
  refl _ sound :=
    ⟨sound, fun _ member _ => member, fun _ member => .inl member,
      fun container member _ => ⟨container, member, rfl, rfl, rfl⟩⟩
  trans {first second third} earlier later sound := by
    have left := earlier sound
    have right := later left.sound
    refine ⟨right.sound, ?_, ?_, ?_⟩
    · intro network member foreign
      exact right.networks network (left.networks network member foreign) foreign
    · intro image member
      rcases left.images image member with there | gone
      · exact right.images image there
      · exact .inr gone
    · intro container member foreign
      obtain ⟨between, there, id, labels, running⟩ := left.containers container member foreign
      obtain ⟨final, here, sameId, sameLabels, sameRunning⟩ :=
        right.containers between there fun owns => foreign (Tenant.owns_of_same owns id labels)
      exact ⟨final, here, sameId.trans id, sameLabels.trans labels, sameRunning.trans running⟩

section

variable {tenant : Tenant} {removable wider : Image → Prop} {origin before host after : Host}

theorem Spares.mono (spares : Spares tenant removable before after)
    (wide : ∀ image, removable image → wider image) : Spares tenant wider before after :=
  { spares with images := fun image member => (spares.images image member).imp_right (wide image) }

/-- Where nothing is lost, everything is spared. -/
theorem spares_of_subset (sound : after.Sound tenant.possible)
    (networks : before.networks ⊆ after.networks) (images : before.images ⊆ after.images)
    (containers : before.containers ⊆ after.containers) :
    Spares tenant removable before after where
  sound := sound
  networks _ member _ := networks member
  images _ member := .inl (images member)
  containers container member _ := ⟨container, containers member, rfl, rfl, rfl⟩

/-! ## Calls that make something new -/

theorem sparing_meets (call : Call) : (sparing tenant removable).Meets call :=
  fun _ sound =>
    spares_of_subset (sound.meet call) (List.Subset.refl _) (List.Subset.refl _)
      (List.Subset.refl _)

theorem create_network_spares (name driver : String) (labels : Labels) :
    (HostLaw.keeping (sparing tenant removable)).holds
      (Daemon.createNetwork name driver labels) := by
  refine Daemon.create_network_lawful (sparing_meets _) (HostLaw.keeping_take ?_)
  intro host sound
  exact spares_of_subset (sound.add_network name _) (sound.networks.subset_place rfl)
    (List.Subset.refl _) (List.Subset.refl _)

theorem create_container_spares (request : ContainerRequest) :
    (HostLaw.keeping (sparing tenant removable)).holds
      (Daemon.createContainer request) := by
  refine Daemon.create_container_lawful (sparing_meets _) (HostLaw.keeping_take ?_)
  intro host sound
  exact spares_of_subset (sound.add_container rfl rfl) (List.Subset.refl _) (List.Subset.refl _)
    (sound.containers.subset_place rfl)

theorem commit_spares (container : Container) (request : CommitRequest) :
    (HostLaw.keeping (sparing tenant removable)).holds
      (Daemon.commit container request) := by
  refine Daemon.commit_lawful (sparing_meets _) (HostLaw.keeping_take ?_)
  intro host sound
  have made := sound.commit container request
  rw [commit_container_fresh sound.fresh_images] at made ⊢
  exact spares_of_subset made (List.Subset.refl _) (List.subset_append_left _ _)
    (List.Subset.refl _)

theorem request_spares (url : String) (timeout : Binary64) :
    (HostLaw.keeping (sparing tenant removable)).holds (Daemon.request url timeout) := by
  refine Daemon.request_lawful (Frame.refl _) (HostLaw.keeping_take ?_) fun cost => ?_
  · intro host sound
    have answered := sound.answer
    rw [Host.nextAnswer] at answered ⊢
    split at answered <;>
      exact spares_of_subset answered (List.Subset.refl _) (List.Subset.refl _)
        (List.Subset.refl _)
  · intro host sound
    exact spares_of_subset (sound.pass cost) (List.Subset.refl _) (List.Subset.refl _)
      (List.Subset.refl _)

theorem sleep_spares (pause : Nat) :
    (HostLaw.keeping (sparing tenant removable)).holds
      (Daemon.sleep pause : HostAction Problem Unit) := by
  refine Daemon.sleep_lawful (Frame.refl _) (HostLaw.keeping_change ?_)
  intro host sound
  exact spares_of_subset (sound.pass pause) (List.Subset.refl _) (List.Subset.refl _)
    (List.Subset.refl _)

/-! ## Calls that stop or remove something -/

/-- The law that others are spared since an origin. -/
abbrev sparingSince (tenant : Tenant) (removable : Image → Prop) (origin : Host) : HostLaw :=
  .keeping ((sparing tenant removable).since origin)

/-- All containers with an identifier belong to the tenant. -/
def Host.OwnContainer (tenant : Tenant) (id : String) (host : Host) : Prop :=
  ∀ container ∈ host.containers, container.id = id → tenant.Owns container

/-- All networks with an identifier belong to the namespace. -/
def Host.OwnNetwork (scope id : String) (host : Host) : Prop :=
  ∀ network ∈ host.networks, network.id = id → OwnedBy scope network.labels

/-- All images with an identifier may be removed. -/
def Host.FreeImage (removable : Image → Prop) (id : String) (host : Host) : Prop :=
  ∀ image ∈ host.images, image.id = id → removable image

theorem since_meets (call : Call) :
    ((sparing tenant removable).since origin).Meets call :=
  fun host since => (sparing tenant removable).trans since (sparing_meets call host)

theorem since_lists_networks (filters : List String) :
    (sparingSince tenant removable origin).holds (Daemon.listNetworks filters) :=
  Daemon.list_networks_lawful (since_meets _)

theorem since_lists_images (filters : List String) :
    (sparingSince tenant removable origin).holds (Daemon.listImages filters) :=
  Daemon.list_images_lawful (since_meets _)

theorem since_lists_containers (all : Bool) (filters : List String) :
    (sparingSince tenant removable origin).holds (Daemon.listContainers all filters) :=
  Daemon.list_containers_lawful (since_meets _)

private theorem since_change {update : Host → Host}
    (spares : ∀ host, Spares tenant removable origin host →
      Spares tenant removable origin (update host)) :
    (sparingSince tenant removable origin).holds
      (change update : HostAction Problem Unit) :=
  fun host since sound => spares host (since sound)

theorem Spares.touch_container {id : String}
    (spares : Spares tenant removable origin host) (own : origin.OwnContainer tenant id)
    (sound : after.Sound tenant.possible) (networks : after.networks = host.networks)
    (images : after.images = host.images)
    (others : ∀ container ∈ host.containers, container.id ≠ id → container ∈ after.containers) :
    Spares tenant removable origin after where
  sound := sound
  networks := networks ▸ spares.networks
  images := images ▸ spares.images
  containers container member foreign := by
    obtain ⟨same, there, sameId, rest⟩ := spares.containers container member foreign
    have apart : same.id ≠ id := fun equal =>
      foreign (own container member (sameId.symm.trans equal))
    exact ⟨same, others same there apart, sameId, rest⟩

section

variable {container : Container} (own : origin.OwnContainer tenant container.id)

include own

private theorem update_container_spares {update : Container → Container}
    (same : ∀ container, (update container).id = container.id ∧
      (update container).always = container.always) :
    (sparingSince tenant removable origin).holds
      (change (Host.updateContainer container.id update) : HostAction Problem Unit) := by
  apply since_change
  intro host spares
  refine spares.touch_container own (spares.sound.update_container container.id same) rfl rfl ?_
  intro other member apart
  exact List.mem_map.mpr ⟨other, member, if_neg apart⟩

theorem halt_spares :
    (sparingSince tenant removable origin).holds (Daemon.halt container) :=
  update_container_spares own fun _ => ⟨rfl, rfl⟩

theorem inspect_spares :
    (sparingSince tenant removable origin).holds (Daemon.inspect container) :=
  Daemon.inspect_lawful (since_meets _) (update_container_spares own fun _ => ⟨rfl, rfl⟩)

theorem start_spares :
    (sparingSince tenant removable origin).holds (Daemon.start container) := by
  refine Daemon.start_lawful (since_meets _) (since_change ?_)
  intro host spares
  have started := spares.sound.start_container container.id
  refine spares.touch_container own started ?_ ?_ ?_
  · rw [Host.startContainer]
    split <;> rfl
  · rw [Host.startContainer]
    split <;> rfl
  · intro other member apart
    rw [Host.startContainer]
    split
    · exact member
    · exact List.mem_map.mpr ⟨other, member, if_neg apart⟩

theorem remove_container_spares (force : Bool) :
    (sparingSince tenant removable origin).holds
      (Daemon.removeContainer container force) := by
  refine Daemon.remove_container_lawful (since_meets _) (since_change ?_)
  intro host spares
  refine spares.touch_container own (spares.sound.drop_container container.id) rfl rfl ?_
  intro other member apart
  exact List.mem_filter.mpr ⟨member, bne_iff_ne.mpr apart⟩

end

theorem remove_network_spares {id name : String} (own : origin.OwnNetwork tenant.scope id) :
    (sparingSince tenant removable origin).holds (Daemon.removeNetwork id name) := by
  refine Daemon.remove_network_lawful (since_meets _) (since_change ?_)
  intro host spares
  refine { spares with sound := spares.sound.drop_network id, networks := ?_ }
  intro network member foreign
  have apart : network.id ≠ id := fun same => foreign (own network member same)
  exact List.mem_filter.mpr ⟨spares.networks network member foreign, bne_iff_ne.mpr apart⟩

theorem remove_image_spares {id : String} {force : Bool} (free : origin.FreeImage removable id) :
    (sparingSince tenant removable origin).holds (Daemon.removeImage id force) := by
  refine Daemon.remove_image_lawful (since_meets _) (since_change ?_)
  intro host spares
  refine { spares with sound := spares.sound.drop_image id, images := ?_ }
  intro image member
  by_cases same : image.id = id
  · exact .inr (free image member same)
  · refine (spares.images image member).imp_left fun there => ?_
    exact List.mem_filter.mpr ⟨there, bne_iff_ne.mpr same⟩

/-! ## What belongs to the namespace -/

/-- A container that was foreign at the origin is still there, so no identifier that is unused now
was that of a foreign one. -/
theorem Spares.own_of_absent {id : String} (spares : Spares tenant removable origin host)
    (absent : ∀ container ∈ host.containers, container.id ≠ id) :
    origin.OwnContainer tenant id := by
  intro container member same
  by_contra foreign
  obtain ⟨other, there, sameId, -⟩ := spares.containers container member foreign
  exact absent other there (sameId.trans same)

theorem Spares.own_of_shown {container : Container}
    (spares : Spares tenant removable origin host) (there : container ∈ host.containers)
    (owned : tenant.Owns container) : origin.OwnContainer tenant container.id := by
  intro original member same
  by_contra foreign
  obtain ⟨other, here, sameId, labels, -⟩ := spares.containers original member foreign
  obtain rfl := spares.sound.containers.eq_of_id here there (sameId.trans same)
  exact foreign (Tenant.owns_of_same owned sameId labels)

theorem Spares.own_network_of_shown {network : Network}
    (spares : Spares tenant removable origin host) (there : network ∈ host.networks)
    (owned : OwnedBy tenant.scope network.labels) : origin.OwnNetwork tenant.scope network.id := by
  intro original member same
  by_contra foreign
  have here := spares.networks original member foreign
  obtain rfl := spares.sound.networks.eq_of_id here there same
  exact foreign owned

theorem Spares.free_of_shown {image : Image}
    (spares : Spares tenant removable origin host) (there : image ∈ host.images)
    (free : removable image) : origin.FreeImage removable image.id := by
  intro original member same
  rcases spares.images original member with here | gone
  · obtain rfl := spares.sound.images.eq_of_id here there same
    exact free
  · exact gone

section

variable (sound : origin.Sound tenant.possible) (blueprint : Option String)

include sound

theorem list_containers_gives_own :
    Frame.GivesSince (sparing tenant removable) origin
      (fun found => ∀ container ∈ found, origin.OwnContainer tenant container.id)
      (Catalog.listContainers ⟨some tenant.scope, blueprint, none, true⟩) := by
  refine Frame.gives_since_of_reveals (reveals_bind fun _ => reveals_look)
    (since_lists_containers _ _) ?_
  intro host since container member
  have spares := since sound
  obtain ⟨there, shown⟩ := List.mem_filter.mp member
  simp only [spares.sound.containers.asked container there, Query.meets_filters_eq_accepts,
    Bool.true_or, Bool.true_and, Bool.false_or] at shown
  exact spares.own_of_shown there (.inl (Query.owned_of_accepts shown))

theorem list_networks_gives_own :
    Frame.GivesSince (sparing tenant removable) origin
      (fun found => ∀ network ∈ found, origin.OwnNetwork tenant.scope network.id)
      (Catalog.listNetworks ⟨some tenant.scope, blueprint, none, true⟩) := by
  refine Frame.gives_since_of_reveals (reveals_bind fun _ => reveals_look)
    (since_lists_networks _) ?_
  intro host since network member
  have spares := since sound
  obtain ⟨there, shown⟩ := List.mem_filter.mp member
  simp only [spares.sound.networks.asked network there, Query.meets_filters_eq_accepts,
    Bool.false_or] at shown
  exact spares.own_network_of_shown there (Query.owned_of_accepts shown)

theorem list_images_gives_owned :
    Frame.GivesSince (sparing tenant removable) origin
      (fun found => ∀ image ∈ found, OwnedBy tenant.scope image.labels ∧
        (removable image → origin.FreeImage removable image.id))
      (Catalog.listImages ⟨some tenant.scope, blueprint, none, true⟩) := by
  refine Frame.gives_since_of_reveals (reveals_bind fun _ => reveals_look)
    (since_lists_images _) ?_
  intro host since image member
  have spares := since sound
  obtain ⟨there, shown⟩ := List.mem_filter.mp member
  simp only [spares.sound.images.asked image there, Query.meets_filters_eq_accepts,
    Bool.false_or, Bool.and_eq_true] at shown
  exact ⟨Query.owned_of_accepts shown.2, spares.free_of_shown there⟩

end

end

end FixtureImages
