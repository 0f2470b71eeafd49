import FixtureImages.Proofs.Daemon.Faults
import FixtureImages.Proofs.Daemon.Identifiers
import Mathlib.Data.List.Nodup

/-!
# Sound hosts

A host as a daemon keeps it: resources of one kind have distinct identifiers, new identifiers are
counted, and listings show only what their filters ask for. Every change that a call makes keeps a
host sound.
-/

namespace FixtureImages

set_option autoImplicit false

open Action

/-- Items with distinct identifiers, of which none is still to be counted out. No listing shows
them unasked. -/
structure Numbered {α : Type} (idOf : α → String) (always : α → Bool) (counted : Nat → String)
    (next : Nat) (items : List α) : Prop where
  distinct : (items.map idOf).Nodup
  unused : ∀ item ∈ items, ∀ number, next ≤ number → idOf item ≠ counted number
  asked : ∀ item ∈ items, always item = false

namespace Numbered

variable {α : Type} {idOf : α → String} {always : α → Bool} {counted : Nat → String}
  {next later : Nat} {items : List α}

theorem later_of_le (numbered : Numbered idOf always counted next items) (le : next ≤ later) :
    Numbered idOf always counted later items where
  distinct := numbered.distinct
  unused item member number bound := numbered.unused item member number (Nat.le_trans le bound)
  asked := numbered.asked

theorem filter (numbered : Numbered idOf always counted next items) (keep : α → Bool) :
    Numbered idOf always counted next (items.filter keep) where
  distinct := numbered.distinct.sublist (List.filter_sublist.map idOf)
  unused item member := numbered.unused item (List.mem_filter.mp member).1
  asked item member := numbered.asked item (List.mem_filter.mp member).1

theorem map (numbered : Numbered idOf always counted next items) {update : α → α}
    (same : ∀ item, idOf (update item) = idOf item ∧ always (update item) = always item) :
    Numbered idOf always counted next (items.map update) := by
  constructor
  · rw [List.map_map]
    have ids : idOf ∘ update = idOf := funext fun item => (same item).1
    rw [ids]
    exact numbered.distinct
  · intro item member
    obtain ⟨original, there, rfl⟩ := List.mem_map.mp member
    rw [(same original).1]
    exact numbered.unused original there
  · intro item member
    obtain ⟨original, there, rfl⟩ := List.mem_map.mp member
    rw [(same original).2]
    exact numbered.asked original there

theorem place (numbered : Numbered idOf always counted next items) {item : α}
    (id : idOf item = counted next) : Host.placeBy idOf item items = items ++ [item] :=
  Host.place_by_fresh fun other member =>
    id ▸ numbered.unused other member next (Nat.le_refl _)

theorem subset_place (numbered : Numbered idOf always counted next items) {item : α}
    (id : idOf item = counted next) : items ⊆ Host.placeBy idOf item items := by
  rw [numbered.place id]
  exact List.subset_append_left _ _

theorem placed (numbered : Numbered idOf always counted next items)
    (injective : ∀ {first second}, counted first = counted second → first = second) {item : α}
    (id : idOf item = counted next) (asked : always item = false) :
    Numbered idOf always counted (next + 1) (Host.placeBy idOf item items) := by
  rw [numbered.place id]
  constructor
  · rw [List.map_append, List.nodup_append]
    refine ⟨numbered.distinct, by simp, ?_⟩
    intro other there own member
    obtain ⟨old, before, rfl⟩ := List.mem_map.mp there
    have same : own = counted next := by simpa [id] using member
    rw [same]
    exact numbered.unused old before next (Nat.le_refl _)
  · intro other member number bound same
    rcases List.mem_append.mp member with old | new
    · exact numbered.unused other old number (Nat.le_of_succ_le bound) same
    · rw [List.mem_singleton.mp new, id] at same
      have := injective same
      omega
  · intro other member
    rcases List.mem_append.mp member with old | new
    · exact numbered.asked other old
    · rw [List.mem_singleton.mp new]
      exact asked

theorem eq_of_id (numbered : Numbered idOf always counted next items) {first second : α}
    (there : first ∈ items) (here : second ∈ items) (same : idOf first = idOf second) :
    first = second :=
  List.inj_on_of_nodup_map numbered.distinct there here same

end Numbered

/-- All failures that calls and requests can meet are possible ones. -/
structure FailsOnly (possible : Failure → Prop) (rules : List FaultRule)
    (answers : List HttpAnswer) : Prop where
  calls : ∀ rule ∈ rules, possible rule.failure
  requests : ∀ answer ∈ answers, ∀ failure, answer.status = .error failure → possible failure

/-- Identifiers are distinct and counted, no container has the empty one, listings show only what
their filters ask for, and only possible failures are to come. -/
structure Host.Sound (possible : Failure → Prop) (host : Host) : Prop where
  counts : host.settings.nextImageId = none
  networks : Numbered Network.id Network.always networkId host.nextId host.networks
  images : Numbered Image.id Image.always imageId host.nextId host.images
  containers : Numbered Container.id Container.always containerId host.nextId host.containers
  named : ∀ container ∈ host.containers, container.id ≠ ""
  failures : FailsOnly possible host.faults (host.settings.usualAnswer :: host.answers)

namespace Host.Sound

variable {possible : Failure → Prop} {host : Host} (sound : host.Sound possible)

include sound

theorem fresh_images : FreshImageIds host := ⟨sound.counts, sound.images.unused⟩

theorem meet (call : Call) :
    Sound possible { host with faults := (meetFaults call host.faults).1 } :=
  { sound with
    failures := ⟨(meet_faults_all call sound.failures.calls).1, sound.failures.requests⟩ }

theorem pass (cost : Nat) : Sound possible { host with clock := host.clock + cost } :=
  { sound with }

theorem answer : host.nextAnswer.2.Sound possible := by
  rw [nextAnswer]
  split
  · exact sound
  · rename_i answer rest given
    refine { sound with failures := ⟨sound.failures.calls, ?_⟩ }
    intro other member
    refine sound.failures.requests other ?_
    rcases List.mem_cons.mp member with rfl | later
    · exact List.mem_cons_self
    · exact List.mem_cons_of_mem _ (given ▸ List.mem_cons_of_mem _ later)

theorem add_network (name : String) (labels : Option Labels) :
    (host.addNetwork name labels none false).2.Sound possible :=
  { sound with
    networks := sound.networks.placed counted_id_injective rfl rfl
    images := sound.images.later_of_le (Nat.le_succ _)
    containers := sound.containers.later_of_le (Nat.le_succ _) }

theorem drop_network (id : String) : (host.dropNetwork id).Sound possible :=
  { sound with networks := sound.networks.filter _ }

theorem drop_image (id : String) : (host.dropImage id).Sound possible :=
  { sound with images := sound.images.filter _ }

theorem add_image (tags : Option (List String)) (labels : Option Labels) (visibleAt : Nat) :
    (host.addImage tags labels none visibleAt false).2.Sound possible :=
  { sound with
    networks := sound.networks.later_of_le (Nat.le_succ _)
    images := sound.images.placed image_id_injective rfl rfl
    containers := sound.containers.later_of_le (Nat.le_succ _) }

theorem commit (container : Container) (request : CommitRequest) :
    (host.commitContainer container request).2.Sound possible := by
  rw [commitContainer, sound.counts]
  exact { sound.add_image _ _ _ with counts := rfl }

theorem add_container {build : String → Host → Container}
    (id : (build (containerId host.nextId) host).id = containerId host.nextId)
    (asked : (build (containerId host.nextId) host).always = false) :
    (host.addContainer none build).2.Sound possible := by
  refine
    { sound with
      networks := sound.networks.later_of_le (Nat.le_succ _)
      images := sound.images.later_of_le (Nat.le_succ _)
      containers := sound.containers.placed counted_id_injective id asked
      named := ?_ }
  intro container member
  rw [addContainer, sound.containers.place id] at member
  rcases List.mem_append.mp member with old | new
  · exact sound.named container old
  · rw [List.mem_singleton.mp new, id]
    exact container_id_ne_empty _

theorem drop_container (id : String) : (host.dropContainer id).Sound possible :=
  { sound with
    containers := sound.containers.filter _
    named := fun container member => sound.named container (List.mem_filter.mp member).1 }

theorem update_container (id : String) {update : Container → Container}
    (same : ∀ container, (update container).id = container.id ∧
      (update container).always = container.always) :
    (host.updateContainer id update).Sound possible := by
  have unchanged (container : Container) :
      (if container.id = id then update container else container).id = container.id ∧
        (if container.id = id then update container else container).always =
          container.always := by
    split
    · exact same container
    · exact ⟨rfl, rfl⟩
  refine { sound with containers := sound.containers.map unchanged, named := ?_ }
  intro container member
  obtain ⟨original, there, rfl⟩ := List.mem_map.mp member
  rw [(unchanged original).1]
  exact sound.named original there

theorem start_container (id : String) : (host.startContainer id).Sound possible := by
  have updated (published : List (Value × Value)) :
      (host.updateContainer id fun container =>
        { container with running := true, published }).Sound possible :=
    sound.update_container id fun _ => ⟨rfl, rfl⟩
  rw [startContainer]
  split
  · exact sound
  · exact { updated _ with }

end Host.Sound

end FixtureImages
