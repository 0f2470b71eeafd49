import FixtureImages.Proofs.Build.Cache
import FixtureImages.Proofs.Build.Reclaim
import FixtureImages.Proofs.Daemon.Sparing

/-!
# Builds and cleanings spare others

A build stops and removes the containers that its deployer hands over, and the networks of its
blueprint. A cleaning removes what is listed for its namespace. Neither does anything to what
belongs to others, as long as the deployer hands over only containers that were not there before;
a build removes no image, and a cleaning only those that it may.
-/

namespace FixtureImages

set_option autoImplicit false

open Action

variable {Problem : Type}

/-- A deployer tells only about containers that were made by it, now or before. -/
def HandsOverOwn (tenant : Tenant) (deployer : Deployer) : Prop :=
  ∀ request host, host.Sound tenant.possible → ∀ id, Reports id (deployer request host).result →
    tenant.made id ∨ ¬host.HasContainer id

section

variable {tenant : Tenant} {removable : Image → Prop} {origin : Host}

/-! ## Calls since an origin -/

theorem since_networks_provided (provided blueprint : String) :
    (sparingSince tenant removable origin).holds
      (Provision.ensureNetwork provided blueprint) :=
  ensure_network_lawful since_lists_networks
    (fun name driver labels => Frame.kept_since (create_network_spares name driver labels) origin)
    provided blueprint

theorem since_stopping {id : String} (own : origin.OwnContainer tenant id) :
    (sparingSince tenant removable origin).AdmitsStopping id where
  get := Daemon.get_container_lawful (since_meets _)
  stop _ same := Daemon.stop_lawful (since_meets _) (halt_spares (same ▸ own))

theorem since_reclaiming {id : String} (own : origin.OwnContainer tenant id) :
    (sparingSince tenant removable origin).AdmitsReclaimingOf id where
  get := Daemon.get_container_lawful (since_meets _)
  kill _ same := Daemon.kill_lawful (since_meets _) (halt_spares (same ▸ own))
  readLog _ := Daemon.read_log_lawful (since_meets _)
  remove _ same := remove_container_spares (same ▸ own) true

theorem since_waiting : (sparingSince tenant removable origin).AdmitsWaiting where
  list := since_lists_images
  sleep pause := Frame.kept_since (sleep_spares pause) origin

/-- What holds since every sound origin holds. -/
theorem spares_of_since {Failure α : Type} {action : HostAction Failure α}
    (spares : ∀ origin : Host, origin.Sound tenant.possible →
      (sparingSince tenant removable origin).holds action) :
    (HostLaw.keeping (sparing tenant removable)).holds action := by
  apply Frame.kept_of_since
  intro origin host since sound
  exact spares origin sound host since sound

theorem since_networks_removed (sound : origin.Sound tenant.possible) (blueprint : String) :
    (sparingSince tenant removable origin).holds
      (Provision.removeNetworks tenant.scope blueprint : HostAction Problem (List String)) := by
  refine HostLaw.since_attempt_bind (since_lists_networks _)
    (list_networks_gives_own sound (some blueprint)) ?_ ?_
  · intro failure
    exact Law.bind _ (HostLaw.note _ _ _ _) fun _ => Law.pure _ _
  · intro networks known
    exact Catalog.remove_all_lawful fun network member =>
      Catalog.remove_network_lawful (remove_network_spares (known network member))

/-! ## Instances -/

/-- The container of an instance belongs to the namespace or is new. -/
theorem construct_instance_gives_own {deployer : Deployer} {runner : Runner}
    (sound : origin.Sound tenant.possible) (own : HandsOverOwn tenant deployer) (server : Instance)
    (blueprint network : String) (config : Config) :
    Frame.GivesSince (sparing tenant removable) origin
      (fun construction => origin.OwnContainer tenant construction.container)
      (constructInstance server blueprint network config deployer runner :
        HostAction Problem Construction) := by
  intro host since construction given
  have spares := since sound
  by_cases named : construction.container = ""
  · intro container member same
    exact absurd (same.trans named) (sound.named container member)
  · obtain ⟨constructed, known, ends⟩ := @construct_instance_ends Problem server blueprint network
      config deployer runner host
    rw [known] at given
    cases given
    have reported : Reports construction.container
        (deployer (deployRequestFor server blueprint network config) host).result := by
      generalize deployer (deployRequestFor server blueprint network config) host = deployed
        at ends ⊢
      generalize Outcome.state _ = left at ends
      cases ends with
      | unconfigured failed none => exact absurd none named
      | undeployed ended failed told =>
          rw [ended]
          exact ⟨told.symm, named⟩
      | setUp ended told =>
          rw [ended]
          exact ⟨told.symm, named⟩
    rcases own _ host spares.sound construction.container reported with made | absent
    · intro container member same
      exact .inr (same ▸ made)
    · exact spares.own_of_absent fun container member same => absent ⟨container, member, same⟩

end

theorem Runner.Obeys.since {frame : Frame Host} {runner : Runner}
    (obeys : runner.Obeys (.keeping frame)) (origin : Host) :
    runner.Obeys (.keeping (frame.since origin)) :=
  ⟨fun server url => Frame.kept_since (obeys.run server url) origin,
    fun server => Frame.kept_since (obeys.credentials server) origin,
    fun server => Frame.kept_since (obeys.devices server) origin⟩

theorem Builder.CollaboratorsObey.since {frame : Frame Host} {builder : Builder}
    (obeys : builder.CollaboratorsObey (.keeping frame)) (origin : Host) :
    builder.CollaboratorsObey (.keeping (frame.since origin)) :=
  ⟨⟨fun blueprint => Frame.kept_since (obeys.make blueprint) origin,
      fun blueprint host runner made => (obeys.made blueprint host runner made).since origin⟩,
    fun request => Frame.kept_since (obeys.deploy request) origin⟩

namespace Builder

/-- All containers of the instances of a build belong to the tenant. -/
structure Progress.Own (tenant : Tenant) (origin : Host) (progress : Progress) : Prop where
  built : ∀ construction ∈ progress.built, origin.OwnContainer tenant construction.container
  stopped : ∀ construction failure, progress.ending = .stopped construction failure →
    origin.OwnContainer tenant construction.container

section

variable {tenant : Tenant} {origin : Host} {builder : Builder}
  (sound : origin.Sound tenant.possible) (own : HandsOverOwn tenant builder.deployer)
  (obeys : builder.CollaboratorsObey (sparingSince tenant (fun _ => False) origin))

include sound own obeys

theorem construct_until_failure_gives_own {runner : Runner}
    (runs : runner.Obeys (sparingSince tenant (fun _ => False) origin))
    (blueprint : Blueprint) (network : String) (servers : List Instance) :
    Frame.GivesSince (sparing tenant fun _ => False) origin (Progress.Own tenant origin)
      (constructUntilFailure builder blueprint network runner servers :
        HostAction Problem Progress) := by
  induction servers with
  | nil => exact Frame.gives_since_of_gives (gives_pure ⟨by simp, nofun⟩)
  | cons server rest ih =>
      refine Frame.gives_since_bind
        (construct_instance_lawful (fun request _ => obeys.deploy request) runs.run)
        (construct_instance_gives_own sound own server _ network builder.config)
        fun construction first => ?_
      cases construction.failure with
      | some failure =>
          refine Frame.gives_since_of_gives (gives_pure ⟨by simp, ?_⟩)
          intro stopped reason same
          cases same
          exact first
      | none =>
          refine Frame.gives_since_bind
            (construct_until_failure_lawful (fun request _ => obeys.deploy request) runs.run rest) ih
            fun progress others => Frame.gives_since_of_gives (gives_pure ⟨?_, others.stopped⟩)
          simpa using ⟨first, others.built⟩

theorem advance_gives_own (blueprint : Blueprint) :
    Frame.GivesSince (sparing tenant fun _ => False) origin (Progress.Own tenant origin)
      (advance builder blueprint) := by
  refine Frame.gives_since_then (HostLaw.note (sparingSince _ _ _) _ _ _) fun _ => ?_
  refine Frame.gives_since_then (Law.attempt _ (since_networks_provided _ _)) fun provided => ?_
  cases provided with
  | error failure =>
      dsimp only
      split
      · exact Frame.gives_since_of_gives (gives_pure ⟨by simp, nofun⟩)
      · exact Frame.gives_since_of_gives (gives_fail failure)
  | ok network =>
      exact Frame.gives_since_bind (obeys.make blueprint)
        (Frame.gives_since_of_gives (obeys.made blueprint)) fun runner runs =>
        construct_until_failure_gives_own sound own obeys runs blueprint network _

theorem construct_all_spares (blueprint : Blueprint) :
    (sparingSince tenant (fun _ => False) origin).holds
      (constructAll builder blueprint) := by
  have known : Frame.GivesSince (sparing tenant fun _ => False) origin
      (fun progress => progress.Own tenant origin ∧ ∀ runner, progress.ending = .complete runner →
        runner.Obeys (sparingSince tenant (fun _ => False) origin))
      (advance builder blueprint) := by
    intro host since progress advanced
    exact ⟨advance_gives_own sound own obeys blueprint host since progress advanced,
      advance_runner_obeys obeys.toRunnersObey blueprint host progress advanced⟩
  simp only [construct_all_eq, prepare, bind_assoc, pure_bind]
  refine Frame.since_bind (advance_lawful since_networks_provided obeys blueprint) known ?_
  intro progress given
  obtain ⟨progressOwn, runners⟩ := given
  have settles : (sparingSince tenant (fun _ => False) origin).holds
      (settle blueprint progress : HostAction Failure (List Failure)) :=
    settle_lawful
      (fun construction member => since_stopping (progressOwn.built construction member))
      (fun container request => Frame.kept_since (commit_spares container request) origin)
      (fun construction failure ending _ =>
        since_reclaiming (progressOwn.stopped construction failure ending)) blueprint runners
  have releases : (sparingSince tenant (fun _ => False) origin).holds
      (releaseAll progress.built.reverse : HostAction Failure Unit) :=
    release_all_lawful fun construction member =>
      since_reclaiming (progressOwn.built construction (List.mem_reverse.mp member))
  exact Law.bind _ settles fun _ => Law.bind _ releases fun _ => Law.pure _ _

end

/-- A build spares what belongs to others, and all images. -/
theorem construct_spares {tenant : Tenant} {builder : Builder} (same : builder.scope = tenant.scope)
    (own : HandsOverOwn tenant builder.deployer)
    (obeys : builder.CollaboratorsObey (.keeping (sparing tenant fun _ => False)))
    (blueprint : Blueprint) :
    (HostLaw.keeping (sparing tenant fun _ => False)).holds
      (construct builder blueprint) :=
  spares_of_since fun origin sound =>
    construct_lawful (construct_all_spares sound own (obeys.since origin) blueprint) since_waiting
      (same ▸ since_networks_removed sound _)

end Builder

/-! ## Cleaning -/

namespace Cleanup

theorem remove_unless_kept_lawful {law : HostLaw} {keep : List String} {image : Image}
    (removes : isLocalImage image.tags = true → blueprintOf image ∉ keep →
      law.holds (Daemon.removeImage image.id true)) :
    law.holds (removeUnlessKept keep image : HostAction Problem Bool) := by
  rw [removeUnlessKept]
  split
  · exact law.bind (law.note _ _ _) fun _ => law.pure _
  · rename_i tagged
    split
    · exact law.bind (law.note _ _ _) fun _ => law.pure _
    · rename_i unkept
      exact Catalog.remove_image_lawful (removes (by simpa using tagged) (by simpa using unkept))

section

variable {tenant : Tenant} {keep : List String} {origin : Host}
  (sound : origin.Sound tenant.possible)

include sound

theorem remove_containers_spares {removable : Image → Prop} :
    (sparingSince tenant removable origin).holds
      (removeContainers tenant.scope : HostAction Problem (List String)) := by
  refine HostLaw.since_attempt_bind (since_lists_containers _ _)
    (list_containers_gives_own sound none) ?_ ?_
  · intro failure
    exact Law.bind _ (HostLaw.note _ _ _ _) fun _ => Law.pure _ _
  · intro containers known
    refine Catalog.remove_all_lawful fun container member => ?_
    have reclaims := @since_reclaiming tenant removable origin _ (known container member)
    exact Catalog.remove_container_lawful reclaims.get reclaims.remove

theorem remove_networks_spares {removable : Image → Prop} :
    (sparingSince tenant removable origin).holds
      (removeNetworks tenant.scope : HostAction Problem (List String)) := by
  refine HostLaw.since_attempt_bind (since_lists_networks _)
    (list_networks_gives_own sound none) ?_ ?_
  · intro failure
    exact Law.bind _ (HostLaw.note _ _ _ _) fun _ => Law.pure _ _
  · intro networks known
    exact Catalog.remove_all_lawful fun network member =>
      Catalog.remove_network_lawful (remove_network_spares (known network member))

theorem remove_images_spares :
    (sparingSince tenant (Disposable tenant.scope keep) origin).holds
      (removeImages tenant.scope keep : HostAction Problem (List String)) := by
  refine HostLaw.since_attempt_bind (since_lists_images _)
    (list_images_gives_owned sound none) ?_ ?_
  · intro failure
    exact Law.bind _ (HostLaw.note _ _ _ _) fun _ => Law.pure _ _
  · intro images known
    refine Catalog.remove_all_lawful fun image member => remove_unless_kept_lawful ?_
    intro tagged unkept
    obtain ⟨owned, free⟩ := known image member
    exact remove_image_spares (free ⟨owned, List.all_eq_true.mp tagged, unkept⟩)

end

/-- A cleaning spares what belongs to others, and all images but those that it may remove. -/
theorem run_spares (tenant : Tenant) (keep : List String) :
    (HostLaw.keeping (sparing tenant (Disposable tenant.scope keep))).holds
      (run tenant.scope keep : HostAction Problem Removed) :=
  spares_of_since fun _ sound =>
    Law.bind _ (remove_containers_spares sound) fun _ =>
      Law.bind _ (remove_networks_spares sound) fun _ =>
        Law.bind _ (remove_images_spares sound) fun _ =>
          Law.bind _ (HostLaw.note _ _ _ _) fun _ => Law.pure _ _

end Cleanup

/-! ## Calls that remove images -/

def Call.removesImage : Call → Bool
  | .removeImage .. => true
  | _ => false

/-- The law that no call removes an image. -/
abbrev removesNoImage : HostLaw := .calling fun call => call.removesImage = false

theorem networks_remove_no_image : removesNoImage.AdmitsNetworks :=
  HostLaw.calling_networks (fun _ => rfl) (fun _ _ _ => rfl) fun _ => rfl

theorem reclaiming_removes_no_image : removesNoImage.AdmitsReclaiming :=
  HostLaw.calling_reclaiming (fun _ => rfl) (fun _ => rfl) (fun _ => rfl) fun _ => rfl

/-- A build removes no image unless its collaborators do. -/
theorem Builder.construct_removes_no_image {builder : Builder}
    (obeys : builder.CollaboratorsObey removesNoImage) (blueprint : Blueprint) :
    removesNoImage.holds (construct builder blueprint) := by
  have commits : removesNoImage.AdmitsCommits :=
    HostLaw.calling_commits (fun _ => rfl) (fun _ => rfl) fun _ _ => rfl
  have waits : removesNoImage.AdmitsWaiting := HostLaw.calling_waiting (fun _ => rfl) fun _ => rfl
  exact construct_lawful
    (construct_all_lawful networks_remove_no_image.provides commits reclaiming_removes_no_image
      obeys blueprint) waits (remove_networks_lawful networks_remove_no_image.removal _ _)

namespace Cleanup

variable {scope : String} {keep : List String} {host : Host} {id : String} {force : Bool}

theorem remove_containers_lawful {law : HostLaw}
    (lists : ∀ all filters, law.holds (Daemon.listContainers all filters))
    (reclaims : law.AdmitsReclaiming) (scope : String) :
    law.holds (removeContainers scope : HostAction Problem (List String)) := by
  refine law.bind (law.attempt (lists _ _)) fun listed => ?_
  cases listed with
  | error failure => exact law.bind (law.note _ _ _) fun _ => law.pure _
  | ok found =>
      exact Catalog.remove_all_lawful fun container _ =>
        Catalog.remove_container_lawful (reclaims.get _) (reclaims.of _).remove

theorem remove_networks_lawful {law : HostLaw} (removal : law.AdmitsNetworkRemoval)
    (scope : String) : law.holds (removeNetworks scope : HostAction Problem (List String)) := by
  refine law.bind (law.attempt (removal.list _)) fun listed => ?_
  cases listed with
  | error failure => exact law.bind (law.note _ _ _) fun _ => law.pure _
  | ok found =>
      exact Catalog.remove_all_lawful fun network _ =>
        Catalog.remove_network_lawful (removal.remove network.id network.name)

theorem remove_images_lawful {law : HostLaw}
    (lists : ∀ filters, law.holds (Daemon.listImages filters))
    (removes : ∀ id, law.holds (Daemon.removeImage id true)) (scope : String) (keep : List String) :
    law.holds (removeImages scope keep : HostAction Problem (List String)) := by
  refine law.bind (law.attempt (lists _)) fun listed => ?_
  cases listed with
  | error failure => exact law.bind (law.note _ _ _) fun _ => law.pure _
  | ok found =>
      exact Catalog.remove_all_lawful fun image _ =>
        remove_unless_kept_lawful fun _ _ => removes image.id

/-- The image pass removes only images that were listed, are local and are not kept. -/
theorem remove_images_removes
    (removed : .call (.removeImage id force) ∈
      (removeImages scope keep host : Outcome Host Event Problem (List String)).trace) :
    ∃ image ∈ host.images, image.id = id ∧ Listed (.ofScope scope) image ∧
      isLocalImage image.tags = true ∧ blueprintOf image ∉ keep := by
  rcases mem_trace_bind removed with listing | ⟨listed, given, removing⟩
  · have lists : removesNoImage.holds (attempt (Catalog.listImages (.ofScope scope)) :
        HostAction Problem (Except Failure (List Image))) :=
      Law.attempt _ (Daemon.list_images_lawful (HostLaw.calling_perform rfl))
    cases lists host _ listing _ rfl
  · have result : (Catalog.listImages (.ofScope scope) host).result = listed := Except.ok.inj given
    cases listed with
    | error failure =>
        have notes : removesNoImage.holds (noteFailedList "images" scope failure :
            HostAction Problem (List String)) :=
          Law.bind _ (HostLaw.note _ _ _ _) fun _ => Law.pure _ _
        cases notes _ _ removing _ rfl
    | ok images =>
        have removes : (HostLaw.calling fun call => ∀ id force, call = .removeImage id force →
            ∃ image ∈ images, image.id = id ∧ isLocalImage image.tags = true ∧
              blueprintOf image ∉ keep).holds
            (Catalog.removeAll Image.id (removeUnlessKept keep) images :
              HostAction Problem (List String)) := by
          refine Catalog.remove_all_lawful fun image member => remove_unless_kept_lawful ?_
          intro tagged unkept
          refine Daemon.remove_image_lawful (HostLaw.calling_perform ?_) (HostLaw.calling_change _)
          intro id force same
          cases same
          exact ⟨image, member, rfl, tagged, unkept⟩
        obtain ⟨image, member, same, known⟩ := removes _ _ removing _ rfl id force rfl
        obtain ⟨there, shown⟩ := Builder.list_images_listed result image member
        exact ⟨image, there, same, shown, known⟩

/-- Whatever image a cleaning removes is one that it may remove. -/
theorem run_removes {possible : Failure → Prop} (sound : host.Sound possible)
    (removed : .call (.removeImage id force) ∈
      (run scope keep host : Outcome Host Event Problem Removed).trace) :
    ∃ image ∈ host.images, image.id = id ∧ Disposable scope keep image := by
  have minds : (Frame.ofView Host.images).MindsImages := ⟨fun images _ _ _ => images⟩
  rcases mem_trace_bind removed with early | ⟨_, _, later⟩
  · have silent : removesNoImage.holds
        (removeContainers scope : HostAction Problem (List String)) :=
      remove_containers_lawful
        (fun _ _ => Daemon.list_containers_lawful (HostLaw.calling_perform rfl))
        reclaiming_removes_no_image scope
    cases silent host _ early _ rfl
  rcases mem_trace_bind later with early | ⟨_, _, later⟩
  · have silent : removesNoImage.holds
        (removeNetworks scope : HostAction Problem (List String)) :=
      remove_networks_lawful networks_remove_no_image.removal scope
    cases silent _ _ early _ rfl
  rcases mem_trace_bind later with removing | ⟨_, _, noted⟩
  · obtain ⟨image, there, same, shown, tagged, unkept⟩ := remove_images_removes removing
    have containers : (HostLaw.keeping (Frame.ofView Host.images)).holds
        (removeContainers scope : HostAction Problem (List String)) :=
      remove_containers_lawful minds.deploying.list minds.reclaiming scope
    have networks : (HostLaw.keeping (Frame.ofView Host.images)).holds
        (removeNetworks scope : HostAction Problem (List String)) :=
      remove_networks_lawful minds.networks.removal scope
    have unchanged := (networks _).trans (containers host)
    have before : image ∈ host.images := by
      rw [← unchanged]
      exact there
    have accepted : (Query.ofScope scope).accepts image.labels = true :=
      shown.resolve_left (by simp [sound.images.asked image before])
    exact ⟨image, before, same, Query.owned_of_accepts accepted, List.all_eq_true.mp tagged, unkept⟩
  · simp [note_bind_apply, pure_apply] at noted

end Cleanup

end FixtureImages
