import FixtureImages.Proofs.Build.Handover

/-!
# Whole runs

Builders of a namespace are called one after the other, to build blueprints or to clean up, in any
order and with any failures. Over a whole run, an image is removed only by a cleaning, and only if
it belongs to the namespace, has no foreign tag and is not kept. All resources that do not belong to
the namespace stay as they are.
-/

namespace FixtureImages.Builder

set_option autoImplicit false

open Action

/-- What a builder is called for. -/
inductive Order
  | construct (blueprint : Blueprint)
  | constructIfMissing (blueprint : Blueprint)
  | cleanUp

def Order.action (builder : Builder) : Order → HostAction BuildFailure Unit
  | .construct blueprint => do
      let _ ← Builder.construct builder blueprint
      return ()
  | .constructIfMissing blueprint => do
      let _ ← Builder.constructIfMissing builder blueprint
      return ()
  | .cleanUp => do
      let _ ← Builder.cleanUp builder
      return ()

/-- One call of a run: of a builder, after a pause, with failures to come. -/
structure Turn extends Attempt where
  order : Order

def Turn.run (turn : Turn) (host : Host) : Outcome Host Event BuildFailure Unit :=
  turn.order.action turn.builder (turn.start host)

/-- The host after some turns. -/
def leftBy : List Turn → Host → Host
  | [], host => host
  | turn :: rest, host => leftBy rest (turn.run host).state

theorem left_by_append (front back : List Turn) (host : Host) :
    leftBy (front ++ back) host = leftBy back (leftBy front host) := by
  induction front generalizing host with
  | nil => rfl
  | cons turn front ih => exact ih _

/-- A turn serves a namespace with a list of blueprints to keep. Its collaborators spare others and
remove no images, and its deployer hands over its own containers. -/
structure Turn.Serves (tenant : Tenant) (keep : List String) (turn : Turn) : Prop where
  inScope : turn.builder.scope = tenant.scope
  keeps : turn.builder.config.keepBlueprints = keep
  failures : ∀ rule ∈ turn.faults, tenant.possible rule.failure
  spares : turn.builder.CollaboratorsObey (.keeping (sparing tenant fun _ => False))
  removesNone : turn.builder.CollaboratorsObey removesNoImage
  handsOver : HandsOverOwn tenant turn.builder.deployer

variable {tenant : Tenant} {keep : List String} {host : Host}

/-! ## One turn -/

section

variable {turn : Turn} (serves : turn.Serves tenant keep) (sound : host.Sound tenant.possible)

include serves

theorem Turn.Serves.start_sound (sound : host.Sound tenant.possible) :
    (turn.start host).Sound tenant.possible :=
  { sound with failures := ⟨serves.failures, sound.failures.requests⟩ }

include sound

/-- A turn spares what belongs to others; images that it may remove are those of a cleaning. -/
theorem Turn.Serves.run_spares :
    Spares tenant (fun image => turn.order = .cleanUp ∧ Disposable tenant.scope keep image) host
      (turn.run host).state := by
  have started := serves.start_sound sound
  have builds := construct_spares serves.inScope serves.handsOver serves.spares
  have from_start {removable : Image → Prop} {after : Host}
      (spares : Spares tenant removable (turn.start host) after) :
      Spares tenant removable host after := { spares with }
  rw [Turn.run]
  cases turn.order with
  | construct blueprint =>
      have kept := Law.bind _ (builds blueprint) fun _ => Law.pure _ ()
      exact from_start ((kept (turn.start host) started).mono fun _ => False.elim)
  | constructIfMissing blueprint =>
      have lists : (HostLaw.keeping (sparing tenant fun _ => False)).holds
          (Catalog.listImages (turn.builder.queryFor blueprint)) :=
        Daemon.list_images_lawful (sparing_meets _)
      have kept := Law.bind _ (construct_if_missing_lawful lists (builds blueprint)) fun _ =>
        Law.pure _ ()
      exact from_start ((kept (turn.start host) started).mono fun _ => False.elim)
  | cleanUp =>
      have cleans : (HostLaw.keeping (sparing tenant (Disposable tenant.scope keep))).holds
          (cleanUp turn.builder : HostAction BuildFailure Cleanup.Removed) := by
        rw [cleanUp, serves.inScope, serves.keeps]
        exact Cleanup.run_spares tenant keep
      have kept := Law.bind _ cleans fun _ => Law.pure _ ()
      exact from_start ((kept (turn.start host) started).mono fun _ disposable => ⟨rfl, disposable⟩)

/-- Whatever image a turn removes is one that a cleaning may remove. -/
theorem Turn.Serves.run_removes {id : String} {force : Bool}
    (removed : .call (.removeImage id force) ∈ (turn.run host).trace) :
    turn.order = .cleanUp ∧
      ∃ image ∈ host.images, image.id = id ∧ Disposable tenant.scope keep image := by
  have builds := construct_removes_no_image serves.removesNone
  rw [Turn.run] at removed
  cases order : turn.order with
  | construct blueprint =>
      rw [order] at removed
      have silent := Law.bind _ (builds blueprint) fun _ => Law.pure _ ()
      cases silent _ _ removed _ rfl
  | constructIfMissing blueprint =>
      rw [order] at removed
      have lists : removesNoImage.holds (Catalog.listImages (turn.builder.queryFor blueprint)) :=
        Daemon.list_images_lawful (HostLaw.calling_perform rfl)
      have silent := Law.bind _ (construct_if_missing_lawful lists (builds blueprint)) fun _ =>
        Law.pure _ ()
      cases silent _ _ removed _ rfl
  | cleanUp =>
      rw [order] at removed
      rcases mem_trace_bind removed with cleaning | ⟨_, _, later⟩
      · rw [cleanUp, serves.inScope, serves.keeps] at cleaning
        have own := Cleanup.run_removes (serves.start_sound sound) cleaning
        exact ⟨rfl, own⟩
      · cases later

end

/-! ## Turns one after the other -/

theorem left_by_spares {turns : List Turn}
    (serve : ∀ turn ∈ turns, turn.Serves tenant keep) (sound : host.Sound tenant.possible) :
    Spares tenant (Disposable tenant.scope keep) host (leftBy turns host) := by
  induction turns generalizing host with
  | nil => exact (sparing tenant (Disposable tenant.scope keep)).refl host sound
  | cons turn rest ih =>
      have first := ((serve turn List.mem_cons_self).run_spares sound).mono fun _ known => known.2
      have later := @ih (turn.run host).state
        (fun other member => serve other (List.mem_cons_of_mem _ member)) first.sound
      exact (sparing tenant (Disposable tenant.scope keep)).trans (fun _ => first)
        (fun _ => later) sound

/-- What a run does to images and to resources of others, from each of its turns on. -/
structure RunSpares (tenant : Tenant) (keep : List String) (turns : List Turn) (host : Host) :
    Prop where
  /-- An image that is gone after a turn is one that a cleaning may remove, and the turn was one. -/
  gone : ∀ front turn back, turns = front ++ turn :: back → ∀ image ∈ (leftBy front host).images,
    image ∉ (turn.run (leftBy front host)).state.images →
      turn.order = .cleanUp ∧ Disposable tenant.scope keep image
  /-- So is every image that a turn calls the daemon to remove. -/
  removed : ∀ front turn back, turns = front ++ turn :: back → ∀ id force,
    .call (.removeImage id force) ∈ (turn.run (leftBy front host)).trace →
      turn.order = .cleanUp ∧
        ∃ image ∈ (leftBy front host).images, image.id = id ∧ Disposable tenant.scope keep image
  /-- An image that belongs to others is still there in the end. -/
  images : ∀ front back, turns = front ++ back → ∀ image ∈ (leftBy front host).images,
    ¬OwnedBy tenant.scope image.labels → image ∈ (leftBy turns host).images
  /-- So is a network that belongs to others. -/
  networks : ∀ front back, turns = front ++ back → ∀ network ∈ (leftBy front host).networks,
    ¬OwnedBy tenant.scope network.labels → network ∈ (leftBy turns host).networks
  /-- So is a container that belongs to others and that the deployers did not make. It has the same
  labels, and runs if and only if it did. -/
  containers : ∀ front back, turns = front ++ back → ∀ container ∈ (leftBy front host).containers,
    ¬tenant.Owns container → ∃ same ∈ (leftBy turns host).containers,
      same.id = container.id ∧ same.labels = container.labels ∧ same.running = container.running

/-- However the builders of a namespace are called and whatever fails, a run spares what belongs to
others, and images go only when they may. -/
theorem turns_spare_others {turns : List Turn}
    (serve : ∀ turn ∈ turns, turn.Serves tenant keep) (sound : host.Sound tenant.possible) :
    RunSpares tenant keep turns host := by
  have before {front back : List Turn} (split : turns = front ++ back) :
      (leftBy front host).Sound tenant.possible :=
    (left_by_spares (fun turn member => serve turn (split ▸ List.mem_append_left _ member))
      sound).sound
  have after {front back : List Turn} (split : turns = front ++ back) :
      Spares tenant (Disposable tenant.scope keep) (leftBy front host) (leftBy turns host) := by
    have later : Spares tenant (Disposable tenant.scope keep) (leftBy front host)
        (leftBy back (leftBy front host)) :=
      left_by_spares (fun turn member => serve turn (split ▸ List.mem_append_right _ member))
        (before split)
    rwa [← left_by_append, ← split] at later
  have serves {front back : List Turn} {turn : Turn} (split : turns = front ++ turn :: back) :
      turn.Serves tenant keep :=
    serve turn (split ▸ List.mem_append_right _ List.mem_cons_self)
  constructor
  case gone =>
    intro front turn back split image there missing
    exact (((serves split).run_spares (before split)).images image there).resolve_left missing
  case removed =>
    intro front turn back split id force removed
    exact (serves split).run_removes (before split) removed
  case images =>
    intro front back split image there foreign
    exact ((after split).images image there).resolve_right fun gone => foreign gone.owned
  case networks =>
    intro front back split
    exact (after split).networks
  case containers =>
    intro front back split
    exact (after split).containers

/-! ## Builders with the deployer over the daemon -/

/-- The tenant of such builders. No failure that it can meet names a container, so that deployers
hand over new ones only. -/
def tenantOf (config : Config) : Tenant :=
  ⟨config.scope.text, fun _ => False, fun failure => failure.containerId = ""⟩

theorem deploying_builder_removes_no_image (config : Config) (script : RunnerScript) :
    (deployingBuilder config script).CollaboratorsObey removesNoImage := by
  refine deploying_builder_calls (fun call recorded => ?_) (fun call deploying => ?_) _ _
  · cases call <;> first | rfl | cases recorded
  · cases call <;> first | rfl | cases deploying

/-- Such a builder serves its namespace, whatever its configuration and its script are. -/
theorem deploying_turn_serves (config : Config) (script : RunnerScript) {faults : List FaultRule}
    (failures : ∀ rule ∈ faults, rule.failure.containerId = "") (pause : Nat) (order : Order) :
    Turn.Serves (tenantOf config) config.keepBlueprints
      ⟨⟨deployingBuilder config script, faults, pause⟩, order⟩ where
  inScope := rfl
  keeps := rfl
  failures := failures
  spares := ⟨RunnerScript.runners_obey (fun call _ => sparing_meets call) script rfl,
    Deployment.deploy_spares _⟩
  removesNone := deploying_builder_removes_no_image config script
  handsOver := Deployment.deploy_hands_over_own (fun _ known => known) config

/-- A configuration that keeps one blueprint. -/
def keepingConfig : Config := { Config.usual with baseImage := "img", keepBlueprints := ["kept"] }

/-- A host with a network and a running container of another namespace, and with four images: one of
the usual namespace, one of a blueprint to keep, one with a foreign tag, and one of the other
namespace. -/
def sharedHost : Host :=
  let labels (scope blueprint : String) : Option Labels :=
    some (resourceLabels scope (some blueprint) (some "hs1"))
  let tag (scope blueprint : String) : String := imageName scope blueprint "hs1"
  let network := ((Host.fresh ∅).addNetwork "commander_other_bp" (labels "other" "bp") none false).2
  let request := Deployment.containerRequest Config.usual ∅
    ⟨"img", "c1", "other", "bp", "hs1", ∅, "n"⟩
  let container := (network.addContainer none (Host.requestedContainer request)).2.startContainer
    (containerId 2)
  let image := (container.addImage (some [tag "default" "bp"]) (labels "default" "bp") none 0
    false).2
  let kept := (image.addImage (some [tag "default" "kept"]) (labels "default" "kept") none 0
    false).2
  let retagged := (kept.addImage (some [tag "default" "bp", "registry/bp"]) (labels "default" "bp")
    none 0 false).2
  (retagged.addImage (some [tag "other" "bp"]) (labels "other" "bp") none 0 false).2

/-- No container can be removed. -/
def removalFails : FaultRule :=
  ⟨"container.remove", none, .outside .api "boom" none, 0, none⟩

/-- Two servers are built while no container can be removed, and then the namespace is cleaned. -/
def buildAndClean : List Turn :=
  let builder := deployingBuilder keepingConfig RunnerScript.quiet
  [⟨⟨builder, [removalFails], 0⟩, .construct Blueprint.pair⟩, ⟨⟨builder, [], 0⟩, .cleanUp⟩]

/-- What the build made goes, and so does the image that is not kept. The kept image, the one with a
foreign tag and all of the other namespace stay. -/
theorem build_and_clean_spares :
    (∀ turn ∈ buildAndClean, turn.Serves (tenantOf keepingConfig) ["kept"]) ∧
      sharedHost.Sound (tenantOf keepingConfig).possible ∧
      RunSpares (tenantOf keepingConfig) ["kept"] buildAndClean sharedHost ∧
      let left := leftBy buildAndClean sharedHost
      left.images.map Image.id = [imageId 4, imageId 5, imageId 6] ∧
        left.containers.map (fun container => (container.id, container.running)) =
          [(containerId 2, true)] ∧
        left.networks.map Network.id = [networkId 1] := by
  have serve : ∀ turn ∈ buildAndClean, turn.Serves (tenantOf keepingConfig) ["kept"] := by
    intro turn member
    simp only [buildAndClean, List.mem_cons, List.not_mem_nil, or_false] at member
    rcases member with rfl | rfl
    · exact deploying_turn_serves keepingConfig _ (by simp [removalFails, Failure.containerId,
        Failure.container]) 0 _
    · exact deploying_turn_serves keepingConfig _ (by simp) 0 _
  have empty : (Host.fresh ∅).Sound (tenantOf keepingConfig).possible := by
    refine ⟨rfl, ⟨?_, ?_, ?_⟩, ⟨?_, ?_, ?_⟩, ⟨?_, ?_, ?_⟩, ?_, ?_, ?_⟩ <;>
      simp [Host.fresh, Host.usualSettings, Host.readyAnswer]
  have sound : sharedHost.Sound (tenantOf keepingConfig).possible :=
    (((((((empty.add_network _ _).add_container rfl rfl).start_container _).add_image _ _
      _).add_image _ _ _).add_image _ _ _).add_image _ _ _)
  exact ⟨serve, sound, turns_spare_others serve sound, by decide +kernel⟩

end FixtureImages.Builder
