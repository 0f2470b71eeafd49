import FixtureImages.Proofs.Build.Operations
import FixtureImages.Proofs.Build.Visible

/-!
# Built once

Once a blueprint has been built, there is an image of it that is listed, and it stays as long as no
cleaning of its namespace lets go of it: builds only add images under new identifiers, and time does
not run backwards. So the blueprint is not built again: asking for it lists its images and does
nothing else.
-/

namespace FixtureImages

set_option autoImplicit false

open Action

variable {Problem : Type}

/-- Images have distinct identifiers, new ones are counted, and listings show only what their
filters ask for. -/
structure Host.ImagesNumbered (host : Host) : Prop where
  counts : host.settings.nextImageId = none
  images : Numbered Image.id Image.always imageId host.nextId host.images

/-- Between two hosts, the images that a query accepts have stayed. -/
structure Retains (query : Query) (before after : Host) : Prop where
  numbered : after.ImagesNumbered
  kept : ∀ image ∈ before.images, query.accepts image.labels = true → image ∈ after.images
  clock : before.clock ≤ after.clock

theorem Retains.trans {query : Query} {before between after : Host}
    (first : Retains query before between) (second : Retains query between after) :
    Retains query before after where
  numbered := second.numbered
  kept image there accepted := second.kept image (first.kept image there accepted) accepted
  clock := Nat.le_trans first.clock second.clock

/-- The frame of all changes that retain the images of a query. -/
def retaining (query : Query) : Frame Host where
  holds before after := before.ImagesNumbered → Retains query before after
  refl _ numbered := ⟨numbered, fun _ there _ => there, Nat.le_refl _⟩
  trans earlier later numbered :=
    have first := earlier numbered
    first.trans (later first.numbered)

/-! ## Calls -/

section

variable {query : Query}

theorem retaining_minds_images (query : Query) : (retaining query).MindsImages := by
  constructor
  intro before after images settings nextId clock numbered
  refine ⟨⟨settings ▸ numbered.counts, ?_⟩, fun image there _ => images ▸ there, clock⟩
  rw [images]
  exact numbered.images.later_of_le nextId

theorem commit_retains (container : Container) (request : CommitRequest) :
    (HostLaw.keeping (retaining query)).holds (Daemon.commit container request) := by
  refine Daemon.commit_lawful ((retaining_minds_images query).meets _)
    (HostLaw.keeping_take fun host numbered => ?_)
  rw [Host.commitContainer, numbered.counts]
  exact ⟨⟨rfl, numbered.images.placed image_id_injective rfl rfl⟩,
    fun image there _ => numbered.images.subset_place rfl there, Nat.le_refl _⟩

theorem retaining_admits_operations (query : Query) :
    (HostLaw.keeping (retaining query)).AdmitsOperations where
  provides := (retaining_minds_images query).networks.provides
  removes := remove_networks_lawful (retaining_minds_images query).networks.removal
  commits :=
    { get := (retaining_minds_images query).reclaiming.get
      stop := fun container => ((retaining_minds_images query).stopping container.id).stop _ rfl
      commit := commit_retains }
  reclaims := (retaining_minds_images query).reclaiming
  waits := (retaining_minds_images query).waiting

/-! ## Cleanings -/

/-- An image that a query accepts is none that the image pass of a cleaning removes. -/
def Query.Outlasts (query : Query) (scope : String) (keep : List String) : Prop :=
  ∀ image : Image, query.accepts image.labels = true →
    (Query.ofScope scope).accepts image.labels = true → Cleanup.blueprintOf image ∈ keep

theorem remove_images_retains {scope : String} {keep : List String}
    (outlasts : query.Outlasts scope keep) :
    (HostLaw.keeping (retaining query)).holds
      (Cleanup.removeImages scope keep : HostAction Problem (List String)) := by
  apply Frame.kept_of_since
  intro origin host since numbered
  have lists : (HostLaw.keeping ((retaining query).since origin)).holds
      (Catalog.listImages (.ofScope scope)) :=
    Frame.kept_since ((retaining_minds_images query).waiting.list _) origin
  -- what a listing shows is still there, so an accepted image of the origin is not among it
  have apart : Frame.GivesSince (retaining query) origin
      (fun found => ∀ image ∈ found, Cleanup.blueprintOf image ∉ keep →
        ∀ old ∈ origin.images, query.accepts old.labels = true → old.id ≠ image.id)
      (Catalog.listImages (.ofScope scope)) := by
    refine Frame.gives_since_of_reveals (list_images_reveals _) lists ?_
    intro later since image shown unkept old there accepted same
    have retains := since numbered
    obtain ⟨present, asked⟩ := List.mem_filter.mp (List.mem_filter.mp shown).1
    obtain rfl := retains.numbered.images.eq_of_id (retains.kept old there accepted) present same
    rw [retains.numbered.images.asked old present, Bool.false_or] at asked
    exact unkept (outlasts old accepted asked)
  refine HostLaw.since_attempt_bind lists apart ?_ ?_ host since numbered
  · intro failure
    exact Law.bind _ (HostLaw.note _ _ _ _) fun _ => Law.pure _ _
  · intro images known
    refine Catalog.remove_all_lawful fun image member =>
      Cleanup.remove_unless_kept_lawful fun _ unkept => ?_
    have meets (call : Call) : ((retaining query).since origin).Meets call := fun later since =>
      (retaining query).trans since ((retaining_minds_images query).meets call later)
    refine Daemon.remove_image_lawful (meets _) ?_
    intro later since numbered
    have retains := since numbered
    refine ⟨⟨retains.numbered.counts, retains.numbered.images.filter _⟩, ?_, retains.clock⟩
    intro old there accepted
    exact List.mem_filter.mpr ⟨retains.kept old there accepted,
      bne_iff_ne.mpr (known image member unkept old there accepted)⟩

theorem cleaning_retains {scope : String} {keep : List String}
    (outlasts : query.Outlasts scope keep) :
    (HostLaw.keeping (retaining query)).holds
      (Cleanup.run scope keep : HostAction Problem Cleanup.Removed) := by
  have minds := retaining_minds_images query
  refine Law.bind _ (Cleanup.remove_containers_lawful minds.deploying.list minds.reclaiming scope)
    fun _ => Law.bind _ (Cleanup.remove_networks_lawful minds.networks.removal scope) fun _ => ?_
  exact Law.bind _ (remove_images_retains outlasts) fun _ =>
    Law.bind _ (HostLaw.note _ _ _ _) fun _ => Law.pure _ _

/-- The images of a blueprint outlast cleanings of other namespaces, and those that keep it. -/
theorem Query.blueprint_outlasts {scope name cleaned : String} {keep : List String}
    (spared : cleaned ≠ scope ∨ name ∈ keep) :
    (Query.ofBlueprint scope name).Outlasts cleaned keep := by
  intro image accepted listed
  rcases spared with apart | kept
  · have own := (Query.owned_of_accepts accepted).2
    have other := (Query.owned_of_accepts listed).2
    exact absurd (Option.some.inj (other.symm.trans own)) apart
  · rw [Cleanup.blueprintOf, Table.getD, (accepts_blueprint_iff.mp accepted).2]
    exact kept

/-! ## A listed image -/

theorem Retains.listed {before after : Host} {image : Image} (numbered : before.ImagesNumbered)
    (retains : Retains query before after) (listed : image ∈ listedNow query before) :
    image ∈ listedNow query after := by
  obtain ⟨shown, visible⟩ := List.mem_filter.mp listed
  obtain ⟨there, asked⟩ := List.mem_filter.mp shown
  rw [numbered.images.asked image there, Bool.false_or] at asked
  have early : image.visibleAt ≤ after.clock :=
    Nat.le_trans (of_decide_eq_true visible) retains.clock
  exact List.mem_filter.mpr
    ⟨List.mem_filter.mpr ⟨retains.kept image there asked, by simp [asked]⟩, by simpa using early⟩

theorem list_images_apply {host : Host}
    (met : (meetFaults (.listImages query.filters) host.faults).2 = none) :
    Catalog.listImages query host =
      ⟨.ok (listedNow query host),
        { host with faults := (meetFaults (.listImages query.filters) host.faults).1 },
        [.call (.listImages query.filters)]⟩ := by
  simp only [Catalog.listImages, Daemon.listImages, bind_apply, perform, met, look, listedNow,
    shownBy, List.filter_filter, Query.meets_filters_eq_accepts, List.append_nil]

end

namespace Builder

variable {builder : Builder} {blueprint : Blueprint} {host : Host}

theorem construct_leaves_listed {ids : List String}
    (succeeded : (construct builder blueprint host).result = .ok ids) :
    listedNow (builder.queryFor blueprint) (construct builder blueprint host).state ≠ [] := by
  obtain ⟨rfl, enough⟩ := construct_returns_listed succeeded
  intro none
  rw [none] at enough
  exact blueprint.nonempty (List.length_eq_zero_iff.mp (Nat.le_zero.mp enough))

/-- An attempt that finds images changes nothing that listings show. -/
theorem construct_if_missing_leaves_listed {built : Bool}
    (succeeded : (constructIfMissing builder blueprint host).result = .ok built) :
    listedNow (builder.queryFor blueprint)
      (constructIfMissing builder blueprint host).state ≠ [] := by
  rw [constructIfMissing] at succeeded ⊢
  obtain ⟨images, listing, later⟩ := ok_of_bind succeeded
  rw [bind_of_ok listing]
  have seen : images = listedNow (builder.queryFor blueprint)
      (Catalog.listImages (builder.queryFor blueprint) host).state :=
    list_images_reveals _ host images (ok_of_map_failure listing)
  split at later
  · rename_i found
    rw [if_pos found]
    change listedNow _ (Catalog.listImages (builder.queryFor blueprint) host).state ≠ []
    rw [← seen]
    simpa using found
  · rename_i none
    obtain ⟨ids, constructed, -⟩ := ok_of_bind later
    rw [if_neg none, bind_of_ok constructed]
    exact construct_leaves_listed constructed

/-- A blueprint with a listed image is not built: its images are listed, and nothing else happens.
-/
theorem reuses_listed
    (met : (meetFaults (.listImages (builder.queryFor blueprint).filters) host.faults).2 = none)
    (listed : listedNow (builder.queryFor blueprint) host ≠ []) :
    constructIfMissing builder blueprint host =
      ⟨.ok false,
        { host with
          faults := (meetFaults (.listImages (builder.queryFor blueprint).filters) host.faults).1 },
        [.call (.listImages (builder.queryFor blueprint).filters),
          .log ⟨.debug, .builder,
            "[Builder] Blueprint '" ++ blueprint.name.text ++ "' already built, reusing"⟩]⟩ := by
  have found : (!(listedNow (builder.queryFor blueprint) host).isEmpty) = true := by
    simpa using listed
  rw [constructIfMissing, bind_apply, mapFailure, list_images_apply met]
  simp only [map_error_ok, found, if_true, noteBuild, note_bind_apply, pure_apply]
  rfl

end Builder

/-- An operation asks for a blueprint of a name in a namespace. -/
def Operation.Builds (scope name : String) : Operation → Prop
  | .order builder (.construct blueprint) | .order builder (.constructIfMissing blueprint) =>
      builder.scope = scope ∧ blueprint.name.text = name
  | _ => False

/-- An operation lets the images of a blueprint be: its collaborators do, and if it is a cleaning,
it is one of another namespace or keeps the blueprint. -/
structure Operation.LetsBe (scope name : String) (operation : Operation) : Prop where
  obeys : operation.Obeys (.keeping (retaining (.ofBlueprint scope name)))
  spares : ∀ cleaned keep, operation.cleaning = some (cleaned, keep) →
    cleaned ≠ scope ∨ name ∈ keep

section

variable {scope name : String} {host : Host} {move : Move} {moves : List Move}

theorem Operation.LetsBe.retains {operation : Operation}
    (letsBe : operation.LetsBe scope name) :
    (HostLaw.keeping (retaining (.ofBlueprint scope name))).holds operation.action :=
  action_lawful (retaining_admits_operations _) letsBe.obeys fun cleaned keep cleans =>
    cleaning_retains (Query.blueprint_outlasts (letsBe.spares cleaned keep cleans))

theorem start_retains (query : Query) (move : Move) (host : Host) :
    (retaining query).holds host (move.start host) :=
  (retaining_minds_images query).same rfl rfl (Nat.le_refl _) (Nat.le_add_right _ _)

theorem Move.leaves_listed (builds : move.operation.Builds scope name)
    (succeeded : (move.run host).result = .ok ()) :
    listedNow (.ofBlueprint scope name) (move.run host).state ≠ [] := by
  obtain ⟨operation, faults, pause⟩ := move
  cases operation with
  | order builder wanted =>
      cases wanted with
      | construct blueprint =>
          obtain ⟨rfl, rfl⟩ := builds
          obtain ⟨ids, constructed, -⟩ := ok_of_bind succeeded
          rw [run, Operation.action, Builder.Order.action, bind_of_ok constructed]
          exact Builder.construct_leaves_listed constructed
      | constructIfMissing blueprint =>
          obtain ⟨rfl, rfl⟩ := builds
          obtain ⟨built, constructed, -⟩ := ok_of_bind succeeded
          rw [run, Operation.action, Builder.Order.action, bind_of_ok constructed]
          exact Builder.construct_if_missing_leaves_listed constructed
      | cleanUp => exact builds.elim
  | _ => exact builds.elim

/-- After a successful build of a blueprint, whatever else was asked for, the blueprint is not built
again unless its images were cleaned away: its images are listed, and nothing else happens. -/
theorem built_once {last : Builder.Attempt} {blueprint : Blueprint}
    (numbered : host.ImagesNumbered)
    (builds : move.operation.Builds scope name) (letsBe : move.operation.LetsBe scope name)
    (succeeded : (move.run host).result = .ok ())
    (letBe : ∀ later ∈ moves, later.operation.LetsBe scope name)
    (again : last.builder.scope = scope ∧ blueprint.name.text = name)
    (met : (meetFaults (.listImages (Query.ofBlueprint scope name).filters) last.faults).2 = none) :
    let listing : Call := .listImages (Query.ofBlueprint scope name).filters
    let left := last.start (movedBy moves (move.run host).state)
    last.run blueprint (movedBy moves (move.run host).state) =
      ⟨.ok false, { left with faults := (meetFaults listing last.faults).1 },
        [.call listing,
          .log ⟨.debug, .builder,
            "[Builder] Blueprint '" ++ name ++ "' already built, reusing"⟩]⟩ := by
  obtain ⟨rfl, rfl⟩ := again
  have first : Retains _ host (move.run host).state :=
    Frame.trans _ (start_retains _ move host) (letsBe.retains (move.start host)) numbered
  have later : Retains _ (move.run host).state (movedBy moves (move.run host).state) :=
    moved_by_keeps (start_retains _) (fun other member => (letBe other member).retains) _
      first.numbered
  obtain ⟨image, listed⟩ := List.exists_mem_of_ne_nil _ (move.leaves_listed builds succeeded)
  have started :
      Retains _ (move.run host).state (last.start (movedBy moves (move.run host).state)) :=
    later.trans ((retaining_minds_images _).same rfl rfl (Nat.le_refl _) (Nat.le_add_right _ _)
      later.numbered)
  exact Builder.reuses_listed met (List.ne_nil_of_mem (started.listed first.numbered listed))

end

/-! ## Builders with the deployer over the daemon -/

theorem deploying_builder_retains (query : Query) (config : Config) (script : RunnerScript) :
    (Builder.deployingBuilder config script).CollaboratorsObey (.keeping (retaining query)) :=
  Builder.deploying_builder_obeys (retaining_minds_images query).deploying
    (fun call _ => (retaining_minds_images query).meets call) config script

/-- Two servers are built because there is no image of them. -/
def firstBuild : Move := ⟨.order Builder.plainBuilder (.constructIfMissing Blueprint.pair), [], 0⟩

/-- A rebuild of which one commit fails, a cleaning of another namespace, and one that keeps the
blueprint. -/
def rebuildAndClean : List Move :=
  [⟨.order Builder.plainBuilder (.construct Blueprint.pair), [Builder.commitFails], 0⟩,
    ⟨.cleanUp "other" [], [], 0⟩,
    ⟨.cleanUp "default" ["bp"], [], 1000⟩]

/-- After two servers were built and all of that happened, they are not built again. -/
theorem built_once_of_pair :
    (Host.fresh ∅).ImagesNumbered ∧ firstBuild.operation.LetsBe "default" "bp" ∧
      (firstBuild.run (Host.fresh ∅)).result = .ok () ∧
      (∀ later ∈ rebuildAndClean, later.operation.LetsBe "default" "bp") ∧
      let listing : Call := .listImages (Query.ofBlueprint "default" "bp").filters
      let last : Builder.Attempt := ⟨Builder.plainBuilder, [], 0⟩
      let left := last.start (movedBy rebuildAndClean (firstBuild.run (Host.fresh ∅)).state)
      last.run Blueprint.pair (movedBy rebuildAndClean (firstBuild.run (Host.fresh ∅)).state) =
        ⟨.ok false, { left with faults := (meetFaults listing last.faults).1 },
          [.call listing, .log ⟨.debug, .builder,
            "[Builder] Blueprint '" ++ "bp" ++ "' already built, reusing"⟩]⟩ := by
  have numbered : (Host.fresh ∅).ImagesNumbered :=
    ⟨rfl, by simp [Host.fresh], by simp [Host.fresh], by simp [Host.fresh]⟩
  have obeys := deploying_builder_retains (.ofBlueprint "default" "bp")
    Builder.plainBuilder.config RunnerScript.quiet
  have letsBe : firstBuild.operation.LetsBe "default" "bp" :=
    ⟨obeys, by simp [firstBuild, Operation.cleaning]⟩
  have succeeded : (firstBuild.run (Host.fresh ∅)).result = .ok () := by decide +kernel
  have letBe : ∀ later ∈ rebuildAndClean, later.operation.LetsBe "default" "bp" := by
    intro later member
    simp only [rebuildAndClean, List.mem_cons, List.not_mem_nil, or_false] at member
    rcases member with rfl | rfl | rfl
    · exact ⟨obeys, by simp [Operation.cleaning]⟩
    · exact ⟨trivial, by simp [Operation.cleaning]⟩
    · exact ⟨trivial, by simp [Operation.cleaning]⟩
  exact ⟨numbered, letsBe, succeeded, letBe,
    built_once numbered ⟨rfl, rfl⟩ letsBe succeeded letBe ⟨rfl, rfl⟩ rfl⟩

end FixtureImages
