import FixtureImages.Proofs.Build.Instance
import FixtureImages.Proofs.Build.Undisturbed
import FixtureImages.Proofs.Daemon.Identifiers
import FixtureImages.Proofs.Daemon.Removal

/-!
# What a build leaves behind

However a build ends, the containers that its deployer made are gone, and so are the networks of its
blueprint unless a container from elsewhere is attached to them. The deployer has to say which
containers it made, and the calls that remove must not fail; all other calls may. The invariant is
that each container made so far belongs to an instance that is to be released or discarded.
-/

namespace FixtureImages

set_option autoImplicit false

open Action

variable {Problem : Type}

/-- Whether a container with this identifier is on the host, running or not. -/
def Host.HasContainer (id : String) (host : Host) : Prop :=
  ∃ container ∈ host.containers, container.id = id

/-- No containers are made but those from elsewhere. -/
def containersFrom (elsewhere : String → Prop) : Frame Host where
  holds before after := ∀ id, after.HasContainer id → before.HasContainer id ∨ elsewhere id
  refl _ _ := .inl
  trans earlier later id made := (later id made).elim (earlier id) .inr

/-- The container that the end of a deployment tells about: the one of the deployment, or the one
that the failure names. An empty identifier tells about none. -/
def Reports (id : String) : Except Failure Deployment → Prop
  | .ok deployment => deployment.containerId = id ∧ id ≠ ""
  | .error failure => failure.containerId = id ∧ id ≠ ""

/-- Every container that a deployer makes is the one that it reports. -/
def ReportsContainers (deployer : Deployer) : Prop :=
  ∀ request host id, (deployer request host).state.HasContainer id →
    host.HasContainer id ∨ Reports id (deployer request host).result

theorem Host.mem_place_by {α : Type} {idOf : α → String} {item other : α} {items : List α}
    (member : other ∈ placeBy idOf item items) : other = item ∨ other ∈ items := by
  induction items with
  | nil => exact .inl (List.mem_singleton.mp member)
  | cons head rest ih =>
      rw [placeBy] at member
      split at member
      · rcases List.mem_cons.mp member with rfl | late
        · exact .inl rfl
        · exact .inr (List.mem_cons_of_mem _ late)
      · rcases List.mem_cons.mp member with rfl | late
        · exact .inr List.mem_cons_self
        · exact (ih late).imp_right (List.mem_cons_of_mem _)

theorem Host.mem_place_by_self {α : Type} (idOf : α → String) (item : α) (items : List α) :
    item ∈ placeBy idOf item items := by
  induction items with
  | nil => exact List.mem_singleton_self item
  | cons head rest ih =>
      rw [placeBy]
      split
      · exact List.mem_cons_self
      · exact List.mem_cons_of_mem head ih

/-- A deployer that makes a container and does not start it. -/
def createOnly (config : Config) : Deployer := fun request => do
  let container ← Daemon.createContainer (Deployment.containerRequest config ∅ request)
  return ⟨container.id, "", "", ∅, ∅, ∅⟩

theorem create_only_reports (config : Config) : ReportsContainers (createOnly config) := by
  intro request host id made
  simp only [createOnly, Daemon.createContainer, bind_apply, perform] at made ⊢
  generalize Deployment.containerRequest config ∅ request = wanted at made ⊢
  revert made
  cases (meetFaults (.createContainer wanted) host.faults).2 with
  | some failure => exact .inl
  | none =>
      intro made
      obtain ⟨container, member, rfl⟩ := made
      rcases Host.mem_place_by member with rfl | before
      · exact .inr ⟨rfl, container_id_ne_empty _⟩
      · exact .inl ⟨container, before, rfl⟩

/-! ## Operations that make no containers -/

section

variable {elsewhere : String → Prop}

private theorem makes_none_of_kept {update : Host → Host}
    (kept : ∀ host, ∀ container ∈ (update host).containers, host.HasContainer container.id)
    (host : Host) : (containersFrom elsewhere).holds host (update host) := by
  rintro _ ⟨container, member, rfl⟩
  exact .inl (kept host container member)

private theorem meets_call (call : Call) : (containersFrom elsewhere).Meets call :=
  fun _ _ => .inl

private theorem halts_container (container : Container) :
    (HostLaw.keeping (containersFrom elsewhere)).holds (Daemon.halt container) := by
  rw [Daemon.halt]
  refine HostLaw.keeping_change (makes_none_of_kept fun host changed member => ?_)
  simp only [Host.updateContainer, List.mem_map] at member
  obtain ⟨original, present, rfl⟩ := member
  refine ⟨original, present, ?_⟩
  split <;> rfl

private theorem provides_networks :
    (HostLaw.keeping (containersFrom elsewhere)).AdmitsNetworks where
  list _ := Daemon.list_networks_lawful (meets_call _)
  create _ _ _ := Daemon.create_network_lawful (meets_call _) fun _ _ => .inl
  remove _ _ := Daemon.remove_network_lawful (meets_call _) fun _ _ => .inl

private theorem commits_instances :
    (HostLaw.keeping (containersFrom elsewhere)).AdmitsCommits where
  get _ := Daemon.get_container_lawful (meets_call _)
  stop container := Daemon.stop_lawful (meets_call _) (halts_container container)
  commit _ _ := Daemon.commit_lawful (meets_call _) fun _ _ => .inl

private theorem reclaims_containers :
    (HostLaw.keeping (containersFrom elsewhere)).AdmitsReclaiming where
  get _ := Daemon.get_container_lawful (meets_call _)
  kill container := Daemon.kill_lawful (meets_call _) (halts_container container)
  readLog _ := Daemon.read_log_lawful (meets_call _)
  remove _ :=
    Daemon.remove_container_lawful (meets_call _) <| HostLaw.keeping_change <|
      makes_none_of_kept fun _ other member => ⟨other, (List.mem_filter.mp member).1, rfl⟩

private theorem waits_for_images :
    (HostLaw.keeping (containersFrom elsewhere)).AdmitsWaiting where
  list _ := Daemon.list_images_lawful (meets_call _)
  sleep _ := Daemon.sleep_lawful (fun _ _ => .inl) fun _ _ => .inl

end

/-- Every container on a later host was there before, is from elsewhere, or is one of ours. -/
def Accounted (elsewhere : String → Prop) (before after : Host) (ours : String → Prop) : Prop :=
  ∀ id, after.HasContainer id → before.HasContainer id ∨ elsewhere id ∨ ours id

/-- The container of an instance, if it has one. -/
def Construction.Owns (construction : Construction) (id : String) : Prop :=
  construction.container = id ∧ id ≠ ""

theorem Accounted.after {elsewhere ours : String → Prop} {before between after : Host}
    (accounted : Accounted elsewhere before between ours)
    (kept : (containersFrom elsewhere).holds between after) :
    Accounted elsewhere before after ours := by
  intro id made
  rcases kept id made with there | foreign
  · exact accounted id there
  · exact .inr (.inl foreign)

/-- What is left when an instance was tried, and which container it has. -/
theorem construct_instance_accounts {elsewhere : String → Prop} {deployer : Deployer}
    {runner : Runner} (reports : ReportsContainers deployer)
    (runs : ∀ server url, (HostLaw.keeping (containersFrom elsewhere)).holds
      (runner.run server url))
    (server : Instance) (blueprint network : String) (config : Config) (host : Host) :
    let outcome : Outcome Host Event Problem Construction :=
      constructInstance server blueprint network config deployer runner host
    ∃ construction, outcome.result = .ok construction ∧
      Accounted elsewhere host outcome.state construction.Owns := by
  obtain ⟨construction, constructed, ends⟩ := @construct_instance_ends Problem server blueprint
    network config deployer runner host
  refine ⟨construction, constructed, ?_⟩
  have told := reports (deployRequestFor server blueprint network config) host
  generalize deployer (deployRequestFor server blueprint network config) host = deployed
    at told ends
  generalize Outcome.state _ = left at ends ⊢
  have owned (same : ∀ id, Reports id deployed.result → construction.Owns id) :
      Accounted elsewhere host deployed.state construction.Owns := by
    intro id made
    exact (told id made).imp_right fun reported => .inr (same id reported)
  cases ends with
  | unconfigured failed container => exact fun id made => .inl made
  | undeployed ended failed container =>
      apply owned
      intro id reported
      rw [ended] at reported
      exact ⟨container.trans reported.1, reported.2⟩
  | setUp ended container =>
      refine (owned ?_).after (runs _ _ _)
      intro id reported
      rw [ended] at reported
      exact ⟨container.trans reported.1, reported.2⟩

namespace Builder

/-! ## The containers of the instances -/

/-- The containers of the instances of a build: those to be released, and the one to discard. -/
def Progress.Owns (progress : Progress) (id : String) : Prop :=
  (∃ construction ∈ progress.built, construction.Owns id) ∨
    ∃ construction failure, progress.ending = .stopped construction failure ∧ construction.Owns id

theorem construct_until_failure_accounts {elsewhere : String → Prop} {builder : Builder}
    {runner : Runner} (reports : ReportsContainers builder.deployer)
    (runs : ∀ server url, (HostLaw.keeping (containersFrom elsewhere)).holds
      (runner.run server url))
    (blueprint : Blueprint) (network : String) (servers : List Instance) (host : Host) :
    let outcome : Outcome Host Event Problem Progress :=
      constructUntilFailure builder blueprint network runner servers host
    ∃ progress, outcome.result = .ok progress ∧
      Accounted elsewhere host outcome.state progress.Owns := by
  induction servers generalizing host with
  | nil => exact ⟨_, rfl, fun id made => .inl made⟩
  | cons server rest ih =>
      obtain ⟨construction, constructed, first⟩ := @construct_instance_accounts
        Problem _ _ _ reports runs server blueprint.name.text network builder.config host
      simp only [constructUntilFailure]
      rw [bind_of_ok constructed]
      cases failed : construction.failure with
      | some failure =>
          refine ⟨_, rfl, fun id made => ?_⟩
          rcases first id made with before | foreign | own
          · exact .inl before
          · exact .inr (.inl foreign)
          · exact .inr (.inr (.inr ⟨construction, failure, rfl, own⟩))
      | none =>
          obtain ⟨progress, progressed, later⟩ := ih
            (constructInstance server blueprint.name.text network builder.config
              builder.deployer runner host : Outcome Host Event Problem Construction).state
          dsimp only
          rw [bind_of_ok progressed]
          refine ⟨_, rfl, fun id made => ?_⟩
          rcases later id made with between | foreign | own
          · rcases first id between with before | foreign | own
            · exact .inl before
            · exact .inr (.inl foreign)
            · exact .inr (.inr (.inl ⟨construction, by simp, own⟩))
          · exact .inr (.inl foreign)
          · rcases own with ⟨built, member, own⟩ | stopped
            · exact .inr (.inr (.inl ⟨built, by simp [member], own⟩))
            · exact .inr (.inr (.inr stopped))

variable {elsewhere : String → Prop} {builder : Builder} {blueprint : Blueprint} {host : Host}

/-- Up to the last construction, every container that was made belongs to an instance. -/
theorem advance_accounts (reports : ReportsContainers builder.deployer)
    (runners : builder.RunnersObey (HostLaw.keeping (containersFrom elsewhere))) :
    Accounted elsewhere host (advance builder blueprint host).state fun id =>
      ∃ progress, (advance builder blueprint host).result = .ok progress ∧ progress.Owns id := by
  have provided : (HostLaw.keeping (containersFrom elsewhere)).holds
      (Provision.ensureNetwork builder.scope blueprint.name.text) :=
    provides_networks.provides _ _
  have kept : ∀ after, (containersFrom elsewhere).holds host after → ∀ ours,
      Accounted elsewhere host after ours := by
    intro after holds ours id made
    exact (holds id made).imp_right .inl
  rw [advance, noteBuild, bind_apply, note_apply]
  dsimp only
  rw [attempt_bind_apply]
  generalize ensured : Provision.ensureNetwork builder.scope blueprint.name.text host = outcome
  have first : (containersFrom elsewhere).holds host outcome.state := ensured ▸ provided host
  cases outcome.result with
  | error failure =>
      dsimp only
      split <;> exact kept _ first _
  | ok network =>
      have second := runners.make blueprint outcome.state
      cases made : (builder.makeRunner blueprint outcome.state).result with
      | error failure =>
          dsimp only
          rw [bind_of_error made]
          exact kept _ ((containersFrom elsewhere).trans first second) _
      | ok runner =>
          obtain ⟨progress, progressed, accounted⟩ :=
            @construct_until_failure_accounts Failure elsewhere builder runner reports
              (runners.made blueprint outcome.state runner made).run blueprint network
              blueprint.instances (builder.makeRunner blueprint outcome.state).state
          dsimp only
          rw [bind_of_ok made]
          intro id present
          rcases accounted id present with there | foreign | own
          · exact (((containersFrom elsewhere).trans first second) id there).imp_right .inl
          · exact .inr (.inl foreign)
          · exact .inr (.inr ⟨progress, progressed, own⟩)

theorem has_container_filtered {id gone : String} {before after : Host}
    (filtered : after.containers = before.containers.filter (·.id != gone)) :
    after.HasContainer id ↔ before.HasContainer id ∧ id ≠ gone := by
  simp only [Host.HasContainer, filtered, List.mem_filter, bne_iff_ne, ne_eq]
  constructor
  · rintro ⟨container, ⟨member, kept⟩, rfl⟩
    exact ⟨⟨container, member, rfl⟩, kept⟩
  · rintro ⟨⟨container, member, rfl⟩, kept⟩
    exact ⟨container, ⟨member, kept⟩, rfl⟩

theorem release_leaves {construction : Construction}
    (undisturbed : ReleasesUndisturbed [construction] host) (id : String) :
    (release construction host : Outcome Host Event Failure Unit).state.HasContainer id →
      host.HasContainer id ∧ construction.container ≠ id := by
  obtain ⟨_, killed⟩ := @Catalog.succeeds_kill_container Failure
    construction.container construction.context host
  obtain ⟨_, removed⟩ := @Catalog.succeeds_remove_container Failure
    construction.container construction.context
    (Catalog.killContainer construction.container construction.context host :
      Outcome Host Event Failure Bool).state
  intro made
  simp only [release, bind_of_ok killed, bind_of_ok removed, pure_apply] at made
  have gone := (has_container_filtered
    (Catalog.remove_container_undisturbed undisturbed.1)).mp made
  have reclaims := @reclaims_containers fun _ => False
  have kills : (HostLaw.keeping (containersFrom fun _ => False)).holds
      (Catalog.killContainer construction.container construction.context :
        HostAction Failure Bool) :=
    Catalog.kill_container_lawful (reclaims.get _) (reclaims.of _).kill
  exact ⟨(kills host id gone.1).resolve_right not_false, fun same => gone.2 same.symm⟩

theorem release_all_leaves {built : List Construction} {start : Host}
    (undisturbed : ReleasesUndisturbed built start) (id : String) :
    (releaseAll built start : Outcome Host Event Failure Unit).state.HasContainer id →
      start.HasContainer id ∧ ∀ construction ∈ built, construction.container ≠ id := by
  induction built generalizing start with
  | nil => exact fun made => ⟨made, by simp⟩
  | cons construction rest ih =>
      obtain ⟨_, freed⟩ := @succeeds_release Failure construction start
      rw [releaseAll, bind_of_ok freed]
      intro made
      obtain ⟨between, apart⟩ := ih undisturbed.2 made
      obtain ⟨before, own⟩ := release_leaves ⟨undisturbed.1, trivial⟩ id between
      exact ⟨before, by simpa using ⟨own, apart⟩⟩

theorem discard_leaves {construction : Construction} {start : Host}
    (undisturbed : DiscardUndisturbed construction start) (id : String)
    (made : (discard construction start : Outcome Host Event Failure Unit).state.HasContainer id) :
    start.HasContainer id ∧ ¬construction.Owns id := by
  obtain ⟨_, shown⟩ := @Catalog.succeeds_print_log Failure construction.container
    construction.context start
  obtain ⟨_, removed⟩ := @Catalog.succeeds_remove_container Failure construction.container
    construction.context
    (Catalog.printLog construction.container construction.context start :
      Outcome Host Event Failure Unit).state
  cases empty : construction.container.isEmpty with
  | true =>
      simp only [discard, empty] at made
      refine ⟨made, fun own => own.2 ?_⟩
      rw [← own.1]
      exact String.isEmpty_iff.mp empty
  | false =>
      have named : construction.container ≠ "" := by
        intro same
        simp [same] at empty
      simp only [discard, empty, Bool.not_false, if_true, bind_of_ok shown,
        bind_of_ok removed, pure_apply] at made
      have gone := (has_container_filtered
        (Catalog.remove_container_undisturbed (undisturbed named))).mp made
      have reclaims := @reclaims_containers fun _ => False
      have shows : (HostLaw.keeping (containersFrom fun _ => False)).holds
          (Catalog.printLog construction.container construction.context :
            HostAction Failure Unit) :=
        Catalog.print_log_lawful (reclaims.get _) reclaims.readLog
      exact ⟨(shows start id gone.1).resolve_right not_false, fun own => gone.2 own.1.symm⟩

/-- When the releases begin, every container that was made belongs to an instance to be released. -/
theorem prepare_accounts (reports : ReportsContainers builder.deployer)
    (runners : builder.RunnersObey (HostLaw.keeping (containersFrom elsewhere)))
    (undisturbed : RemovalsUndisturbed builder blueprint host) :
    Accounted elsewhere host (prepare builder blueprint host).state fun id =>
      ∃ construction ∈ builtOn builder blueprint host, construction.Owns id := by
  have accounted : Accounted elsewhere host (advance builder blueprint host).state _ :=
    advance_accounts reports runners
  cases advanced : (advance builder blueprint host).result with
  | error failure =>
      rw [prepare, bind_of_error advanced]
      intro id made
      rcases accounted id made with before | foreign | ⟨progress, progressed, own⟩
      · exact .inl before
      · exact .inr (.inl foreign)
      · rw [advanced] at progressed
        cases progressed
  | ok progress =>
      obtain ⟨failures, settled, prepared⟩ := prepare_apply advanced
      have built : builtOn builder blueprint host = progress.built := by simp [builtOn, prepared]
      have obeys := advance_runner_obeys runners blueprint host progress advanced
      have settles : (HostLaw.keeping (containersFrom elsewhere)).holds
          (settle blueprint progress : HostAction Failure (List Failure)) :=
        settle_lawful (fun _ _ => commits_instances.stopping _) commits_instances.commit
          (fun _ _ _ _ => reclaims_containers.of _) blueprint obeys
      rw [prepared, built]
      intro id made
      rcases settles _ id made with advancedThere | foreign
      · rcases accounted id advancedThere with before | foreign | ⟨reached, same, own⟩
        · exact .inl before
        · exact .inr (.inl foreign)
        · obtain rfl : progress = reached := by simpa [advanced] using same
          rcases own with own | ⟨construction, failure, ending, own⟩
          · exact .inr (.inr own)
          · obtain ⟨_, discarded⟩ := @succeeds_discard Failure construction
              (advance builder blueprint host).state
            simp only [settle, ending, bind_of_ok discarded, pure_apply] at made
            exact absurd own (discard_leaves
              (undisturbed.discard progress construction failure advanced ending) id made).2
      · exact .inr (.inl foreign)

/-- After the releases no container is left that the build made. -/
theorem released_leaves (reports : ReportsContainers builder.deployer)
    (runners : builder.RunnersObey (HostLaw.keeping (containersFrom elsewhere)))
    (undisturbed : RemovalsUndisturbed builder blueprint host) :
    (containersFrom elsewhere).holds host (released builder blueprint host).state := by
  intro id made
  obtain ⟨before, apart⟩ := release_all_leaves undisturbed.release id made
  rcases prepare_accounts reports runners undisturbed id before with there | foreign | own
  · exact .inl there
  · exact .inr foreign
  · obtain ⟨construction, member, own⟩ := own
    exact absurd own.1 (apart construction (List.mem_reverse.mpr member))

theorem remove_networks_undisturbed {scope name : String} {start : Host}
    (undisturbed : Undisturbed start.faults (sweepCalls (.ofBlueprint scope name) start)) :
    let after := (Provision.removeNetworks scope name start :
      Outcome Host Event Problem (List String)).state
    after.containers = start.containers ∧
      ∀ network ∈ after.networks, (Query.ofBlueprint scope name).accepts network.labels = true →
        start.hasEndpoint network.name = true := by
  obtain ⟨lists, removes⟩ := undisturbed
  have listed : Catalog.listNetworks (.ofBlueprint scope name) start = _ :=
    Daemon.list_networks_undisturbed lists
  rw [Provision.removeNetworks, attempt_bind_apply, listed]
  rw [listed] at removes
  obtain ⟨containers, networks⟩ :=
    @Catalog.remove_all_networks_undisturbed Problem _ { start with faults := _ } removes
  refine ⟨containers, fun network member accepted => ?_⟩
  obtain ⟨there, asked⟩ := networks network member
  refine asked (List.mem_filter.mpr ⟨there, ?_⟩)
  rw [Query.meets_filters_eq_accepts, accepted, Bool.or_true]

/-- However a build ends, the containers left on the host were there before or are from elsewhere,
and a network of the blueprint is left only if such a container is running on it. -/
theorem construct_leaves_nothing (reports : ReportsContainers builder.deployer)
    (runners : builder.RunnersObey (HostLaw.keeping (containersFrom elsewhere)))
    (undisturbed : RemovalsUndisturbed builder blueprint host) :
    let left := (construct builder blueprint host).state
    (∀ container ∈ left.containers, host.HasContainer container.id ∨ elsewhere container.id) ∧
      ∀ network ∈ left.networks,
        (builder.queryFor blueprint).accepts network.labels = true →
        ∃ container ∈ left.containers, container.running = true ∧
          container.network = some network.name ∧
          (host.HasContainer container.id ∨ elsewhere container.id) := by
  have concludes : (HostLaw.keeping (containersFrom elsewhere)).holds
      (conclude builder blueprint (settledOn builder blueprint host)) :=
    conclude_lawful waits_for_images builder blueprint _
  have reporting : (HostLaw.keeping (Frame.ofView id)).holds
      (report blueprint (concluded builder blueprint host).result) := report_lawful blueprint _
  have unchanged : (construct builder blueprint host).state =
      (swept builder blueprint host).state := by
    rw [construct_apply]
    exact reporting _
  obtain ⟨containers, networks⟩ :=
    @remove_networks_undisturbed BuildFailure _ _ _ undisturbed.sweep
  have cleared : ∀ container ∈ (swept builder blueprint host).state.containers,
      host.HasContainer container.id ∨ elsewhere container.id := by
    intro container member
    have before := released_leaves reports runners undisturbed
    refine (containersFrom elsewhere).trans before (concludes _) container.id ⟨container, ?_, rfl⟩
    exact containers ▸ member
  simp only [unchanged]
  refine ⟨cleared, fun network member accepted => ?_⟩
  have endpoint := networks network member accepted
  simp only [Host.hasEndpoint, List.any_eq_true, Bool.and_eq_true, beq_iff_eq] at endpoint
  obtain ⟨container, present, running, attached⟩ := endpoint
  have there : container ∈ (swept builder blueprint host).state.containers :=
    containers.symm ▸ present
  exact ⟨container, there, running, attached, cleared container there⟩

/-- A builder whose collaborators make containers and do nothing else. -/
def createOnlyBuilder : Builder :=
  ⟨{ Config.usual with baseImage := "base" }, createOnly Config.usual, RunnerScript.quiet.make⟩

private theorem create_only_faultless :
    createOnlyBuilder.CollaboratorsObey (HostLaw.keeping faultless) :=
  ⟨RunnerScript.runners_obey (fun call _ => faultless_meets call) RunnerScript.quiet rfl, fun _ =>
    Law.bind _ (Daemon.create_container_lawful (faultless_meets _) fun _ quiet => quiet)
      fun _ => Law.pure _ _⟩

/-- Of a build of two servers on an empty host no container is left. -/
theorem construct_leaves_nothing_of_pair :
    ReportsContainers createOnlyBuilder.deployer ∧
      createOnlyBuilder.RunnersObey (HostLaw.keeping (containersFrom fun _ => False)) ∧
      RemovalsUndisturbed createOnlyBuilder Blueprint.pair (Host.fresh ∅) ∧
      (construct createOnlyBuilder Blueprint.pair (Host.fresh ∅)).state.containers = [] := by
  have reports : ReportsContainers createOnlyBuilder.deployer := create_only_reports Config.usual
  have runners : createOnlyBuilder.RunnersObey
      (HostLaw.keeping (containersFrom fun _ => False)) :=
    RunnerScript.runners_obey (fun call _ => meets_call call) RunnerScript.quiet rfl
  have undisturbed : RemovalsUndisturbed createOnlyBuilder Blueprint.pair (Host.fresh ∅) :=
    removals_undisturbed_without_faults create_only_faultless Blueprint.pair rfl
  refine ⟨reports, runners, undisturbed, List.eq_nil_iff_forall_not_mem.mpr ?_⟩
  intro container member
  rcases (construct_leaves_nothing reports runners undisturbed).1 container member with there | none
  · obtain ⟨before, present, _⟩ := there
    cases present
  · exact none

end Builder

end FixtureImages
