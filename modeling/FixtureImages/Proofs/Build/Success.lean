import FixtureImages.Proofs.Build.Cache
import FixtureImages.Proofs.Build.Commits
import FixtureImages.Proofs.Build.Instance

/-!
# Builds that succeed

A build that succeeds has constructed all instances and committed each of them once: the container
that was deployed for the instance, under the name by which its image is looked up, and with
directives that carry all labels of its ownership. Its images are new, and they are found by the
queries of their instances.
-/

namespace FixtureImages

set_option autoImplicit false

open Action

variable {Problem : Type}

/-! ## The containers of instances -/

theorem construct_instance_deployed {server : Instance} {blueprint network : String}
    {config : Config} {deployer : Deployer} {runner : Runner} {host : Host}
    {construction : Construction}
    (constructed : (constructInstance server blueprint network config deployer runner host :
      Outcome Host Event Problem Construction).result = .ok construction)
    (succeeded : construction.failure = none) :
    ∃ deployment, (deployer (deployRequestFor server blueprint network config) host).result =
        .ok deployment ∧ construction.container = deployment.containerId := by
  obtain ⟨same, known, ends⟩ := @construct_instance_ends Problem server blueprint network config
    deployer runner host
  rw [known] at constructed
  cases constructed
  generalize Outcome.state _ = left at ends
  cases ends with
  | unconfigured failed container => exact absurd succeeded failed
  | undeployed ended failed container => exact absurd succeeded failed
  | setUp ended container => exact ⟨_, ended, container⟩

namespace Builder

/-- The containers that are deployed for instances one after the other, as deployments name them. -/
def deployedFrom (builder : Builder) (blueprint : Blueprint) (network : String) (runner : Runner) :
    List Instance → Host → List String
  | [], _ => []
  | server :: rest, host =>
      let deployed := builder.deployer
        (deployRequestFor server blueprint.name.text network builder.config) host
      let constructed : Outcome Host Event Failure Construction :=
        constructInstance server blueprint.name.text network builder.config builder.deployer runner
          host
      (deployed.result.toOption.map Deployment.containerId).toList ++
        deployedFrom builder blueprint network runner rest constructed.state

/-- The containers that a build deploys for its instances. -/
def deployedOn (builder : Builder) (blueprint : Blueprint) (host : Host) : List String :=
  let provided := Provision.ensureNetwork builder.scope blueprint.name.text host
  match provided.result with
  | .error _ => []
  | .ok network =>
      let made := builder.makeRunner blueprint provided.state
      match made.result with
      | .error _ => []
      | .ok runner =>
          deployedFrom builder blueprint network runner blueprint.instances made.state

/-- The commits of a build that succeed. -/
def commitsOn (builder : Builder) (blueprint : Blueprint) (host : Host) : List Commitment :=
  let advanced := advance builder blueprint host
  match advanced.result with
  | .ok ⟨built, .complete runner⟩ => commitsFrom blueprint runner built advanced.state
  | _ => []

variable {builder : Builder} {blueprint : Blueprint} {host : Host}

theorem construct_until_failure_deployed {network : String} {runner used : Runner}
    {servers : List Instance} {start : Host} {progress : Progress}
    (progressed : (constructUntilFailure builder blueprint network runner servers start :
      Outcome Host Event Failure Progress).result = .ok progress)
    (complete : progress.ending = .complete used) :
    progress.built.map Construction.container =
      deployedFrom builder blueprint network runner servers start := by
  induction servers generalizing start progress with
  | nil =>
      cases progressed
      rfl
  | cons server rest ih =>
      obtain ⟨construction, constructed, -⟩ := @construct_instance_ends Failure server
        blueprint.name.text network builder.config builder.deployer runner start
      rw [constructUntilFailure, bind_of_ok constructed] at progressed
      cases failed : construction.failure with
      | some failure =>
          simp only [failed, pure_apply, Except.ok.injEq] at progressed
          subst progressed
          cases complete
      | none =>
          obtain ⟨deployment, deployed, same⟩ := construct_instance_deployed constructed failed
          simp only [failed] at progressed
          obtain ⟨further, later, ended⟩ := ok_of_bind progressed
          cases ended
          simp only [List.map_cons, ih later complete, deployedFrom, deployed, same]
          rfl

/-- The containers of the instances of a build that came to its commits are those deployed. -/
theorem advance_deployed {progress : Progress} {used : Runner}
    (advanced : (advance builder blueprint host).result = .ok progress)
    (complete : progress.ending = .complete used) :
    progress.built.map Construction.container = deployedOn builder blueprint host := by
  rw [advance, noteBuild, note_bind_apply, attempt_bind_apply] at advanced
  dsimp only at advanced
  rw [deployedOn]
  cases provided : (Provision.ensureNetwork builder.scope blueprint.name.text host).result with
  | error failure =>
      simp only [provided] at advanced
      split at advanced
      · cases advanced
        cases complete
      · cases advanced
  | ok network =>
      simp only [provided] at advanced
      obtain ⟨runner, made, constructed⟩ := ok_of_bind advanced
      simp only [made]
      exact construct_until_failure_deployed constructed complete

theorem construct_until_failure_all {property : Construction → Prop} {network : String}
    {runner : Runner}
    (gives : ∀ server, Gives property (constructInstance server blueprint.name.text network
      builder.config builder.deployer runner : HostAction Problem Construction))
    (servers : List Instance) :
    Gives (fun progress => ∀ construction ∈ progress.built, property construction)
      (constructUntilFailure builder blueprint network runner servers :
        HostAction Problem Progress) := by
  induction servers with
  | nil => exact gives_pure (by simp)
  | cons server rest ih =>
      refine gives_bind_of (gives server) fun construction own => ?_
      cases construction.failure with
      | some failure => exact gives_pure (by simp)
      | none =>
          refine gives_bind_of ih fun progress others => gives_pure ?_
          simpa using ⟨own, others⟩

theorem advance_named (builder : Builder) (blueprint : Blueprint) :
    Gives (fun progress => ∀ construction ∈ progress.built,
        construction.NamedIn builder.scope blueprint)
      (advance builder blueprint) := by
  refine gives_bind fun _ => gives_bind fun network => ?_
  cases network with
  | error failure =>
      dsimp only
      split
      · exact gives_pure (by simp)
      · exact gives_fail failure
  | ok network =>
      refine gives_bind fun runner => construct_until_failure_all (fun server => ?_) _
      intro start construction given
      obtain ⟨own, scope, context⟩ :=
        construct_instance_gives server _ _ _ _ _ start construction given
      exact ⟨scope, own ▸ context⟩

/-- Only when all instances were constructed are no failures collected. -/
theorem complete_of_settle {progress : Progress}
    (settled : (settle blueprint progress host : Outcome Host Event Failure (List Failure)).result =
      .ok []) :
    ∃ runner images, progress.ending = .complete runner ∧
      (commitAll blueprint runner progress.built host :
        Outcome Host Event Failure (List String × List Failure)).result = .ok (images, []) := by
  cases ending : progress.ending with
  | refused failure =>
      simp only [settle, ending] at settled
      cases settled
  | stopped construction failure =>
      obtain ⟨_, discarded⟩ := @succeeds_discard Failure construction host
      simp only [settle, ending, bind_of_ok discarded] at settled
      cases settled
  | complete runner =>
      obtain ⟨⟨images, failures⟩, committed⟩ := @succeeds_commit_all Failure blueprint runner
        progress.built host
      simp only [settle, ending, bind_of_ok committed, pure_apply, Except.ok.injEq] at settled
      exact ⟨runner, images, rfl, settled ▸ committed⟩

/-- A build that commits anything has constructed all instances. -/
theorem commits_on_cases (builder : Builder) (blueprint : Blueprint) (host : Host) :
    commitsOn builder blueprint host = [] ∨
    ∃ progress runner, (advance builder blueprint host).result = .ok progress ∧
      progress.ending = .complete runner := by
  cases advanced : (advance builder blueprint host).result with
  | error failure =>
      left
      simp only [commitsOn, advanced]
  | ok progress =>
      obtain ⟨built, ending⟩ := progress
      cases ending with
      | refused failure =>
          left
          simp only [commitsOn, advanced]
      | stopped construction failure =>
          left
          simp only [commitsOn, advanced]
      | complete runner => exact .inr ⟨_, runner, rfl, rfl⟩

/-- A build that succeeds has come to its commits, and none of them failed. -/
theorem commits_of_success {ids : List String}
    (succeeded : (construct builder blueprint host).result = .ok ids) :
    ∃ progress runner images, (advance builder blueprint host).result = .ok progress ∧
      progress.ending = .complete runner ∧
      (commitAll blueprint runner progress.built (advance builder blueprint host).state :
        Outcome Host Event Failure (List String × List Failure)).result = .ok (images, []) := by
  have settled := settled_of_success succeeded
  cases advanced : (advance builder blueprint host).result with
  | error failure =>
      simp only [settledOn, prepare, bind_of_error advanced, Except.map] at settled
      cases settled
  | ok progress =>
      obtain ⟨failures, ended, prepared⟩ := prepare_apply advanced
      obtain rfl : failures = [] := by simpa [settledOn, prepared, Except.map] using settled
      obtain ⟨runner, images, complete, committed⟩ := complete_of_settle ended
      exact ⟨progress, runner, images, rfl, complete, committed⟩

/-! ## When a build commits -/

theorem advance_commits_nothing (obeys : builder.CollaboratorsObey noCommits)
    (blueprint : Blueprint) (host : Host) :
    commitCalls (advance builder blueprint host).trace = [] := by
  have networks : noCommits.AdmitsNetworks :=
    HostLaw.calling_networks (fun _ => rfl) (fun _ _ _ => rfl) fun _ => rfl
  exact commit_calls_of_none (advance_lawful networks.provides obeys blueprint) host

/-- Calls that neither releases nor waiting nor the removal of networks make are all made before the
releases begin. -/
theorem construct_calls_filter {wanted : Call → Bool}
    (reclaims : (HostLaw.calling fun made => wanted made = false).AdmitsReclaiming)
    (waits : (HostLaw.calling fun made => wanted made = false).AdmitsWaiting)
    (removal : (HostLaw.calling fun made => wanted made = false).AdmitsNetworkRemoval)
    (builder : Builder) (blueprint : Blueprint) (host : Host) :
    (callsOf (construct builder blueprint host).trace).filter wanted =
      (callsOf (prepare builder blueprint host).trace).filter wanted := by
  have none {Problem α : Type} {action : HostAction Problem α}
      (holds : (HostLaw.calling fun made => wanted made = false).holds action) (host : Host) :
      (callsOf (action host).trace).filter wanted = [] := by
    rw [List.filter_eq_nil_iff]
    intro made member
    simp [HostLaw.calling_iff.mp holds host made member]
  have freed : (callsOf (released builder blueprint host).trace).filter wanted = [] :=
    none (release_all_lawful fun _ _ => reclaims.of _) _
  have waited : (callsOf (concluded builder blueprint host).trace).filter wanted = [] :=
    none (conclude_lawful waits builder blueprint _) _
  have cleared : (callsOf (swept builder blueprint host).trace).filter wanted = [] :=
    none (remove_networks_lawful removal _ _) _
  have told : (callsOf (reported builder blueprint host).trace).filter wanted = [] :=
    none (report_lawful blueprint _) _
  rw [construct_apply]
  simp only [calls_of_append, List.filter_append, freed, waited, cleared, told, List.append_nil]

/-- Nothing is committed once the releases begin. -/
theorem construct_commit_calls (builder : Builder) (blueprint : Blueprint) (host : Host) :
    commitCalls (construct builder blueprint host).trace =
      commitCalls (prepare builder blueprint host).trace :=
  construct_calls_filter
    (HostLaw.calling_reclaiming (fun _ => rfl) (fun _ => rfl) (fun _ => rfl) fun _ => rfl)
    (HostLaw.calling_waiting (fun _ => rfl) fun _ => rfl)
    (HostLaw.calling_networks (fun _ => rfl) (fun _ _ _ => rfl) fun _ => rfl).removal _ _ _

/-! ## What a build that succeeds has committed -/

/-- Every instance of a blueprint is committed once in a build on a host. -/
structure CommitsAll (builder : Builder) (blueprint : Blueprint) (host : Host) : Prop where
  /-- One commit succeeds for each instance, in order. -/
  instances : (commitsOn builder blueprint host).map Commitment.server = blueprint.instances
  /-- Each is of the container that was deployed for its instance. -/
  containers : (commitsOn builder blueprint host).map (·.container.id) =
    deployedOn builder blueprint host
  /-- Its name, labels and image are those of its instance. -/
  sound : ∀ commitment ∈ commitsOn builder blueprint host,
    commitment.Sound builder.scope blueprint
  /-- Unless a collaborator commits something, these are all commits that are tried. -/
  calls : builder.CollaboratorsObey noCommits →
    commitCalls (construct builder blueprint host).trace =
      (commitsOn builder blueprint host).map Commitment.call
  /-- Unless a collaborator touches images of the blueprint, the images that can be listed for it
  are afterwards those from before and then one new image for each commit. -/
  images : builder.CollaboratorsObey (shownLaw builder.scope blueprint) → FreshImageIds host →
    Adds (builder.queryFor blueprint) ((commitsOn builder blueprint host).map Commitment.image)
      host (construct builder blueprint host).state

section

variable {progress : Progress} {runner : Runner} {images : List String}
  (advanced : (advance builder blueprint host).result = .ok progress)
  (complete : progress.ending = .complete runner)
  (committed : (commitAll blueprint runner progress.built (advance builder blueprint host).state :
    Outcome Host Event Failure (List String × List Failure)).result = .ok (images, []))

include advanced complete

theorem commits_on_eq : commitsOn builder blueprint host =
    commitsFrom blueprint runner progress.built (advance builder blueprint host).state := by
  obtain ⟨built, ending⟩ := progress
  obtain rfl : ending = .complete runner := complete
  simp only [commitsOn, advanced]

include committed

theorem commits_on_complete :
    (commitsOn builder blueprint host).map Commitment.construction = progress.built := by
  obtain ⟨-, known⟩ := advance_gives builder blueprint host progress advanced
  rw [commits_on_eq advanced complete]
  exact commit_all_complete (fun construction member => (known construction member).1) committed

theorem prepare_commits :
    (prepare builder blueprint host).state = (commitAll blueprint runner progress.built
        (advance builder blueprint host).state :
          Outcome Host Event Failure (List String × List Failure)).state ∧
      (prepare builder blueprint host).trace = (advance builder blueprint host).trace ++
        (commitAll blueprint runner progress.built (advance builder blueprint host).state :
          Outcome Host Event Failure (List String × List Failure)).trace := by
  obtain ⟨failures, -, prepared⟩ := prepare_apply advanced
  rw [prepared]
  simp only [settle, complete, bind_of_ok committed, pure_apply, List.append_nil, and_self]

end

section

variable {ids : List String} (succeeded : (construct builder blueprint host).result = .ok ids)

include succeeded

theorem success_commits_instances :
    (commitsOn builder blueprint host).map Commitment.server = blueprint.instances := by
  obtain ⟨progress, runner, images, advanced, complete, committed⟩ := commits_of_success succeeded
  obtain ⟨covers, -⟩ := advance_gives builder blueprint host progress advanced
  rw [Progress.Covers, complete] at covers
  rw [covers, ← commits_on_complete advanced complete committed, List.map_map]
  rfl

theorem success_commits_sound :
    ∀ commitment ∈ commitsOn builder blueprint host,
      commitment.Sound builder.scope blueprint := by
  obtain ⟨progress, runner, images, advanced, complete, -⟩ := commits_of_success succeeded
  rw [commits_on_eq advanced complete]
  exact commits_from_sound (advance_named builder blueprint host progress advanced) _

theorem success_commits_deployed :
    (commitsOn builder blueprint host).map (·.container.id) =
      deployedOn builder blueprint host := by
  obtain ⟨progress, runner, images, advanced, complete, committed⟩ := commits_of_success succeeded
  rw [← advance_deployed advanced complete, ← commits_on_complete advanced complete committed,
    List.map_map]
  exact List.map_congr_left fun commitment member =>
    (success_commits_sound succeeded commitment member).container

theorem success_calls (obeys : builder.CollaboratorsObey noCommits) :
    commitCalls (construct builder blueprint host).trace =
      (commitsOn builder blueprint host).map Commitment.call := by
  have before := advance_commits_nothing obeys blueprint host
  obtain ⟨progress, runner, images, advanced, complete, committed⟩ := commits_of_success succeeded
  obtain ⟨-, known⟩ := advance_gives builder blueprint host progress advanced
  have runnerObeys := advance_runner_obeys obeys.toRunnersObey blueprint host progress advanced
    runner complete
  have made := commit_all_calls runnerObeys
    (fun construction member => (known construction member).1) committed
  rw [construct_commit_calls, commits_on_eq advanced complete,
    (prepare_commits advanced complete committed).2, commit_calls_append, before, made,
    List.nil_append]

theorem success_adds (obeys : builder.CollaboratorsObey (shownLaw builder.scope blueprint))
    (fresh : FreshImageIds host) :
    Adds (builder.queryFor blueprint) ((commitsOn builder blueprint host).map Commitment.image)
      host (construct builder blueprint host).state := by
  have minds := keeps_shown_minds_images (builder.queryFor blueprint)
  have first : Adds (builder.queryFor blueprint) [] host (advance builder blueprint host).state :=
    .of_kept fresh (advance_lawful minds.networks.provides obeys blueprint host)
  obtain ⟨progress, runner, images, advanced, complete, committed⟩ := commits_of_success succeeded
  obtain ⟨-, known⟩ := advance_gives builder blueprint host progress advanced
  have named := advance_named builder blueprint host progress advanced
  have runnerObeys := advance_runner_obeys obeys.toRunnersObey blueprint host progress advanced
    runner complete
  have second := @commit_all_adds Failure builder.scope blueprint runner runnerObeys
    progress.built (fun construction member =>
      ⟨(known construction member).1, named construction member⟩) _ first.fresh
  have kept := @kept_after_prepare builder blueprint host _ minds.networks minds.reclaiming
    minds.waiting
  rw [(prepare_commits advanced complete committed).1] at kept
  have whole := (first.trans second).trans (.of_kept second.fresh kept)
  rw [commits_on_eq advanced complete]
  rwa [List.nil_append, List.append_nil] at whole

end

/-- A build that succeeds commits every instance, whatever was captured and whatever failed on the
way. -/
theorem construct_commits_all {ids : List String}
    (succeeded : (construct builder blueprint host).result = .ok ids) :
    CommitsAll builder blueprint host where
  instances := success_commits_instances succeeded
  containers := success_commits_deployed succeeded
  sound := success_commits_sound succeeded
  calls := success_calls succeeded
  images := success_adds succeeded

theorem plain_builder_commits_nothing : plainBuilder.CollaboratorsObey noCommits := by
  refine deploying_builder_calls (fun call recorded => ?_) (fun call deploying => ?_) _ _
  · cases call <;> first | rfl | cases recorded
  · cases call <;> first | rfl | cases deploying

theorem plain_builder_keeps_shown (scope : String) (blueprint : Blueprint) :
    plainBuilder.CollaboratorsObey (shownLaw scope blueprint) := by
  have minds := keeps_shown_minds_images (.ofBlueprint scope blueprint.name.text)
  exact deploying_builder_obeys minds.deploying (fun call _ => minds.meets call) _ _

/-- The two servers are committed, and nothing else is. -/
theorem construct_commits_all_of_pair :
    (construct plainBuilder Blueprint.pair (Host.fresh ∅)).result =
        .ok ["sha256:0000000000041a6e", "sha256:0000000000051a6e"] ∧
      CommitsAll plainBuilder Blueprint.pair (Host.fresh ∅) ∧
      plainBuilder.CollaboratorsObey noCommits ∧
      plainBuilder.CollaboratorsObey (shownLaw "default" Blueprint.pair) ∧
      FreshImageIds (Host.fresh ∅) := by
  have succeeded : (construct plainBuilder Blueprint.pair (Host.fresh ∅)).result =
      .ok ["sha256:0000000000041a6e", "sha256:0000000000051a6e"] := by decide +kernel
  have fresh : FreshImageIds (Host.fresh ∅) :=
    ⟨rfl, fun image member => absurd member List.not_mem_nil⟩
  exact ⟨succeeded, construct_commits_all succeeded, plain_builder_commits_nothing,
    plain_builder_keeps_shown _ _, fresh⟩

end Builder

end FixtureImages
