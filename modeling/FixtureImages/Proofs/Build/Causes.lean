import FixtureImages.Proofs.Build.Abort
import FixtureImages.Proofs.Build.CommitSteps
import FixtureImages.Proofs.Build.Failures
import FixtureImages.Proofs.Deployment.Causes

/-!
# The causes of what a build reports

A build reports the failures of its calls: those of the network, of the deployment and the set-up of
an instance, and of the commits. Each reported failure is the one that the call raised, or keeps it
as its cause. The calls that collect what a runner has captured are the exception: unless such a
failure is already one of the commit stage, only its message is reported.
-/

namespace FixtureImages

set_option autoImplicit false

open Action

variable {α β : Type}

theorem map_failure_id (action : HostAction Failure α) : action.mapFailure id = action := by
  funext host
  rw [mapFailure]
  cases outcome : action host with
  | mk result state trace => cases result <;> rfl

/-! ## The call that ends a turn -/

def failureIn (result : Except Failure α) : Option Failure :=
  match result with
  | .error failure => some failure
  | .ok _ => none

/-- An action fails if and only if one of its calls does, with what is made of that failure. -/
def FailsBy (wording : Raised → Failure) (action : HostAction Failure α)
    (failed : Host → Option Raised) : Prop :=
  ∀ host, failureIn (action host).result = (failed host).map wording

namespace FailsBy

variable {wording : Raised → Failure}

theorem pure (value : α) :
    FailsBy wording (Pure.pure value : HostAction Failure α) fun _ => none := fun _ => rfl

theorem note {level : LogLevel} {source : LogSource} {message : String}
    {next : Unit → HostAction Failure α} {failed : Host → Option Raised}
    (fails : FailsBy wording (next ()) failed) :
    FailsBy wording (FixtureImages.note level source message >>= next) failed := fails

theorem step {call : Call} {convert : Failure → Failure} {first : HostAction Failure α}
    {next : α → HostAction Failure β} {failed : α → Host → Option Raised}
    (words : ∀ failure, wording ⟨call, failure⟩ = convert failure)
    (fails : ∀ value, FailsBy wording (next value) (failed value)) :
    FailsBy wording (first.mapFailure convert >>= next) (failing call first failed) := by
  intro host
  rw [failing, bind_apply, mapFailure]
  cases outcome : (first host).result with
  | error failure => exact congrArg some (words failure).symm
  | ok value => exact fails value (first host).state

theorem raw {call : Call} {first : HostAction Failure α} {next : α → HostAction Failure β}
    {failed : α → Host → Option Raised} (words : ∀ failure, wording ⟨call, failure⟩ = failure)
    (fails : ∀ value, FailsBy wording (next value) (failed value)) :
    FailsBy wording (first >>= next) (failing call first failed) := by
  have worded : FailsBy wording (first.mapFailure id >>= next) (failing call first failed) :=
    step words fails
  rwa [map_failure_id] at worded

end FailsBy

theorem failing_step {call : Call} {action : HostAction Failure α}
    {failed : α → Host → Option Raised} {next : α → Host → List Step}
    (same : ∀ value host, (failed value host).map Raised.call =
      ((next value host).find? fun step => !step.succeeds).map Step.call) (host : Host) :
    (failing call action failed host).map Raised.call =
      ((stepping call action next host).find? fun step => !step.succeeds).map Step.call := by
  rw [failing, stepping]
  cases outcome : (action host).result with
  | error failure => rfl
  | ok value => exact same value (action host).state

/-- The call at which the turn of an instance ends, if it fails. -/
def failedCall (blueprint : Blueprint) (runner : Runner) (construction : Construction) :
    Host → Option Raised :=
  let name := construction.server.name.text
  failing (.credentials name) (runner.credentials name) fun credentials =>
  failing (.devices name) (runner.devices name) fun devices =>
  failing (.getContainer construction.container) (Daemon.getContainer construction.container)
    fun container =>
  failing (.stop container.name stopGrace) (Daemon.stop container stopGrace) fun _ =>
  let request := commitRequest construction
    (collectedLabels construction blueprint credentials devices)
  failing (.commit container.name request) (Daemon.commit container request) fun _ _ => none

/-- What a failed call of a turn is put into. -/
def Raised.inTurn (context : String) (raised : Raised) : Failure :=
  match raised.call with
  | .credentials _ | .devices _ => raised.failure
  | .commit .. => .commit context raised.failure
  | _ => .stop context raised.failure

section

variable (blueprint : Blueprint) (runner : Runner)

theorem label_and_commit_fails (construction : Construction) :
    FailsBy (Raised.inTurn construction.context) (labelAndCommit blueprint runner construction)
      (failedCall blueprint runner construction) := by
  simp only [labelAndCommit, imageLabels, commitInstance, stop_instance_eq, bind_assoc, pure_bind]
  refine .raw (fun _ => rfl) fun credentials => .raw (fun _ => rfl) fun devices => ?_
  refine .step (fun _ => rfl) fun container => .note ?_
  refine .step (fun _ => rfl) fun _ => .note ?_
  exact .step (fun _ => rfl) fun image => .note (.pure _)

/-- That call is the one step of the turn that does not succeed. -/
theorem failed_call_step (construction : Construction) (host : Host) :
    (failedCall blueprint runner construction host).map Raised.call =
      ((commitSteps blueprint runner construction host).find? fun step => !step.succeeds).map
        Step.call :=
  failing_step (fun _ => failing_step fun _ => failing_step fun _ => failing_step fun _ =>
    failing_step fun _ _ => rfl) host

/-- What is reported of a turn is what its failed call becomes. -/
theorem failure_of_turn (turn : Construction × Host) :
    failureOf blueprint runner turn =
      (failedCall blueprint runner turn.1 turn.2).map fun raised =>
        commitFailure turn.1.context (raised.inTurn turn.1.context) := by
  obtain ⟨construction, host⟩ := turn
  have fails := label_and_commit_fails blueprint runner construction host
  rw [failureOf]
  cases outcome : (labelAndCommit blueprint runner construction host).result with
  | ok image =>
      rw [outcome] at fails
      rw [Option.map_eq_none_iff.mp fails.symm]
      rfl
  | error failure =>
      rw [outcome] at fails
      obtain ⟨raised, failed, rfl⟩ := Option.map_eq_some_iff.mp fails.symm
      rw [failed]
      rfl

end

/-! ## Builds -/

namespace Builder

variable {builder : Builder} {blueprint : Blueprint} {host : Host}

/-- A build has a network and a runner, and all instances before one come up, which leaves a host
for that one. -/
structure Reaches (builder : Builder) (blueprint : Blueprint) (host : Host) (network : String)
    (runner : Runner) (server : Instance) (here : Host) : Prop where
  provided : (Provision.ensureNetwork builder.scope blueprint.name.text host).result = .ok network
  made : (builder.makeRunner blueprint
    (Provision.ensureNetwork builder.scope blueprint.name.text host).state).result = .ok runner
  up : ∃ before rest, blueprint.instances = before.map Prod.fst ++ server :: rest ∧
    ComeUp builder blueprint network runner before
      (builder.makeRunner blueprint
        (Provision.ensureNetwork builder.scope blueprint.name.text host).state).state here

/-- A build reports one failure and no other. -/
def ReportsOnly (builder : Builder) (blueprint : Blueprint) (host : Host) (entry : Failure) :
    Prop :=
  (construct builder blueprint host).result = .error (.construction blueprint.name.text [entry])

/-- A call of a build raises a failure, and this leads to a reported one. A build ends with the
failure of a call for its network, or for the deployment or the set-up of an instance. When all
instances are there, each reports the failure of its own turn. -/
inductive Leads (builder : Builder) (blueprint : Blueprint) (host : Host) :
    Failure → Raised → Prop
  | list {entry cause : Failure}
      (failed : (Provision.listingOn builder.scope blueprint.name.text host).result = .error cause)
      (reported : ReportsOnly builder blueprint host entry) :
      Leads builder blueprint host entry
        ⟨.listNetworks (Query.ofBlueprint builder.scope blueprint.name.text).filters, cause⟩
  | create {entry cause : Failure}
      (listed : (Provision.listingOn builder.scope blueprint.name.text host).result = .ok [])
      (failed : (Provision.creationOn builder.scope blueprint.name.text host).result =
        .error cause)
      (reported : ReportsOnly builder blueprint host entry) :
      Leads builder blueprint host entry
        ⟨.createNetwork (networkName builder.scope blueprint.name.text) "bridge"
          (resourceLabels builder.scope (some blueprint.name.text) none), cause⟩
  | deploy {network : String} {runner : Runner} {server : Instance} {here : Host}
      {entry cause : Failure} (reaches : Reaches builder blueprint host network runner server here)
      (known : (baseImageOf server builder.config).isEmpty = false)
      (failed : (builder.deployer (requestFor builder blueprint network server) here).result =
        .error cause)
      (reported : ReportsOnly builder blueprint host entry) :
      Leads builder blueprint host entry
        ⟨.deploy (requestFor builder blueprint network server), cause⟩
  | daemon {network : String} {runner : Runner} {server : Instance} {here : Host}
      {entry : Failure} {raised : Raised}
      (reaches : Reaches builder blueprint host network runner server here)
      (known : (baseImageOf server builder.config).isEmpty = false)
      (usual : builder.deployer (requestFor builder blueprint network server) =
        Deployment.deploy builder.config (requestFor builder blueprint network server))
      (failed : Deployment.Raises builder.config (requestFor builder blueprint network server) here
        raised)
      (reported : ReportsOnly builder blueprint host entry) :
      Leads builder blueprint host entry raised
  | run {network : String} {runner : Runner} {server : Instance} {here : Host}
      {deployment : Deployment} {entry cause : Failure}
      (reaches : Reaches builder blueprint host network runner server here)
      (known : (baseImageOf server builder.config).isEmpty = false)
      (deployed : (builder.deployer (requestFor builder blueprint network server) here).result =
        .ok deployment)
      (failed : (runner.run server deployment.baseUrl
        (deployedHost builder blueprint network server here)).result = .error cause)
      (reported : ReportsOnly builder blueprint host entry) :
      Leads builder blueprint host entry
        ⟨.run server.name.text deployment.baseUrl server.steps, cause⟩
  | ofTurn {progress : Progress} {runner : Runner} {turn : Construction × Host}
      {entry : Failure} {raised : Raised}
      (advanced : (advance builder blueprint host).result = .ok progress)
      (complete : progress.ending = .complete runner)
      (member : turn ∈
        turnsFrom blueprint runner progress.built (advance builder blueprint host).state)
      (failed : failedCall blueprint runner turn.1 turn.2 = some raised)
      (reported : failureOf blueprint runner turn = some entry) :
      Leads builder blueprint host entry raised

/-- A build reports what it found out without a failure: the daemon answered without an identifier
when it was to make a network, or no base image is known for an instance. -/
inductive Unprompted (builder : Builder) (blueprint : Blueprint) (host : Host) : Failure → Prop
  | nameless {reply : NetworkReply} {entry : Failure}
      (listed : (Provision.listingOn builder.scope blueprint.name.text host).result = .ok [])
      (replied : (Provision.creationOn builder.scope blueprint.name.text host).result = .ok reply)
      (missing : reply.id = "")
      (words : entry = if reply.warning = "" then .networkWithoutId blueprint.name.text
        else .networkWarning blueprint.name.text reply.warning) :
      Unprompted builder blueprint host entry
  | unknown {network : String} {runner : Runner} {server : Instance} {here : Host}
      (reaches : Reaches builder blueprint host network runner server here)
      (missing : (baseImageOf server builder.config).isEmpty = true) :
      Unprompted builder blueprint host
        (.noBaseImage (contextOf builder.scope blueprint.name.text server.name.text))

theorem reports_of_down {network : String} {runner : Runner} {server : Instance} {here : Host}
    {failure : Failure} (reaches : Reaches builder blueprint host network runner server here)
    (down : StaysDown builder blueprint network runner server here failure) :
    ReportsOnly builder blueprint host failure := by
  obtain ⟨provided, made, before, rest, instances, up⟩ := reaches
  exact (construct_aborts (.down provided made instances up down)).result

theorem ReportsOnly.unique {entry other : Failure} (first : ReportsOnly builder blueprint host entry)
    (second : ReportsOnly builder blueprint host other) : entry = other := by
  have same := first.symm.trans second
  simpa using same

/-! ### Builds that have all their instances -/

theorem advance_of_runner {network : String} {runner : Runner}
    (provided : (Provision.ensureNetwork builder.scope blueprint.name.text host).result =
      .ok network)
    (made : (builder.makeRunner blueprint
      (Provision.ensureNetwork builder.scope blueprint.name.text host).state).result = .ok runner) :
    (advance builder blueprint host).result =
      (constructUntilFailure builder blueprint network runner blueprint.instances
        (builder.makeRunner blueprint
          (Provision.ensureNetwork builder.scope blueprint.name.text host).state).state).result := by
  rw [advance, noteBuild, note_bind_apply, attempt_bind_apply, provided]
  simp only [bind_of_ok made]

/-- When all instances are there, a build comes to the failures of their turns. -/
theorem construct_of_complete {progress : Progress} {runner : Runner}
    (advanced : (advance builder blueprint host).result = .ok progress)
    (complete : progress.ending = .complete runner) :
    (construct builder blueprint host).result =
      verdict builder blueprint
        (.ok ((turnsFrom blueprint runner progress.built
          (advance builder blueprint host).state).filterMap (failureOf blueprint runner)))
        (prepare builder blueprint host).state := by
  obtain ⟨failures, settled, prepared⟩ := prepare_apply advanced
  have committed := @commit_all_result Failure blueprint runner progress.built
    (advance builder blueprint host).state
  rw [settle, complete] at settled
  simp only [bind_of_ok committed, pure_apply] at settled
  cases settled
  rw [construct_result, settledOn, prepared]
  rfl

/-! ### What becomes of a raised failure -/

/-- The daemon's failures are kept as the cause, and others are reported as they are. -/
theorem worded_keeps {wrap : Failure → Failure} {cause : Failure}
    (wraps : (wrap cause).cause = some cause) : (Provision.worded wrap cause).Keeps cause := by
  rw [Provision.worded]
  split
  · exact .inr wraps
  · exact .inl rfl

theorem reported_provision_keeps {cause entry : Failure}
    (fails : Provision.FailsWith builder.scope blueprint.name.text host cause)
    (reported : ReportsOnly builder blueprint host entry) : entry.Keeps cause := by
  obtain ⟨wrap, wraps, failed⟩ := Provision.provision_worded fails
  have ended := reported.symm.trans (construct_of_unprovided failed)
  split at ended
  · have same : entry = Provision.worded wrap cause := by simpa using ended
    obtain rfl | rfl := wraps
    · exact same ▸ worded_keeps rfl
    · exact same ▸ worded_keeps rfl
  · cases ended

theorem reported_deployment_keeps {network : String} {runner : Runner} {server : Instance}
    {here : Host} {cause failure entry : Failure}
    (reaches : Reaches builder blueprint host network runner server here)
    (known : (baseImageOf server builder.config).isEmpty = false)
    (failed : (builder.deployer (requestFor builder blueprint network server) here).result =
      .error failure)
    (stems : Deployment.StemsFrom failure cause)
    (reported : ReportsOnly builder blueprint host entry) : entry.Keeps cause := by
  by_cases own : failure.stage = some .deployment
  · obtain rfl := reported.unique (reports_of_down reaches (.undeployed known failed own))
    exact stems.imp_right And.right
  · obtain rfl := reported.unique (reports_of_down reaches (.interrupted known failed own))
    obtain rfl | ⟨stage, -⟩ := stems
    · exact .inr rfl
    · exact absurd stage own

theorem commit_failure_keeps_iff {context : String} {failure : Failure} :
    (commitFailure context failure).Keeps failure ↔ failure.stage = some .commit := by
  rw [commitFailure]
  split
  · rename_i own
    exact iff_of_true (.inl rfl) own
  · rename_i foreign
    refine iff_of_false ?_ foreign
    rintro (same | kept)
    · rw [← same] at foreign
      exact foreign rfl
    · cases kept

theorem keeps_iff_of_other {entry : Failure} {raised : Raised}
    (other : raised.call.collects = false) (keeps : entry.Keeps raised.failure) :
    entry.Keeps raised.failure ↔
      (raised.call.collects = true → raised.failure.stage = some .commit) := by
  simp [other, keeps]

theorem in_turn_keeps_iff (context : String) (raised : Raised) :
    (commitFailure context (raised.inTurn context)).Keeps raised.failure ↔
      (raised.call.collects = true → raised.failure.stage = some .commit) := by
  obtain ⟨call, failure⟩ := raised
  cases call with
  | credentials server => simpa [Raised.inTurn, Call.collects] using commit_failure_keeps_iff
  | devices server => simpa [Raised.inTurn, Call.collects] using commit_failure_keeps_iff
  | _ => exact keeps_iff_of_other rfl (.inr rfl)

theorem leads_keeps_iff {entry : Failure} {raised : Raised}
    (leads : Leads builder blueprint host entry raised) :
    entry.Keeps raised.failure ↔
      (raised.call.collects = true → raised.failure.stage = some .commit) := by
  cases leads with
  | list failed reported =>
      exact keeps_iff_of_other rfl (reported_provision_keeps (.inl failed) reported)
  | create listed failed reported =>
      exact keeps_iff_of_other rfl (reported_provision_keeps (.inr ⟨listed, failed⟩) reported)
  | deploy reaches known failed reported =>
      exact keeps_iff_of_other rfl
        (reported_deployment_keeps reaches known failed (.inl rfl) reported)
  | daemon reaches known usual failed reported =>
      obtain ⟨other, failure, ended, stems⟩ := Deployment.deploy_raises failed
      rw [← usual] at ended
      exact keeps_iff_of_other other
        (reported_deployment_keeps reaches known ended stems reported)
  | run reaches known deployed failed reported =>
      obtain rfl := reported.unique (reports_of_down reaches (.unfinished known deployed failed))
      exact keeps_iff_of_other rfl (.inr rfl)
  | ofTurn advanced complete member failed reported =>
      rw [failure_of_turn, failed] at reported
      cases reported
      exact in_turn_keeps_iff _ _

/-- What was captured for an instance could not be collected: only the message remains. -/
theorem leads_loses {entry : Failure} {raised : Raised}
    (leads : Leads builder blueprint host entry raised) (collects : raised.call.collects = true)
    (foreign : raised.failure.stage ≠ some .commit) :
    ∃ context, entry = .labels context raised.failure.message := by
  cases leads with
  | list => cases collects
  | create => cases collects
  | deploy => cases collects
  | daemon _ _ _ failed _ =>
      rw [(Deployment.deploy_raises failed).1] at collects
      cases collects
  | run => cases collects
  | @ofTurn _ _ turn _ raised _ _ _ failed reported =>
      rw [failure_of_turn, failed] at reported
      cases reported
      refine ⟨turn.1.context, ?_⟩
      obtain ⟨call, failure⟩ := raised
      cases call with
      | credentials server => exact if_neg foreign
      | devices server => exact if_neg foreign
      | _ => cases collects

/-! ### What is reported, and why -/

theorem leads_reported {entry : Failure} {raised : Raised}
    (leads : Leads builder blueprint host entry raised) :
    ∃ failures, (construct builder blueprint host).result =
      .error (.construction blueprint.name.text failures) ∧ entry ∈ failures := by
  cases leads with
  | list _ reported => exact ⟨_, reported, List.mem_singleton_self _⟩
  | create _ _ reported => exact ⟨_, reported, List.mem_singleton_self _⟩
  | deploy _ _ _ reported => exact ⟨_, reported, List.mem_singleton_self _⟩
  | daemon _ _ _ _ reported => exact ⟨_, reported, List.mem_singleton_self _⟩
  | run _ _ _ _ reported => exact ⟨_, reported, List.mem_singleton_self _⟩
  | ofTurn advanced complete member _ reported =>
      have among := List.mem_filterMap.mpr ⟨_, member, reported⟩
      refine ⟨_, ?_, among⟩
      rw [construct_of_complete advanced complete]
      exact verdict_of_failures (List.ne_nil_of_mem among) _

theorem unprovided_leads {failure : Failure}
    (failed : (Provision.ensureNetwork builder.scope blueprint.name.text host).result =
      .error failure) (reported : ReportsOnly builder blueprint host failure) :
    (∃ raised, Leads builder blueprint host failure raised) ∨
      Unprompted builder blueprint host failure := by
  cases Provision.ensure_network_ends builder.scope blueprint.name.text host with
  | unlisted stopped _ _ => exact .inl ⟨_, .list stopped reported⟩
  | reused _ ended _ => cases failed.symm.trans ended
  | refused listed stopped _ _ => exact .inl ⟨_, .create listed stopped reported⟩
  | @answered reply listed replied ended _ =>
      rw [failed, (Provision.accept_reply_apply _ _ _ _).2] at ended
      split at ended
      · rename_i nameless
        exact .inr (.nameless listed replied nameless (Except.error.inj ended))
      · cases ended

theorem down_leads {network : String} {runner : Runner} {server : Instance} {here : Host}
    {failure : Failure} (reaches : Reaches builder blueprint host network runner server here)
    (down : StaysDown builder blueprint network runner server here failure) :
    (∃ raised, Leads builder blueprint host failure raised) ∨
      Unprompted builder blueprint host failure := by
  have reported := reports_of_down reaches down
  cases down with
  | unknown missing => exact .inr (.unknown reaches missing)
  | undeployed known failed _ => exact .inl ⟨_, .deploy reaches known failed reported⟩
  | interrupted known failed _ => exact .inl ⟨_, .deploy reaches known failed reported⟩
  | unfinished known deployed failed =>
      exact .inl ⟨_, .run reaches known deployed failed reported⟩

/-- When all instances are there, a reported failure is that of the turn of one of them. -/
theorem turns_lead {progress : Progress} {runner : Runner} {failures : List Failure}
    {entry : Failure} (advanced : (advance builder blueprint host).result = .ok progress)
    (complete : progress.ending = .complete runner)
    (ended : (construct builder blueprint host).result =
      .error (.construction blueprint.name.text failures)) (member : entry ∈ failures) :
    ∃ raised, Leads builder blueprint host entry raised := by
  rw [construct_of_complete advanced complete] at ended
  by_cases none : (turnsFrom blueprint runner progress.built
      (advance builder blueprint host).state).filterMap (failureOf blueprint runner) = []
  · rw [none] at ended
    obtain ⟨_, single, -⟩ := verdict_without_failures ended
    cases single
  · rw [verdict_of_failures none] at ended
    cases ended
    obtain ⟨turn, taken, reported⟩ := List.mem_filterMap.mp member
    have failed := reported
    rw [failure_of_turn] at failed
    obtain ⟨raised, failed, -⟩ := Option.map_eq_some_iff.mp failed
    exact ⟨raised, .ofTurn advanced complete taken failed reported⟩

theorem settled_without_runner {network : String} {failure : Failure}
    (provided : (Provision.ensureNetwork builder.scope blueprint.name.text host).result =
      .ok network)
    (unmade : (builder.makeRunner blueprint
      (Provision.ensureNetwork builder.scope blueprint.name.text host).state).result =
        .error failure) :
    settledOn builder blueprint host = .error failure := by
  rw [settledOn, prepare, advance, noteBuild]
  simp only [bind_assoc, note_bind_apply, attempt_bind_apply, provided, bind_of_error unmade,
    Except.map]

/-- All that a build reports is led to by what a call raised, but for what it finds out itself. -/
theorem reported_leads {failures : List Failure}
    (ended : (construct builder blueprint host).result =
      .error (.construction blueprint.name.text failures)) :
    ∀ entry ∈ failures, (∃ raised, Leads builder blueprint host entry raised) ∨
      Unprompted builder blueprint host entry := by
  have only {failure : Failure} (reported : ReportsOnly builder blueprint host failure) :
      failures = [failure] := by
    simpa using ended.symm.trans reported
  intro entry member
  cases provided : (Provision.ensureNetwork builder.scope blueprint.name.text host).result with
  | error failure =>
      have whole := ended.symm.trans (construct_of_unprovided provided)
      split at whole
      · rename_i own
        have reported : ReportsOnly builder blueprint host failure := by
          rw [ReportsOnly, construct_of_unprovided provided, if_pos own]
        rw [only reported, List.mem_singleton] at member
        subst member
        exact unprovided_leads provided reported
      · cases whole
  | ok network =>
      cases made : (builder.makeRunner blueprint
          (Provision.ensureNetwork builder.scope blueprint.name.text host).state).result with
      | error failure =>
          rw [construct_result, settled_without_runner provided made, verdict_of_error] at ended
          cases ended
      | ok runner =>
          obtain ⟨built, all⟩ | ⟨before, server, rest, here, failure, instances, up, down⟩ :=
            construct_until_failure_cases builder blueprint network runner blueprint.instances
              (builder.makeRunner blueprint
                (Provision.ensureNetwork builder.scope blueprint.name.text host).state).state
          · exact .inl (turns_lead ((advance_of_runner provided made).trans all) rfl ended member)
          · have reaches : Reaches builder blueprint host network runner server here :=
              ⟨provided, made, before, rest, instances, up⟩
            rw [only (reports_of_down reaches down), List.mem_singleton] at member
            subst member
            exact down_leads reaches down

/-- What a build reports of the failures that its calls raise. -/
structure CausesKept (builder : Builder) (blueprint : Blueprint) (host : Host) : Prop where
  reported : ∀ entry raised, Leads builder blueprint host entry raised →
    ∃ failures, (construct builder blueprint host).result =
      .error (.construction blueprint.name.text failures) ∧ entry ∈ failures
  /-- Nothing else is reported, but for what a build finds out without a failure. -/
  prompted : ∀ failures, (construct builder blueprint host).result =
      .error (.construction blueprint.name.text failures) →
    ∀ entry ∈ failures, (∃ raised, Leads builder blueprint host entry raised) ∨
      Unprompted builder blueprint host entry
  /-- What was raised is reported as it is or kept as the cause, unless a runner could not be asked
  for what it captured and that did not fail in the words of a commit. -/
  kept : ∀ entry raised, Leads builder blueprint host entry raised →
    (entry.Keeps raised.failure ↔
      (raised.call.collects = true → raised.failure.stage = some .commit))
  /-- In that case only the message is reported. -/
  lost : ∀ entry raised, Leads builder blueprint host entry raised →
    raised.call.collects = true → raised.failure.stage ≠ some .commit →
      ∃ context, entry = .labels context raised.failure.message

/-- A build keeps the causes of all that it reports, but for captures that cannot be collected. -/
theorem build_keeps_causes (builder : Builder) (blueprint : Blueprint) (host : Host) :
    CausesKept builder blueprint host where
  reported _ _ := leads_reported
  prompted _ := reported_leads
  kept _ _ := leads_keeps_iff
  lost _ _ := leads_loses

/-! ### A cause that is lost -/

/-- A build that reports a failed commit has all its instances. -/
theorem complete_of_commit_failure {network : String} {runner : Runner} {entry : Failure}
    (provided : (Provision.ensureNetwork builder.scope blueprint.name.text host).result =
      .ok network)
    (made : (builder.makeRunner blueprint
      (Provision.ensureNetwork builder.scope blueprint.name.text host).state).result = .ok runner)
    (reported : ReportsOnly builder blueprint host entry) (stage : entry.stage = some .commit) :
    ∃ built, (advance builder blueprint host).result = .ok ⟨built, .complete runner⟩ := by
  obtain ⟨built, all⟩ | ⟨before, server, rest, here, failure, instances, up, down⟩ :=
    construct_until_failure_cases builder blueprint network runner blueprint.instances
      (builder.makeRunner blueprint
        (Provision.ensureNetwork builder.scope blueprint.name.text host).state).state
  · exact ⟨built, (advance_of_runner provided made).trans all⟩
  · have reaches : Reaches builder blueprint host network runner server here :=
      ⟨provided, made, before, rest, instances, up⟩
    obtain rfl := reported.unique (reports_of_down reaches down)
    rcases down.stage with other | other
    · cases stage.symm.trans other
    · cases stage.symm.trans other

/-- A runner that cannot tell the credentials of `hs1`. -/
def silentScript : RunnerScript :=
  { RunnerScript.quiet with credentialFailures := [("hs1", .outside .runtime "boom" none)] }

def silentBuilder : Builder :=
  deployingBuilder { Config.usual with baseImage := "img" } silentScript

theorem silent_builder_reports : ReportsOnly silentBuilder Blueprint.pair (Host.fresh ∅)
    (.labels "default.bp.hs1" "boom") := by
  rw [ReportsOnly]
  decide +kernel

/-- A turn in which the credentials of `hs1` cannot be collected. -/
def silentTurn (turn : Construction × Host) : Bool :=
  decide (failedCall Blueprint.pair silentScript.runner turn.1 turn.2 =
      some ⟨.credentials "hs1", .outside .runtime "boom" none⟩ ∧
    failureOf Blueprint.pair silentScript.runner turn = some (.labels "default.bp.hs1" "boom"))

theorem silent_builder_turns :
    (advance silentBuilder Blueprint.pair (Host.fresh ∅)).result.toOption.any (fun progress =>
      (turnsFrom Blueprint.pair silentScript.runner progress.built
        (advance silentBuilder Blueprint.pair (Host.fresh ∅)).state).any silentTurn) = true := by
  decide +kernel

/-- Both servers come up, and then the credentials of the first cannot be collected. -/
theorem silent_credentials_lead :
    Leads silentBuilder Blueprint.pair (Host.fresh ∅) (.labels "default.bp.hs1" "boom")
      ⟨.credentials "hs1", .outside .runtime "boom" none⟩ := by
  have provided : (Provision.ensureNetwork silentBuilder.scope Blueprint.pair.name.text
      (Host.fresh ∅)).result = .ok "commander_default_bp" := by
    decide +kernel
  have made : (silentBuilder.makeRunner Blueprint.pair
      (Provision.ensureNetwork silentBuilder.scope Blueprint.pair.name.text
        (Host.fresh ∅)).state).result = .ok silentScript.runner := rfl
  obtain ⟨built, advanced⟩ :=
    complete_of_commit_failure provided made silent_builder_reports rfl
  have found := silent_builder_turns
  rw [advanced] at found
  change (turnsFrom Blueprint.pair silentScript.runner built _).any silentTurn = true at found
  obtain ⟨turn, member, shown⟩ := List.any_eq_true.mp found
  obtain ⟨failed, own⟩ := of_decide_eq_true shown
  exact .ofTurn advanced rfl member failed own

/-- So not every raised failure is kept as the cause of what it leads to. -/
theorem silent_credentials_lose_cause : ¬∀ (builder : Builder) (blueprint : Blueprint)
    (host : Host) (entry : Failure) (raised : Raised),
    Leads builder blueprint host entry raised → entry.Keeps raised.failure := by
  intro claimed
  rcases claimed _ _ _ _ _ silent_credentials_lead with same | kept
  · cases same
  · cases kept

end Builder

end FixtureImages
