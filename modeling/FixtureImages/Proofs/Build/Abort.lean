import FixtureImages.Proofs.Build.Cache
import FixtureImages.Proofs.Build.Images
import FixtureImages.Proofs.Build.Instance
import FixtureImages.Proofs.Build.Watched

/-!
# Builds that are aborted

A build ends with its first failure: when no network can be provided no collaborator is called at
all, and when an instance cannot be deployed or set up no later one is tried. Either way that one
failure is reported, and nothing is stopped or committed.
-/

namespace FixtureImages

set_option autoImplicit false

open Action

variable {Problem : Type}

/-- A call to a collaborator. -/
def Call.isDelegated : Call → Bool
  | .makeRunner _ | .run .. | .credentials _ | .devices _ | .deploy _ => true
  | _ => false

/-- A call by which an instance is frozen into an image. -/
def Call.freezes : Call → Bool
  | .stop .. | .commit .. => true
  | _ => false

/-- A call that reaches no collaborator and freezes nothing. -/
def Call.Plain (made : Call) : Prop := made.isDelegated = false ∧ made.freezes = false

namespace Builder

variable {builder : Builder} {blueprint : Blueprint}

/-! ## After the last construction -/

/-- What a build does with its containers once it came so far: the failures. -/
def wind (blueprint : Blueprint) (progress : Progress) : HostAction Failure (List Failure) := do
  let failures ← settle blueprint progress
  releaseAll progress.built.reverse
  return failures

/-- All that a build does once it came so far. -/
def finish (builder : Builder) (blueprint : Blueprint) (progress : Progress) :
    HostAction BuildFailure (List String) := do
  let settled ← attempt (wind blueprint progress)
  let concluded ← attempt (conclude builder blueprint settled)
  let _ ← Provision.removeNetworks builder.scope blueprint.name.text
  report blueprint concluded

theorem build_eq (host : Host) :
    let constructed := constructAll builder blueprint host
    let concluded := conclude builder blueprint constructed.result constructed.state
    build builder blueprint host =
      ⟨concluded.result, concluded.state, constructed.trace ++ concluded.trace⟩ := by
  intro constructed concluded
  rw [build, bind_apply]
  cases settled : (constructAll builder blueprint host).result with
  | error failure => simp [mapFailure, concluded, constructed, conclude, settled]
  | ok failures => simp [mapFailure, concluded, constructed, conclude, settled]

theorem construct_of_advance {host : Host} {progress : Progress}
    (advanced : (advance builder blueprint host).result = .ok progress) :
    let start := advance builder blueprint host
    let finished := finish builder blueprint progress start.state
    construct builder blueprint host =
      ⟨finished.result, finished.state, start.trace ++ finished.trace⟩ := by
  intro start finished
  have regrouped : constructAll builder blueprint =
      advance builder blueprint >>= wind blueprint := by
    simp only [construct_all_eq, prepare, bind_assoc, pure_bind]
    rfl
  rw [construct, attempt_bind_apply, build_eq, regrouped, bind_of_ok advanced]
  simp only [finished, finish, attempt_bind_apply, List.append_assoc]
  rfl

/-- A build came to a failure before all its instances were there. -/
def Progress.AbortedBy (progress : Progress) (failure : Failure) : Prop :=
  progress.ending = .refused failure ∨
    ∃ construction, progress.ending = .stopped construction failure

section

variable {progress : Progress} {failure : Failure} (aborted : progress.AbortedBy failure)

include aborted

theorem settle_aborted (host : Host) :
    (settle blueprint progress host : Outcome Host Event Problem (List Failure)).result =
      .ok [failure] := by
  rw [settle]
  obtain refused | ⟨construction, stopped⟩ := aborted
  · rw [refused]
    rfl
  · obtain ⟨_, discarded⟩ := @succeeds_discard Problem construction host
    simp [-bind_pure_comp, stopped, bind_of_ok discarded, pure_apply]

theorem construct_aborted_result {host : Host}
    (advanced : (advance builder blueprint host).result = .ok progress) :
    (construct builder blueprint host).result =
      .error (.construction blueprint.name.text [failure]) := by
  obtain ⟨failures, settled, prepared⟩ := prepare_apply advanced
  rw [settle_aborted aborted] at settled
  cases settled
  rw [construct_result, settledOn, prepared]
  exact verdict_of_failures (List.cons_ne_nil _ _) _

variable (builder blueprint) in
theorem finish_lawful {law : HostLaw} (reclaims : law.AdmitsReclaiming) (waits : law.AdmitsWaiting)
    (networks : law.AdmitsNetworks) : law.holds (finish builder blueprint progress) := by
  have settles : law.holds (settle blueprint progress : HostAction Failure (List Failure)) := by
    rw [settle]
    obtain refused | ⟨construction, stopped⟩ := aborted
    · rw [refused]
      exact law.pure _
    · rw [stopped]
      exact law.bind (discard_lawful fun _ => reclaims.of _) fun _ => law.pure _
  have winds : law.holds (wind blueprint progress) :=
    law.bind settles fun _ => law.bind (release_all_lawful fun _ _ => reclaims.of _) fun _ =>
      law.pure _
  exact law.bind (law.attempt winds) fun settled =>
    law.bind (law.attempt (conclude_lawful waits builder blueprint settled)) fun concluded =>
      law.bind (remove_networks_lawful networks.removal _ _) fun _ =>
        report_lawful blueprint concluded

end

/-! ## The first failure -/

section

variable (builder blueprint) (network : String) (runner : Runner)

/-- What the deployer of a build is asked for an instance. -/
def requestFor (server : Instance) : DeployRequest :=
  deployRequestFor server blueprint.name.text network builder.config

/-- The host on which a deployment of an instance leaves the set-up. -/
def deployedHost (server : Instance) (host : Host) : Host :=
  (builder.deployer (requestFor builder blueprint network server) host).state

/-- Instances come up one after the other between two hosts: for each of them a base image is known,
it is deployed, and its set-up runs. They are listed with the addresses of their deployments. -/
inductive ComeUp : List (Instance × String) → Host → Host → Prop
  | none {host : Host} : ComeUp [] host host
  | next {server : Instance} {deployment : Deployment} {rest : List (Instance × String)}
      {host last : Host} (known : (baseImageOf server builder.config).isEmpty = false)
      (deployed : (builder.deployer (requestFor builder blueprint network server) host).result =
        .ok deployment)
      (ran : (runner.run server deployment.baseUrl
        (deployedHost builder blueprint network server host)).result = .ok ())
      (others : ComeUp rest (runner.run server deployment.baseUrl
        (deployedHost builder blueprint network server host)).state last) :
      ComeUp ((server, deployment.baseUrl) :: rest) host last

/-- An instance does not come up on a host: no base image is known for it, it is not deployed, or
its set-up does not run. With it goes the failure to report. -/
inductive StaysDown (server : Instance) (host : Host) : Failure → Prop
  | unknown (missing : (baseImageOf server builder.config).isEmpty = true) :
      StaysDown server host
        (.noBaseImage (contextOf builder.scope blueprint.name.text server.name.text))
  | undeployed {failure : Failure} (known : (baseImageOf server builder.config).isEmpty = false)
      (failed : (builder.deployer (requestFor builder blueprint network server) host).result =
        .error failure)
      (own : failure.stage = some .deployment) : StaysDown server host failure
  | interrupted {failure : Failure}
      (known : (baseImageOf server builder.config).isEmpty = false)
      (failed : (builder.deployer (requestFor builder blueprint network server) host).result =
        .error failure)
      (foreign : failure.stage ≠ some .deployment) :
      StaysDown server host
        (.deployment (contextOf builder.scope blueprint.name.text server.name.text) failure)
  | unfinished {deployment : Deployment} {failure : Failure}
      (known : (baseImageOf server builder.config).isEmpty = false)
      (deployed : (builder.deployer (requestFor builder blueprint network server) host).result =
        .ok deployment)
      (failed : (runner.run server deployment.baseUrl
        (deployedHost builder blueprint network server host)).result = .error failure) :
      StaysDown server host
        (.setup (contextOf builder.scope blueprint.name.text server.name.text) failure)

/-- The calls to collaborators for an instance that comes up at an address. -/
def callsUp (up : Instance × String) : List Call :=
  [.deploy (requestFor builder blueprint network up.1), .run up.1.name.text up.2 up.1.steps]

/-- The calls to collaborators for an instance that is tried on a host: it is deployed if a base
image is known for it, and it is set up if it was deployed. -/
def callsFor (server : Instance) (host : Host) : List Call :=
  if (baseImageOf server builder.config).isEmpty then []
  else .deploy (requestFor builder blueprint network server) ::
    match (builder.deployer (requestFor builder blueprint network server) host).result with
    | .error _ => []
    | .ok deployment => [.run server.name.text deployment.baseUrl server.steps]

end

section

variable (Problem) {network : String} {runner : Runner} {server : Instance} {host : Host}

theorem construct_instance_up {deployment : Deployment}
    (known : (baseImageOf server builder.config).isEmpty = false)
    (deployed : (builder.deployer (requestFor builder blueprint network server) host).result =
      .ok deployment)
    (ran : (runner.run server deployment.baseUrl
      (deployedHost builder blueprint network server host)).result = .ok ()) :
    let outcome : Outcome Host Event Problem Construction :=
      constructInstance server blueprint.name.text network builder.config
        builder.watched.deployer runner.watched host
    ∃ construction, outcome.result = .ok construction ∧ construction.failure = none ∧
      outcome.state = (runner.run server deployment.baseUrl
        (deployedHost builder blueprint network server host)).state ∧
      callsOf outcome.trace = callsUp builder blueprint network (server, deployment.baseUrl) := by
  simp only [callsUp, deployedHost] at ran ⊢
  generalize same : requestFor builder blueprint network server = request at *
  rw [requestFor, deployRequestFor] at same
  simp only [constructInstance, noteInstance, note_bind_apply, known, Bool.false_eq_true, if_false,
    attempt_bind_apply, same, watched, asCall, deployed, setUpInstance, Runner.watched, ran]
  exact ⟨_, rfl, rfl, rfl, rfl⟩

theorem construct_instance_undeployed {failure : Failure}
    (known : (baseImageOf server builder.config).isEmpty = false)
    (failed : (builder.deployer (requestFor builder blueprint network server) host).result =
      .error failure) :
    let outcome : Outcome Host Event Problem Construction :=
      constructInstance server blueprint.name.text network builder.config
        builder.watched.deployer runner.watched host
    ∃ started : Construction,
      started.context = contextOf builder.scope blueprint.name.text server.name.text ∧
        outcome.result = .ok (started.failDeployment failure) ∧
        callsOf outcome.trace = callsFor builder blueprint network server host := by
  simp only [callsFor]
  generalize same : requestFor builder blueprint network server = request at *
  rw [requestFor, deployRequestFor] at same
  simp only [constructInstance, noteInstance, note_bind_apply, known, Bool.false_eq_true, if_false,
    attempt_bind_apply, same, watched, asCall, failed]
  exact ⟨_, rfl, rfl, rfl⟩

theorem construct_instance_down {failure : Failure}
    (down : StaysDown builder blueprint network runner server host failure) :
    let outcome : Outcome Host Event Problem Construction :=
      constructInstance server blueprint.name.text network builder.config
        builder.watched.deployer runner.watched host
    ∃ construction, outcome.result = .ok construction ∧ construction.failure = some failure ∧
      callsOf outcome.trace = callsFor builder blueprint network server host := by
  cases down with
  | unknown missing =>
      simp only [constructInstance, noteInstance, note_bind_apply, callsFor, missing, if_true]
      exact ⟨_, rfl, rfl, rfl⟩
  | undeployed known failed own =>
      obtain ⟨started, -, result, calls⟩ := construct_instance_undeployed Problem known failed
      exact ⟨_, result, by simp [Construction.failDeployment, own], calls⟩
  | interrupted known failed foreign =>
      obtain ⟨started, context, result, calls⟩ := construct_instance_undeployed Problem known failed
      exact ⟨_, result, by simp [Construction.failDeployment, foreign, context], calls⟩
  | unfinished known deployed failed =>
      simp only [callsFor, deployedHost] at failed ⊢
      generalize same : requestFor builder blueprint network server = request at *
      rw [requestFor, deployRequestFor] at same
      simp only [constructInstance, noteInstance, note_bind_apply, known, Bool.false_eq_true,
        if_false, attempt_bind_apply, same, watched, asCall, deployed, setUpInstance,
        Runner.watched, failed]
      exact ⟨_, rfl, rfl, rfl⟩

/-- The instances before the first that stays down come up, and no later one is tried. -/
theorem construct_until_failure_down {before : List (Instance × String)} {here : Host}
    {failure : Failure} (up : ComeUp builder blueprint network runner before host here)
    (down : StaysDown builder blueprint network runner server here failure)
    (rest : List Instance) :
    let outcome : Outcome Host Event Problem Progress :=
      constructUntilFailure builder.watched blueprint network runner.watched
        (before.map Prod.fst ++ server :: rest) host
    ∃ progress, outcome.result = .ok progress ∧ progress.AbortedBy failure ∧
      callsOf outcome.trace = before.flatMap (callsUp builder blueprint network) ++
        callsFor builder blueprint network server here := by
  induction up with
  | none =>
      obtain ⟨construction, result, failed, calls⟩ :=
        construct_instance_down Problem down
      simp only [List.map_nil, List.nil_append, List.flatMap_nil, constructUntilFailure,
        watched_config, bind_of_ok result, failed, pure_apply, List.append_nil]
      exact ⟨_, rfl, .inr ⟨construction, rfl⟩, calls⟩
  | next known deployed ran others ih =>
      obtain ⟨construction, result, succeeded, state, calls⟩ :=
        construct_instance_up Problem known deployed ran
      obtain ⟨progress, later, aborted, laterCalls⟩ := ih down
      rw [← state] at later laterCalls
      simp only [List.map_cons, List.cons_append, constructUntilFailure, watched_config,
        bind_of_ok result, succeeded, bind_of_ok later, pure_apply, List.append_nil,
        calls_of_append, calls, laterCalls, List.flatMap_cons, List.append_assoc]
      exact ⟨_, rfl, aborted, trivial⟩

end

theorem StaysDown.stage {network : String} {runner : Runner} {server : Instance} {here : Host}
    {failure : Failure} (down : StaysDown builder blueprint network runner server here failure) :
    failure.stage = some .deployment ∨ failure.stage = some .setup := by
  cases down with
  | unknown missing => exact .inl rfl
  | undeployed known failed own => exact .inl own
  | interrupted known failed foreign => exact .inl rfl
  | unfinished known deployed failed => exact .inr rfl

theorem construct_instance_cases (builder : Builder) (blueprint : Blueprint) (network : String)
    (runner : Runner) (server : Instance) (here : Host) :
    (∃ deployment : Deployment, (baseImageOf server builder.config).isEmpty = false ∧
      (builder.deployer (requestFor builder blueprint network server) here).result =
        .ok deployment ∧
      (runner.run server deployment.baseUrl
        (deployedHost builder blueprint network server here)).result = .ok ()) ∨
      ∃ failure, StaysDown builder blueprint network runner server here failure := by
  cases known : (baseImageOf server builder.config).isEmpty with
  | true => exact .inr ⟨_, .unknown known⟩
  | false =>
      cases deployed :
          (builder.deployer (requestFor builder blueprint network server) here).result with
      | error failure =>
          by_cases own : failure.stage = some .deployment
          · exact .inr ⟨_, .undeployed known deployed own⟩
          · exact .inr ⟨_, .interrupted known deployed own⟩
      | ok deployment =>
          cases ran : (runner.run server deployment.baseUrl
              (deployedHost builder blueprint network server here)).result with
          | error failure => exact .inr ⟨_, .unfinished known deployed ran⟩
          | ok _ => exact .inl ⟨deployment, rfl, rfl, ran⟩

/-- Either all instances come up, or all before one that stays down. -/
theorem construct_until_failure_cases (builder : Builder) (blueprint : Blueprint)
    (network : String) (runner : Runner) (servers : List Instance) (host : Host) :
    (∃ built, (constructUntilFailure builder blueprint network runner servers host :
        Outcome Host Event Failure Progress).result = .ok ⟨built, .complete runner⟩) ∨
      ∃ before server rest here failure, servers = before.map Prod.fst ++ server :: rest ∧
        ComeUp builder blueprint network runner before host here ∧
        StaysDown builder blueprint network runner server here failure := by
  induction servers generalizing host with
  | nil => exact .inl ⟨[], rfl⟩
  | cons server rest ih =>
      obtain ⟨deployment, known, deployed, ran⟩ | ⟨failure, down⟩ :=
        construct_instance_cases builder blueprint network runner server host
      · obtain ⟨construction, result, succeeded, state, -⟩ :=
          construct_instance_up Failure known deployed ran
        have same := @construct_instance_watched Failure builder blueprint network runner server
        rw [same.result] at result
        rw [same.state] at state
        obtain ⟨built, later⟩ | ⟨before, next, others, here, failure, split, up, down⟩ :=
          ih (runner.run server deployment.baseUrl
            (deployedHost builder blueprint network server host)).state
        · rw [← state] at later
          refine .inl ⟨construction :: built, ?_⟩
          simp only [constructUntilFailure, bind_of_ok result, succeeded, bind_of_ok later,
            pure_apply]
        · refine .inr ⟨(server, deployment.baseUrl) :: before, next, others, here, failure, ?_,
            .next known deployed ran up, down⟩
          rw [split]
          rfl
      · exact .inr ⟨[], server, rest, host, failure, rfl, .none, down⟩

/-- The first failure of a build on a host, with the calls to collaborators up to it: the network
cannot be provided, or all instances before one come up and that one stays down. -/
inductive FirstFailure (builder : Builder) (blueprint : Blueprint) (host : Host) :
    Failure → List Call → Prop
  | unprovided {failure : Failure}
      (refused : (Provision.ensureNetwork builder.scope blueprint.name.text host).result =
        .error failure)
      (provisioning : failure.stage = some .provisioning) :
      FirstFailure builder blueprint host failure []
  | down {network : String} {runner : Runner} {before : List (Instance × String)}
      {server : Instance} {rest : List Instance} {here : Host} {failure : Failure}
      (provided : (Provision.ensureNetwork builder.scope blueprint.name.text host).result =
        .ok network)
      (made : (builder.makeRunner blueprint
        (Provision.ensureNetwork builder.scope blueprint.name.text host).state).result = .ok runner)
      (instances : blueprint.instances = before.map Prod.fst ++ server :: rest)
      (up : ComeUp builder blueprint network runner before
        (builder.makeRunner blueprint
          (Provision.ensureNetwork builder.scope blueprint.name.text host).state).state here)
      (down : StaysDown builder blueprint network runner server here failure) :
      FirstFailure builder blueprint host failure
        (.makeRunner blueprint.name.text :: (before.flatMap (callsUp builder blueprint network) ++
          callsFor builder blueprint network server here))

/-- How a build is aborted on a host. The calls are those of the watched build, from which all that
collaborators record of themselves is left out, so they are the ones that the build itself makes. -/
structure Aborts (builder : Builder) (blueprint : Blueprint) (host : Host) (failure : Failure)
    (delegated : List Call) : Prop where
  watched : SameEffect (construct builder.watched blueprint) (construct builder blueprint)
  result : (construct builder blueprint host).result =
    .error (.construction blueprint.name.text [failure])
  delegated : (callsOf (construct builder.watched blueprint host).trace).filter Call.isDelegated =
    delegated
  unfrozen : ∀ made ∈ callsOf (construct builder.watched blueprint host).trace,
    made.freezes = false
  images : builder.CollaboratorsObey (.keeping (.ofView Host.images)) →
    (construct builder blueprint host).state.images = host.images

section

variable {host : Host} {failure : Failure} {delegated : List Call}

theorem provide_calls (scope name : String) (host : Host) :
    ∀ made ∈ callsOf (Provision.ensureNetwork scope name host).trace, made.Plain := by
  have networks : (HostLaw.calling Call.Plain).AdmitsNetworks :=
    HostLaw.calling_networks (fun _ => ⟨rfl, rfl⟩) (fun _ _ _ => ⟨rfl, rfl⟩) fun _ => ⟨rfl, rfl⟩
  exact HostLaw.calling_iff.mp (networks.provides scope name) host

theorem advance_aborted (first : FirstFailure builder blueprint host failure delegated) :
    ∃ progress network, (advance builder.watched blueprint host).result = .ok progress ∧
      progress.AbortedBy failure ∧ (∀ made ∈ network, made.Plain) ∧
      callsOf (advance builder.watched blueprint host).trace = network ++ delegated := by
  have plain := provide_calls builder.scope blueprint.name.text host
  cases first with
  | unprovided refused provisioning =>
      simp only [advance, noteBuild, note_bind_apply, watched_scope, attempt_bind_apply, refused,
        provisioning, if_true, pure_apply, List.append_nil, calls_of_log]
      exact ⟨_, _, rfl, .inl rfl, plain, rfl⟩
  | @down network runner before server rest here _ provided made instances up down =>
      obtain ⟨progress, result, aborted, calls⟩ :=
        construct_until_failure_down Failure up down rest
      simp only [advance, noteBuild, note_bind_apply, watched_scope, attempt_bind_apply, provided,
        bind_of_ok (congrArg Outcome.result (make_runner_watched made)), make_runner_watched made,
        instances, calls_of_log, calls_of_append, calls]
      exact ⟨progress, _, result, aborted, plain, rfl⟩

theorem calls_for_delegated {network : String} {server : Instance} {here : Host} :
    ∀ made ∈ callsFor builder blueprint network server here,
      made.isDelegated = true ∧ made.freezes = false := by
  intro made member
  rw [callsFor] at member
  split at member
  · cases member
  · rcases List.mem_cons.mp member with rfl | later
    · exact ⟨rfl, rfl⟩
    · split at later
      · cases later
      · cases List.mem_singleton.mp later
        exact ⟨rfl, rfl⟩

theorem delegated_calls (first : FirstFailure builder blueprint host failure delegated) :
    ∀ made ∈ delegated, made.isDelegated = true ∧ made.freezes = false := by
  intro made member
  cases first with
  | unprovided => cases member
  | down =>
      simp only [List.mem_cons, List.mem_append, List.mem_flatMap, callsUp, List.mem_nil_iff,
        or_false] at member
      rcases member with rfl | ⟨_, _, rfl | rfl⟩ | last
      · exact ⟨rfl, rfl⟩
      · exact ⟨rfl, rfl⟩
      · exact ⟨rfl, rfl⟩
      · exact calls_for_delegated made last

variable (builder blueprint) in
theorem finish_calls {progress : Progress} (aborted : progress.AbortedBy failure) (start : Host) :
    ∀ made ∈ callsOf (finish builder blueprint progress start).trace, made.Plain := by
  have networks : (HostLaw.calling Call.Plain).AdmitsNetworks :=
    HostLaw.calling_networks (fun _ => ⟨rfl, rfl⟩) (fun _ _ _ => ⟨rfl, rfl⟩) fun _ => ⟨rfl, rfl⟩
  have reclaims : (HostLaw.calling Call.Plain).AdmitsReclaiming :=
    HostLaw.calling_reclaiming (fun _ => ⟨rfl, rfl⟩) (fun _ => ⟨rfl, rfl⟩) (fun _ => ⟨rfl, rfl⟩)
      fun _ => ⟨rfl, rfl⟩
  have waits : (HostLaw.calling Call.Plain).AdmitsWaiting :=
    HostLaw.calling_waiting (fun _ => ⟨rfl, rfl⟩) fun _ => ⟨rfl, rfl⟩
  exact HostLaw.calling_iff.mp (finish_lawful builder blueprint aborted reclaims waits networks) start

/-- A build is aborted at its first failure. -/
theorem construct_aborts (first : FirstFailure builder blueprint host failure delegated) :
    Aborts builder blueprint host failure delegated := by
  obtain ⟨progress, network, advanced, aborted, plain, calls⟩ := advance_aborted first
  have watched := construct_watched builder blueprint
  have made : callsOf (construct builder.watched blueprint host).trace =
      network ++ delegated ++ callsOf (finish builder.watched blueprint progress
        (advance builder.watched blueprint host).state).trace := by
    rw [construct_of_advance advanced, calls_of_append, calls]
  have after := finish_calls builder.watched blueprint aborted
    (advance builder.watched blueprint host).state
  have between := delegated_calls first
  refine ⟨watched, ?_, ?_, ?_, ?_⟩
  · rw [← watched.result]
    exact construct_aborted_result aborted advanced
  · have early : network.filter Call.isDelegated = [] := by
      simpa using fun call member => (plain call member).1
    have late : (callsOf (finish builder.watched blueprint progress
        (advance builder.watched blueprint host).state).trace).filter Call.isDelegated = [] := by
      simpa using fun call member => (after call member).1
    have all : delegated.filter Call.isDelegated = delegated :=
      List.filter_eq_self.mpr fun call member => (between call member).1
    rw [made, List.filter_append, List.filter_append, early, all, late]
    simp
  · intro call member
    rw [made, List.mem_append, List.mem_append] at member
    rcases member with (early | delegating) | late
    · exact (plain call early).2
    · exact (between call delegating).2
    · exact (after call late).2
  · intro obeys
    have minds : (Frame.ofView Host.images).MindsImages := ⟨fun images _ _ _ => images⟩
    have advances := advance_lawful minds.networks.provides (watched_obeys obeys) blueprint host
    have finishes := finish_lawful builder.watched blueprint aborted
      minds.reclaiming minds.waiting minds.networks (advance builder.watched blueprint host).state
    rw [← watched.state, construct_of_advance advanced]
    exact finishes.trans advances

end

/-- A runner that cannot set up `hs2`. -/
def haltingScript : RunnerScript :=
  { RunnerScript.quiet with runFailures := [("hs2", .outside .runtime "boom" none)] }

def haltingBuilder : Builder :=
  deployingBuilder { Config.usual with baseImage := "img" } haltingScript

/-- The build of both servers is aborted when the second one is set up. -/
theorem construct_aborts_at_second :
    let second : Instance := ⟨⟨"hs2", by decide⟩, none, [], []⟩
    let first : Instance := ⟨⟨"hs1", by decide⟩, none, [], []⟩
    let request := requestFor haltingBuilder Blueprint.pair "commander_default_bp"
    let failure : Failure := .setup "default.bp.hs2" (.outside .runtime "boom" none)
    let delegated : List Call :=
      [.makeRunner "bp", .deploy (request first), .run "hs1" "http://127.0.0.1:32768" [],
        .deploy (request second), .run "hs2" "http://127.0.0.1:32770" []]
    FirstFailure haltingBuilder Blueprint.pair (Host.fresh ∅) failure delegated ∧
      Aborts haltingBuilder Blueprint.pair (Host.fresh ∅) failure delegated := by
  intro second first request failure delegated
  let start := (haltingBuilder.makeRunner Blueprint.pair
    (Provision.ensureNetwork "default" "bp" (Host.fresh ∅)).state).state
  let here := (haltingScript.runner.run first "http://127.0.0.1:32768"
    (deployedHost haltingBuilder Blueprint.pair "commander_default_bp" first start)).state
  have deployed : (haltingBuilder.deployer (request first) start).result = .ok
      ⟨"000000000002c0de", "http://127.0.0.1:32768", "https://127.0.0.1:32769", ∅, ∅, ∅⟩ := by
    decide +kernel
  have up : ComeUp haltingBuilder Blueprint.pair "commander_default_bp" haltingScript.runner
      [(first, "http://127.0.0.1:32768")] start here :=
    .next (by decide) deployed (by decide +kernel) .none
  have deployedNext : (haltingBuilder.deployer (request second) here).result = .ok
      ⟨"000000000003c0de", "http://127.0.0.1:32770", "https://127.0.0.1:32771", ∅, ∅, ∅⟩ := by
    decide +kernel
  have down : StaysDown haltingBuilder Blueprint.pair "commander_default_bp" haltingScript.runner
      second here failure := .unfinished (by decide) deployedNext (by decide +kernel)
  have last : callsFor haltingBuilder Blueprint.pair "commander_default_bp" second here =
      [.deploy (request second), .run "hs2" "http://127.0.0.1:32770" []] := by decide +kernel
  have halted : FirstFailure haltingBuilder Blueprint.pair (Host.fresh ∅) failure delegated := by
    have reached := FirstFailure.down (by decide +kernel) rfl rfl up down
    rwa [last] at reached
  exact ⟨halted, construct_aborts halted⟩

end Builder

end FixtureImages
