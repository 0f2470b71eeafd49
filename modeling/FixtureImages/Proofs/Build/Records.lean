import FixtureImages.Proofs.Build.Services

/-!
# Records of constructions

The construction of an instance never fails: it attempts the deployment and the set-up, and a
failure of either is put into the record that it leaves. There are four ways it can go, and the
record tells them apart. What the builder needs of it most is the container, which has to be known
whenever one may have been started.
-/

namespace FixtureImages

set_option autoImplicit false

open Action

variable {Problem : Type}

/-- A runner is asked to run the set-up of an instance. -/
def Call.isRun : Call → Bool
  | .run .. => true
  | _ => false

namespace Construction

section

variable (server : Instance) (blueprint network : String) (config : Config)

/-- The record that a construction begins with. -/
def started : Construction :=
  { server, context := contextOf config.scope.text blueprint server.name.text
    scope := config.scope.text, containerId := some "", baseUrl := "", failure := none }

/-- The record of an instance that was deployed. -/
def deployed (deployment : Deployment) : Construction :=
  { started server blueprint config with
    containerId := some deployment.containerId
    baseUrl := deployment.baseUrl }

variable (deployer : Deployer) (runner : Runner) (host : Host)

/-- How the deployment of an instance ends. There is none if no base image is known. -/
def deploymentOf : Option (Except Failure Deployment) :=
  if (baseImageOf server config).isEmpty then none
  else some (deployer (deployRequestFor server blueprint network config) host).result

/-- How the set-up ends that follows a deployment. -/
def setUpOf (deployment : Deployment) : Except Failure Unit :=
  (runner.run server deployment.baseUrl
    (deployer (deployRequestFor server blueprint network config) host).state).result

/-- The ways of a construction: the record that it leaves, and the calls that it makes to
collaborators. -/
inductive Goes : Construction → List Call → Prop
  | unconfigured (undeployed : deploymentOf server blueprint network config deployer host = none) :
      Goes
        { started server blueprint config with
          failure := some
            (.noBaseImage (contextOf config.scope.text blueprint server.name.text)) }
        []
  | undeployed {failure : Failure}
      (failed : deploymentOf server blueprint network config deployer host =
        some (.error failure)) :
      Goes ((started server blueprint config).failDeployment failure)
        [.deploy (deployRequestFor server blueprint network config)]
  | unfinished {deployment : Deployment} {failure : Failure}
      (returned : deploymentOf server blueprint network config deployer host =
        some (.ok deployment))
      (failed : setUpOf server blueprint network config deployer runner host deployment =
        .error failure) :
      Goes
        { deployed server blueprint config deployment with
          failure := some
            (.setup (contextOf config.scope.text blueprint server.name.text) failure) }
        [.deploy (deployRequestFor server blueprint network config),
          .run server.name.text deployment.baseUrl server.steps]
  | finished {deployment : Deployment}
      (returned : deploymentOf server blueprint network config deployer host =
        some (.ok deployment))
      (ran : setUpOf server blueprint network config deployer runner host deployment = .ok ()) :
      Goes (deployed server blueprint config deployment)
        [.deploy (deployRequestFor server blueprint network config),
          .run server.name.text deployment.baseUrl server.steps]

/-- What the record of a construction, and its calls to collaborators, tell about it. -/
structure Tells (construction : Construction) (calls : List Call) : Prop where
  /-- The record is free of failures if and only if there was a base image to deploy, the deployment
  returned, and the set-up did. -/
  succeeds : construction.failure = none ↔
    baseImageOf server config ≠ "" ∧ ∃ deployment,
      (deployer (deployRequestFor server blueprint network config) host).result = .ok deployment ∧
      setUpOf server blueprint network config deployer runner host deployment = .ok ()
  /-- The set-up is run once after a deployment that returned. -/
  runs : ∀ deployment,
    deploymentOf server blueprint network config deployer host = some (.ok deployment) →
    calls.filter Call.isRun = [.run server.name.text deployment.baseUrl server.steps]
  /-- It is not run otherwise, and the failure is one of deployment then. -/
  rests :
    (∀ deployment,
      deploymentOf server blueprint network config deployer host ≠ some (.ok deployment)) →
    calls.filter Call.isRun = [] ∧
      ∃ failure, construction.failure = some failure ∧ failure.stage = some .deployment
  /-- What a deployer raises is the failure if it is one of deployment, and its cause if not. -/
  keepsDeployment : ∀ raised,
    deploymentOf server blueprint network config deployer host = some (.error raised) →
    ∃ failure, construction.failure = some failure ∧
      (raised.stage = some .deployment → failure = raised) ∧
      (raised.stage ≠ some .deployment → failure.cause = some raised)
  /-- What a runner raises is the cause of a failure of set-up. -/
  keepsSetUp : ∀ deployment raised,
    deploymentOf server blueprint network config deployer host = some (.ok deployment) →
    setUpOf server blueprint network config deployer runner host deployment = .error raised →
    ∃ failure, construction.failure = some failure ∧ failure.stage = some .setup ∧
      failure.cause = some raised
  /-- The container is the one that was deployed. -/
  deployedContainer : ∀ deployment,
    deploymentOf server blueprint network config deployer host = some (.ok deployment) →
    construction.containerId = some deployment.containerId
  /-- If none was, it is the one that the deployer's failure names. -/
  namedContainer : ∀ raised,
    deploymentOf server blueprint network config deployer host = some (.error raised) →
    raised.containerId ≠ "" → construction.containerId = some raised.containerId
  /-- If that names none, there is none. -/
  noContainer :
    (∀ deployment,
      deploymentOf server blueprint network config deployer host ≠ some (.ok deployment)) →
    (∀ raised, deploymentOf server blueprint network config deployer host = some (.error raised) →
      raised.containerId = "") →
    construction.containerId = some "" ∨ construction.containerId = none

end

section

variable {server : Instance} {blueprint network : String} {config : Config} {deployer : Deployer}
  {runner : Runner} {host : Host} {construction : Construction} {calls : List Call}

/-- A construction goes one of its ways, whatever its collaborators do. -/
theorem construct_instance_goes (server : Instance) (blueprint network : String) (config : Config)
    (deployer : Deployer) (runner : Runner) (host : Host) :
    ∃ construction,
      (constructInstance server blueprint network config deployer runner host :
        Outcome Host Event Problem Construction).result = .ok construction ∧
      Goes server blueprint network config deployer runner host construction
        (callsOf (constructInstance server blueprint network config deployer.watched
          runner.watched host : Outcome Host Event Problem Construction).trace) := by
  generalize same : deployRequestFor server blueprint network config = request
  have asked := same
  rw [deployRequestFor] at asked
  simp only [constructInstance, noteInstance, note_bind_apply, asked]
  cases known : (baseImageOf server config).isEmpty with
  | true => exact ⟨_, rfl, .unconfigured (by rw [deploymentOf, if_pos known])⟩
  | false =>
      have ends : deploymentOf server blueprint network config deployer host =
          some (deployer request host).result := by
        rw [deploymentOf, known, same]
        rfl
      simp only [Bool.false_eq_true, if_false, attempt_bind_apply, Deployer.watched, asCall]
      cases outcome : (deployer request host).result with
      | error failure =>
          rw [outcome] at ends
          subst same
          exact ⟨_, rfl, .undeployed ends⟩
      | ok deployment =>
          rw [outcome] at ends
          have setUp : setUpOf server blueprint network config deployer runner host deployment =
              (runner.run server deployment.baseUrl (deployer request host).state).result := by
            rw [setUpOf, same]
          simp only [note_bind_apply, setUpInstance, attempt_bind_apply, Runner.watched, asCall]
          cases ran : (runner.run server deployment.baseUrl
              (deployer request host).state).result with
          | error failure =>
              subst same
              exact ⟨_, rfl, .unfinished ends (setUp.trans ran)⟩
          | ok _ =>
              subst same
              exact ⟨_, rfl, .finished ends (setUp.trans ran)⟩

/-! ## What records tell -/

theorem deployment_of_eq_some_iff {ended : Except Failure Deployment} :
    deploymentOf server blueprint network config deployer host = some ended ↔
      baseImageOf server config ≠ "" ∧
        (deployer (deployRequestFor server blueprint network config) host).result = ended := by
  rw [deploymentOf]
  by_cases missing : baseImageOf server config = "" <;> simp [missing]

theorem fail_deployment_stage (construction : Construction) (raised : Failure) :
    ∃ failure, (construction.failDeployment raised).failure = some failure ∧
      failure.stage = some .deployment ∧
      (raised.stage = some .deployment → failure = raised) ∧
      (raised.stage ≠ some .deployment → failure.cause = some raised) := by
  rw [failDeployment]
  by_cases own : raised.stage = some .deployment
  · rw [if_pos own]
    exact ⟨raised, rfl, own, fun _ => rfl, absurd own⟩
  · rw [if_neg own]
    exact ⟨_, rfl, rfl, fun stage => absurd stage own, fun _ => rfl⟩

theorem fail_deployment_names (construction : Construction) {raised : Failure}
    (named : raised.containerId ≠ "") :
    (construction.failDeployment raised).containerId = some raised.containerId := by
  rw [failDeployment]
  split
  · rw [Failure.containerId] at named ⊢
    generalize raised.container = carried at named
    rcases carried with _ | _ | id
    · exact absurd rfl named
    · exact absurd rfl named
    · rfl
  · rfl

theorem fail_deployment_names_none (construction : Construction) {raised : Failure}
    (silent : raised.containerId = "") :
    (construction.failDeployment raised).containerId = some "" ∨
      (construction.failDeployment raised).containerId = none := by
  rw [failDeployment]
  split
  · rw [Failure.containerId] at silent
    generalize raised.container = carried at silent
    rcases carried with _ | _ | id
    · exact .inl rfl
    · exact .inr rfl
    · exact .inl (congrArg some silent)
  · exact .inl (congrArg some silent)

theorem brought_up_iff :
    (baseImageOf server config ≠ "" ∧ ∃ deployment,
      (deployer (deployRequestFor server blueprint network config) host).result = .ok deployment ∧
      setUpOf server blueprint network config deployer runner host deployment = .ok ()) ↔
      ∃ deployment,
        deploymentOf server blueprint network config deployer host = some (.ok deployment) ∧
        setUpOf server blueprint network config deployer runner host deployment = .ok () := by
  simp only [deployment_of_eq_some_iff, and_assoc, exists_and_left]

/-- Without a deployment that returned, the failure is the deployer's or that no base image is
known. -/
theorem Goes.tells_undeployed
    (none : ∀ deployment,
      deploymentOf server blueprint network config deployer host ≠ some (.ok deployment))
    (goes : Goes server blueprint network config deployer runner host construction calls) :
    Tells server blueprint network config deployer runner host construction calls := by
  have down (deployment : Deployment) (property : Prop)
      (returned : deploymentOf server blueprint network config deployer host =
        some (.ok deployment)) : property := absurd returned (none deployment)
  cases goes with
  | unconfigured missing =>
      have unraised (raised : Failure) (property : Prop)
          (failed : deploymentOf server blueprint network config deployer host =
            some (.error raised)) : property := by
        rw [missing] at failed
        cases failed
      exact
        { succeeds := by simp [brought_up_iff, none]
          runs := fun _ => down _ _
          rests := fun _ => ⟨rfl, _, rfl, rfl⟩
          keepsDeployment := fun _ => unraised _ _
          keepsSetUp := fun _ _ returned => down _ _ returned
          deployedContainer := fun _ => down _ _
          namedContainer := fun _ failed => unraised _ _ failed
          noContainer := fun _ _ => .inl rfl }
  | @undeployed failure failed =>
      have only {raised : Failure} (given : deploymentOf server blueprint network config deployer
          host = some (.error raised)) : raised = failure := by
        rw [failed] at given
        cases given
        rfl
      obtain ⟨reported, kept, stage, own, foreign⟩ :=
        fail_deployment_stage (started server blueprint config) failure
      exact
        { succeeds := by simp [brought_up_iff, none, kept]
          runs := fun _ => down _ _
          rests := fun _ => ⟨rfl, reported, kept, stage⟩
          keepsDeployment := fun _ given => by
            cases only given
            exact ⟨reported, kept, own, foreign⟩
          keepsSetUp := fun _ _ returned => down _ _ returned
          deployedContainer := fun _ => down _ _
          namedContainer := fun _ given named => by
            rw [only given] at named ⊢
            exact fail_deployment_names _ named
          noContainer := fun _ silent => fail_deployment_names_none _ (silent failure failed) }
  | unfinished returned failed => exact down _ _ returned
  | finished returned ran => exact down _ _ returned

/-- After a deployment that returned, the failure is the runner's if there is one. -/
theorem Goes.tells_deployed {deployment : Deployment}
    (returned : deploymentOf server blueprint network config deployer host =
      some (.ok deployment))
    (goes : Goes server blueprint network config deployer runner host construction calls) :
    Tells server blueprint network config deployer runner host construction calls := by
  have only {other : Deployment} (given : deploymentOf server blueprint network config deployer
      host = some (.ok other)) : other = deployment := by
    rw [returned] at given
    cases given
    rfl
  have unraised (raised : Failure) (property : Prop)
      (failed : deploymentOf server blueprint network config deployer host =
        some (.error raised)) : property := by
    rw [returned] at failed
    cases failed
  cases goes with
  | unconfigured missing =>
      rw [returned] at missing
      cases missing
  | undeployed failed => exact unraised _ _ failed
  | @unfinished same failure again failed =>
      cases only again
      have ended {raised : Failure} (given : setUpOf server blueprint network config deployer
          runner host deployment = .error raised) : raised = failure := by
        rw [failed] at given
        cases given
        rfl
      exact
        { succeeds := by simp [brought_up_iff, returned, failed]
          runs := fun _ given => by rw [only given]; rfl
          rests := fun none => absurd returned (none deployment)
          keepsDeployment := fun _ => unraised _ _
          keepsSetUp := fun _ _ given stopped => by
            cases only given
            cases ended stopped
            exact ⟨_, rfl, rfl, rfl⟩
          deployedContainer := fun _ given => by rw [only given]; rfl
          namedContainer := fun _ stopped => unraised _ _ stopped
          noContainer := fun none => absurd returned (none deployment) }
  | @finished same again ran =>
      cases only again
      exact
        { succeeds := by simp [brought_up_iff, returned, ran, deployed, started]
          runs := fun _ given => by rw [only given]; rfl
          rests := fun none => absurd returned (none deployment)
          keepsDeployment := fun _ => unraised _ _
          keepsSetUp := fun _ _ given stopped => by
            cases only given
            rw [ran] at stopped
            cases stopped
          deployedContainer := fun _ given => by rw [only given]; rfl
          namedContainer := fun _ stopped => unraised _ _ stopped
          noContainer := fun none => absurd returned (none deployment) }

/-- The construction of an instance comes to a record, whatever its collaborators do, and the record
tells what they did. -/
theorem construct_instance_recorded (server : Instance) (blueprint network : String)
    (config : Config) (deployer : Deployer) (runner : Runner) (host : Host) :
    ∃ construction,
      (constructInstance server blueprint network config deployer runner host :
        Outcome Host Event Problem Construction).result = .ok construction ∧
      Tells server blueprint network config deployer runner host construction
        (callsOf (constructInstance server blueprint network config deployer.watched
          runner.watched host : Outcome Host Event Problem Construction).trace) := by
  obtain ⟨construction, constructed, goes⟩ :=
    @construct_instance_goes Problem server blueprint network config deployer runner host
  refine ⟨construction, constructed, ?_⟩
  by_cases returned : ∃ deployment,
      deploymentOf server blueprint network config deployer host = some (.ok deployment)
  · obtain ⟨deployment, returned⟩ := returned
    exact goes.tells_deployed returned
  · exact goes.tells_undeployed (not_exists.mp returned)

end

end Construction

end FixtureImages
