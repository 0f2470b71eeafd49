import FixtureImages.Construction
import FixtureImages.Proofs.Daemon.Calls

/-!
# The construction of one instance

An instance is constructed by one deployment, unless there is no image to deploy, and by running its
set-up against what was deployed. Its container is the one that the end of the deployment tells
about.
-/

namespace FixtureImages

set_option autoImplicit false

open Action

variable {Problem : Type}

/-- What a deployer is asked for an instance. -/
def deployRequestFor (server : Instance) (blueprint network : String) (config : Config) :
    DeployRequest :=
  { baseImage := baseImageOf server config
    containerName := containerName (contextOf config.scope.text blueprint server.name.text)
    scope := config.scope.text, blueprint, server := server.name.text
    registrations := registrationsOf server, network }

/-- How the construction of an instance ends on a host, after its deployment if there is one. -/
inductive InstanceEnds (host : Host) (deployed : Outcome Host Event Failure Deployment)
    (runner : Runner) (server : Instance) : Construction → Host → Prop
  | unconfigured {construction : Construction} (failed : construction.failure ≠ none)
      (container : construction.container = "") :
      InstanceEnds host deployed runner server construction host
  | undeployed {construction : Construction} {failure : Failure}
      (ended : deployed.result = .error failure) (failed : construction.failure ≠ none)
      (container : construction.container = failure.containerId) :
      InstanceEnds host deployed runner server construction deployed.state
  | setUp {construction : Construction} {deployment : Deployment}
      (ended : deployed.result = .ok deployment)
      (container : construction.container = deployment.containerId) :
      InstanceEnds host deployed runner server construction
        (runner.run server deployment.baseUrl deployed.state).state

theorem Construction.fail_deployment_container (started : Construction) (failure : Failure) :
    (started.failDeployment failure).container = failure.containerId := by
  rw [failDeployment]
  split
  · simp only [container, Failure.containerId]
    rcases failure.container with _ | _ | id <;> rfl
  · rfl

theorem Construction.fail_deployment_fails (started : Construction) (failure : Failure) :
    (started.failDeployment failure).failure ≠ none := by
  rw [failDeployment]
  split <;> exact Option.some_ne_none _

theorem set_up_instance_apply (runner : Runner) (deployed : Construction) (host : Host) :
    let outcome : Outcome Host Event Problem Construction := setUpInstance runner deployed host
    ∃ construction, outcome.result = .ok construction ∧
      construction.container = deployed.container ∧
      outcome.state = (runner.run deployed.server deployed.baseUrl host).state := by
  simp only [setUpInstance]
  rw [attempt_bind_apply]
  cases (runner.run deployed.server deployed.baseUrl host).result with
  | ok _ => exact ⟨_, rfl, rfl, rfl⟩
  | error failure => exact ⟨_, rfl, rfl, rfl⟩

theorem construct_instance_ends (server : Instance) (blueprint network : String)
    (config : Config) (deployer : Deployer) (runner : Runner) (host : Host) :
    let outcome : Outcome Host Event Problem Construction :=
      constructInstance server blueprint network config deployer runner host
    ∃ construction, outcome.result = .ok construction ∧
      InstanceEnds host (deployer (deployRequestFor server blueprint network config) host) runner
        server construction outcome.state := by
  generalize same : deployRequestFor server blueprint network config = request
  rw [deployRequestFor] at same
  simp only [constructInstance, noteInstance, bind_apply, note_apply, same]
  split
  · exact ⟨_, rfl, .unconfigured (Option.some_ne_none _) rfl⟩
  · rw [attempt_bind_apply]
    cases ended : (deployer request host).result with
    | error failure =>
        refine ⟨_, rfl, .undeployed ended ?_ ?_⟩
        · exact Construction.fail_deployment_fails _ failure
        · exact Construction.fail_deployment_container _ failure
    | ok deployment =>
        simp only [bind_apply, note_apply]
        obtain ⟨construction, constructed, container, left⟩ :=
          @set_up_instance_apply Problem runner
            { server, context := contextOf config.scope.text blueprint server.name.text
              scope := config.scope.text, containerId := some deployment.containerId
              baseUrl := deployment.baseUrl, failure := none }
            (deployer request host).state
        refine ⟨construction, constructed, ?_⟩
        rw [left]
        exact .setUp ended container

end FixtureImages
