import FixtureImages.Proofs.Daemon.Law
import FixtureImages.Proofs.Deployment.Stages

/-!
# Laws of deployments

A law holds of the deployer when it holds of the calls that it makes: creating and starting a
container, and looking at it until it is ready.
-/

namespace FixtureImages

set_option autoImplicit false

open Action

structure HostLaw.AdmitsDeploying (law : HostLaw) : Prop where
  create : ∀ request, law.holds (Daemon.createContainer request)
  copy : ∀ container path archive, law.holds (Daemon.putArchive container path archive)
  start : ∀ container, law.holds (Daemon.start container)
  inspect : ∀ container, law.holds (Daemon.inspect container)
  request : ∀ url timeout, law.holds (Daemon.request url timeout)
  list : ∀ all filters, law.holds (Daemon.listContainers all filters)
  sleep : ∀ pause, law.holds (Daemon.sleep pause : HostAction Failure Unit)

/-- What is done with one container that a deployment made. -/
structure HostLaw.AdmitsLaunching (law : HostLaw) (container : Container) : Prop where
  copy : ∀ path archive, law.holds (Daemon.putArchive container path archive)
  start : law.holds (Daemon.start container)
  inspect : law.holds (Daemon.inspect container)
  request : ∀ url timeout, law.holds (Daemon.request url timeout)
  list : ∀ all filters, law.holds (Daemon.listContainers all filters)
  sleep : ∀ pause, law.holds (Daemon.sleep pause : HostAction Failure Unit)

theorem HostLaw.AdmitsDeploying.launching {law : HostLaw} (deploys : law.AdmitsDeploying)
    (container : Container) : law.AdmitsLaunching container :=
  ⟨deploys.copy container, deploys.start container, deploys.inspect container, deploys.request,
    deploys.list, deploys.sleep⟩

/-- A call that a deployment makes. -/
def Call.isDeploying : Call → Bool
  | .createContainer _ | .putArchive .. | .start _ | .inspect _ | .get .. | .listContainers ..
  | .sleep _ => true
  | _ => false

theorem HostLaw.calling_deploying {allowed : Call → Prop}
    (deploys : ∀ call, call.isDeploying = true → allowed call) :
    (calling allowed).AdmitsDeploying where
  create _ := Daemon.create_container_lawful (calling_perform (deploys _ rfl)) (calling_take _)
  copy _ _ _ := calling_perform (deploys _ rfl)
  start _ := Daemon.start_lawful (calling_perform (deploys _ rfl)) (calling_change _)
  inspect _ := Daemon.inspect_lawful (calling_perform (deploys _ rfl)) (calling_change _)
  request _ _ :=
    Daemon.request_lawful (calling_emit (deploys _ rfl)) (calling_take _) fun _ =>
      calling_change _
  list _ _ := Daemon.list_containers_lawful (calling_perform (deploys _ rfl))
  sleep _ := calling_sleep (deploys _ rfl)

namespace Deployment

section

variable {law : HostLaw} {container : Container} (launches : law.AdmitsLaunching container)

include launches

theorem question_lawful (url : String) : law.holds (question url) := by
  refine law.bind (law.attempt (launches.request _ _)) fun answered => ?_
  cases answered with
  | ok status => exact law.pure _
  | error failure =>
      dsimp only
      split
      · exact law.pure _
      · exact law.fail _

theorem look_lawful (url : String) : law.holds (look container url) := by
  rw [look_eq]
  refine law.bind (law.mapFailure launches.inspect) fun shown => ?_
  split
  · exact question_lawful launches url
  · exact law.fail _

theorem await_ready_lawful (config : Config) (url : String) (deadline : Binary64) (rounds : Nat)
    (last : Option String) :
    law.holds (awaitReady config container url deadline rounds last) := by
  induction rounds generalizing last with
  | zero => exact law.fail _
  | succ rounds ih =>
      rw [awaitReady]
      refine law.bind (law.look _) fun now => ?_
      split
      · refine law.bind (look_lawful launches url) fun answer => ?_
        cases answer with
        | none => exact law.pure _
        | some answer => exact law.bind (launches.sleep _) fun _ => ih _
      · exact law.fail _

theorem launch_lawful (config : Config) (request : DeployRequest) :
    law.holds (launch config request container) := by
  have starts : law.holds (do
      Daemon.start container
      let shown ← Daemon.inspect container
      Action.ofExcept <| (endpoints shown.shownPorts config.bindAddress config.clientPort
        config.federationPort).mapError .unreachable : HostAction Failure Endpoints) :=
    law.bind launches.start fun _ => law.bind launches.inspect fun _ => law.of_except _
  rw [launch]
  split
  · exact law.bind (launches.copy _ _) fun _ => starts
  · exact starts

theorem settle_launch_lawful (config : Config) (request : DeployRequest) :
    law.holds (settleLaunch config request container) := by
  refine law.bind (law.attempt (launch_lawful launches config request)) fun launched => ?_
  cases launched with
  | ok place => exact law.pure _
  | error failure =>
      dsimp only
      split
      · exact law.bind (Catalog.print_port_bindings_lawful (launches.list _ _)) fun _ => law.fail _
      · split <;> exact law.fail _

/-- All that comes after the container was made. -/
theorem finish_lawful (config : Config) (request : DeployRequest) :
    law.holds (do
      let place ← settleLaunch config request container
      waitUntilReady config container place.client
      describe request container place) := by
  refine law.bind (settle_launch_lawful launches config request) fun place => ?_
  have waits : law.holds (waitUntilReady config container place.client) :=
    law.bind (law.look _) fun _ => await_ready_lawful launches _ _ _ _ _
  exact law.bind waits fun _ => law.bind (law.note _ _ _) fun _ => law.pure _

end

theorem create_lawful {law : HostLaw}
    (creates : ∀ request, law.holds (Daemon.createContainer request)) (config : Config)
    (request : DeployRequest) : law.holds (create config request) :=
  law.bind (law.look _) fun _ => law.mapFailure (creates _)

theorem deploy_lawful {law : HostLaw} (deploys : law.AdmitsDeploying) (config : Config)
    (request : DeployRequest) : law.holds (deploy config request) := by
  rw [deploy_eq]
  exact law.bind (create_lawful deploys.create config request) fun container =>
    finish_lawful (deploys.launching container) config request

end Deployment

end FixtureImages
