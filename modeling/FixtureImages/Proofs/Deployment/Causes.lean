import FixtureImages.Proofs.Deployment.Contract

/-!
# The causes of failed deployments

A call to the daemon that fails in a deployment ends it: with what the call raised, or with a failure
of the deployment that has this as its cause.
-/

namespace FixtureImages

set_option autoImplicit false

open Action

variable {α : Type}

/-- A call that failed, and the failure that it raised. -/
structure Raised where
  call : Call
  failure : Failure
deriving DecidableEq

/-- A reported failure is the one that was raised, or has it as its cause. -/
def Failure.Keeps (reported raised : Failure) : Prop :=
  reported = raised ∨ reported.cause = some raised

/-- A runner is asked for what it captured. -/
def Call.collects : Call → Bool
  | .credentials _ | .devices _ => true
  | _ => false

/-! ## The call that fails -/

/-- The first of some calls that fails: this one, or one of those after it. -/
def failing (call : Call) (action : HostAction Failure α) (next : α → Host → Option Raised)
    (host : Host) : Option Raised :=
  match (action host).result with
  | .error failure => some ⟨call, failure⟩
  | .ok value => next value (action host).state

theorem failing_some {call : Call} {action : HostAction Failure α}
    {next : α → Host → Option Raised} {host : Host} {raised : Raised}
    (failed : failing call action next host = some raised) :
    raised.call = call ∧ (action host).result = .error raised.failure ∨
      ∃ value, (action host).result = .ok value ∧ next value (action host).state = some raised := by
  rw [failing] at failed
  cases outcome : (action host).result with
  | error failure =>
      rw [outcome] at failed
      cases failed
      exact .inl ⟨rfl, rfl⟩
  | ok value =>
      rw [outcome] at failed
      exact .inr ⟨value, rfl, failed⟩

/-! ## Deployments -/

namespace Deployment

variable {config : Config} {request : DeployRequest} {host : Host} {raised : Raised}

/-- The call that fails when a container is started and looked up. -/
def failedStart (container : Container) : Host → Option Raised :=
  failing (.start container.name) (Daemon.start container) fun _ =>
  failing (.inspect container.name) (Daemon.inspect container) fun _ _ => none

/-- The call that fails when a container is launched. -/
def failedLaunch (request : DeployRequest) (container : Container) : Host → Option Raised :=
  let archive := Archive.ofRegistrations request.registrations.entries
  if request.registrations.isEmpty then failedStart container
  else failing (.putArchive container.name "/" (Archive.read archive))
    (Daemon.putArchive container "/" archive) fun _ => failedStart container

/-- A call to the daemon fails in a deployment: to make the container, to launch it, or to look at
it. -/
inductive Raises (config : Config) (request : DeployRequest) (host : Host) : Raised → Prop
  | create {cause : Failure} (fails : (created config request host).result = .error cause) :
      Raises config request host
        ⟨.createContainer (containerRequest config host.environment request), cause⟩
  | launch {container : Container} {raised : Raised}
      (creates : (created config request host).result = .ok container)
      (fails : failedLaunch request container (created config request host).state = some raised) :
      Raises config request host raised
  | look {container : Container} {place : Endpoints} {later : Host} {cause : Failure}
      (creates : (created config request host).result = .ok container)
      (launches : (launched config request container host).result = .ok place)
      (again : LooksAgain container (place.client ++ config.readinessPath)
        (deadlineFrom config (launched config request container host).state)
        (launched config request container host).state later)
      (early : Early (deadlineFrom config (launched config request container host).state) later)
      (fails : (Daemon.inspect container later).result = .error cause) :
      Raises config request host ⟨.inspect container.name, cause⟩

/-- A failure is what was raised, or one of this stage that has it as the cause. -/
def StemsFrom (failure raised : Failure) : Prop :=
  failure = raised ∨ failure.stage = some .deployment ∧ failure.cause = some raised

theorem stems_of_worded {known : Prop} [Decidable known] {worded cause : Failure}
    (stage : worded.stage = some .deployment) (keeps : worded.cause = some cause) :
    StemsFrom (if known then worded else cause) cause := by
  split
  · exact .inr ⟨stage, keeps⟩
  · exact .inl rfl

theorem start_raises {container : Container} (next : Container → HostAction Failure α)
    (failed : failedStart container host = some raised) :
    raised.call.collects = false ∧
      ((do
        Daemon.start container
        let shown ← Daemon.inspect container
        next shown) host).result = .error raised.failure := by
  obtain ⟨same, stopped⟩ | ⟨_, started, failed⟩ := failing_some failed
  · rw [bind_of_error stopped, same]
    exact ⟨rfl, rfl⟩
  obtain ⟨same, stopped⟩ | ⟨_, shown, failed⟩ := failing_some failed
  · rw [bind_of_ok started, bind_of_error stopped, same]
    exact ⟨rfl, rfl⟩
  · cases failed

theorem launch_raises {container : Container}
    (failed : failedLaunch request container host = some raised) :
    raised.call.collects = false ∧
      (launch config request container host).result = .error raised.failure := by
  rw [failedLaunch] at failed
  rw [launch]
  by_cases bare : request.registrations.isEmpty = true
  · rw [if_pos bare] at failed
    simp only [bare, Bool.not_true, Bool.false_eq_true, if_false]
    exact start_raises _ failed
  · rw [if_neg bare] at failed
    simp only [bare, Bool.not_false, if_true]
    obtain ⟨same, stopped⟩ | ⟨_, copied, failed⟩ := failing_some failed
    · rw [bind_of_error stopped, same]
      exact ⟨rfl, rfl⟩
    · rw [bind_of_ok copied]
      exact start_raises _ failed

theorem look_stuck {container : Container} {url : String} {cause : Failure}
    (fails : (Daemon.inspect container host).result = .error cause) :
    ∃ failure, (look container url host).result = .error failure ∧ StemsFrom failure cause := by
  rw [look_result, fails]
  exact ⟨_, rfl, stems_of_worded rfl rfl⟩

/-- A deployment in which a call to the daemon fails ends with that failure, or with one of its
stage that has it as the cause. -/
theorem deploy_raises (raises : Raises config request host raised) :
    raised.call.collects = false ∧
      ∃ failure, (deploy config request host).result = .error failure ∧
        StemsFrom failure raised.failure := by
  rw [deploy_eq]
  cases raises with
  | @create cause fails =>
      have stopped : (create config request host).result = .error
          (if cause.isDaemon then .containerCreate request.containerName cause else cause) := by
        rw [create_apply, fails]
        rfl
      rw [bind_of_error stopped]
      exact ⟨rfl, _, rfl, stems_of_worded rfl rfl⟩
  | @launch container raised creates fails =>
      have made : (create config request host).result = .ok container := by
        simp [create_apply, creates]
      obtain ⟨other, broken⟩ := @launch_raises config _ _ _ _ fails
      have stopped : (launched config request container host).result = .error
          (if raised.failure.stage = some .ports ∨ raised.failure.isDaemon = true then
            .containerStart request.containerName container.id raised.failure
          else raised.failure) := by
        rw [launched, settle_launch_result, broken]
        rfl
      rw [bind_of_ok made, launch_after_create, bind_of_error stopped]
      exact ⟨other, _, rfl, stems_of_worded rfl rfl⟩
  | @look container place later cause creates launches again early fails =>
      have made : (create config request host).result = .ok container := by
        simp [create_apply, creates]
      obtain ⟨failure, stuck, known⟩ := look_stuck fails
      have waits : (waitUntilReady config container place.client
          (launched config request container host).state).result = .error failure :=
        await_ready_stuck (Binary64.add_normal _ _) again early stuck _ _
          (by dsimp only; omega)
      rw [bind_of_ok made, launch_after_create, bind_of_ok launches, bind_of_error waits]
      exact ⟨rfl, failure, rfl, known⟩

end Deployment

end FixtureImages
