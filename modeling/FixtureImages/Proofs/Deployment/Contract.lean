import FixtureImages.Proofs.Deployment.Law
import FixtureImages.Proofs.Time
import Mathlib.Control.Monad.Basic

/-!
# The failures of deployments

A failure of the deployer has to be one of its stage and to name the container, once there is one.
That is so for the failures which the deployer puts into its own words. Those which it lets pass are
found here exactly: the contract holds of a run when it holds of each failure that passes.
-/

namespace FixtureImages.Deployment

set_option autoImplicit false

open Action

/-- A failure of a deployment that names a container. The empty identifier stands for none. -/
def Names (id : String) (failure : Failure) : Prop :=
  failure.stage = some .deployment ∧ failure.container = some (some id)

/-- The creation of the container that a deployment begins with. -/
def created (config : Config) (request : DeployRequest) (host : Host) :
    Outcome Host Event Failure Container :=
  Daemon.createContainer (containerRequest config host.environment request) host

/-- The container that a deployment over a connection has made, or the empty identifier. -/
def createdId {Client : Type} (connected : Except Failure Client) (config : Config)
    (request : DeployRequest) (host : Host) : String :=
  match connected, (created config request host).result with
  | .ok _, .ok container => container.id
  | _, _ => ""

/-- A failure that passes through one look at a container: of the inspection, when the daemon did
not answer with it, or of the request, when it did not fail on the way. -/
inductive PassesLook (container : Container) (url : String) (host : Host) : Failure → Prop
  | inspect {failure : Failure} (fails : (Daemon.inspect container host).result = .error failure)
      (other : failure.isDaemon = false) : PassesLook container url host failure
  | request {shown : Container} {failure : Failure}
      (inspected : (Daemon.inspect container host).result = .ok shown)
      (running : shown.showsRunning = true)
      (fails : (Daemon.request url (.ofInt 1) (Daemon.inspect container host).state).result =
        .error failure)
      (other : failure.isTransport = false) : PassesLook container url host failure

/-- The deadline of a wait that begins on a host. -/
def deadlineFrom (config : Config) (host : Host) : Binary64 :=
  (secondsOf Daemon.ticksPerSecond host.clock).add config.spawnTimeout

/-- A deadline has not come yet on a host. -/
def Early (deadline : Binary64) (host : Host) : Prop :=
  (secondsOf Daemon.ticksPerSecond host.clock).lt deadline = true

/-- A later host on which a container that was not ready so far is looked at again. -/
inductive LooksAgain (container : Container) (url : String) (deadline : Binary64) :
    Host → Host → Prop
  | first (host : Host) : LooksAgain container url deadline host host
  | next {host later : Host} {answer : String} (early : Early deadline host)
      (waits : (look container url host).result = .ok (some answer))
      (again : LooksAgain container url deadline
        (Daemon.sleep readinessInterval (look container url host).state :
          Outcome Host Event Failure Unit).state later) :
      LooksAgain container url deadline host later

/-! ## One look -/

theorem look_result (container : Container) (url : String) (host : Host) :
    (look container url host).result =
      match (Daemon.inspect container host).result with
      | .error failure =>
          .error (if failure.isDaemon then .containerInspect container.name container.id failure
            else failure)
      | .ok shown =>
          if shown.showsRunning then
            match (Daemon.request url (.ofInt 1) (Daemon.inspect container host).state).result with
            | .ok status => .ok (if status = 200 then none else some ("HTTP " ++ toString status))
            | .error failure =>
                if failure.isTransport then .ok (some failure.message) else .error failure
          else .error (.containerStopped container.name container.id) := by
  rw [look_eq, bind_apply, mapFailure]
  cases (Daemon.inspect container host).result with
  | error failure => rfl
  | ok shown =>
      simp only [map_error_ok]
      cases shown.showsRunning with
      | false => rfl
      | true =>
          simp only [if_true, question]
          rw [attempt_bind_apply]
          generalize Daemon.request url (.ofInt 1) (Daemon.inspect container host).state = answered
          cases answered.result with
          | ok status => rfl
          | error failure =>
              dsimp only
              split <;> rfl

theorem look_passes {container : Container} {url : String} {host : Host} {failure : Failure}
    (passes : PassesLook container url host failure) :
    (look container url host).result = .error failure := by
  rw [look_result]
  cases passes with
  | inspect fails other => simp [fails, other]
  | request inspected running fails other => simp [inspected, running, fails, other]

theorem look_fails {container : Container} {url : String} {host : Host} {failure : Failure}
    (fails : (look container url host).result = .error failure) :
    Names container.id failure ∨ PassesLook container url host failure := by
  rw [look_result] at fails
  cases inspected : (Daemon.inspect container host).result with
  | error cause =>
      simp only [inspected, Except.error.injEq] at fails
      by_cases known : cause.isDaemon = true
      · rw [if_pos known] at fails
        subst fails
        exact .inl ⟨rfl, rfl⟩
      · rw [if_neg known] at fails
        subst fails
        exact .inr (.inspect inspected (by simpa using known))
  | ok shown =>
      simp only [inspected] at fails
      by_cases running : shown.showsRunning = true
      · rw [if_pos running] at fails
        cases answered :
          (Daemon.request url (.ofInt 1) (Daemon.inspect container host).state).result with
        | ok status => simp [answered] at fails
        | error cause =>
            simp only [answered] at fails
            by_cases known : cause.isTransport = true
            · simp [known] at fails
            · rw [if_neg known] at fails
              cases fails
              exact .inr (.request inspected running answered (by simpa using known))
      · rw [if_neg running] at fails
        cases fails
        exact .inl ⟨rfl, rfl⟩

/-! ## Looking until the container is ready -/

/-- Time does not run backwards. -/
def timePasses : Frame Host where
  holds before after := before.clock ≤ after.clock
  refl _ := Nat.le_refl _
  trans := Nat.le_trans

private theorem time_meets (call : Call) : timePasses.Meets call := fun _ => Nat.le_refl _

theorem deploying_passes_time : (HostLaw.keeping timePasses).AdmitsDeploying where
  create _ := Daemon.create_container_lawful (time_meets _) fun _ => Nat.le_refl _
  copy _ _ _ := time_meets _
  start _ := by
    refine Daemon.start_lawful (time_meets _) fun host => ?_
    simp only [change, timePasses, Host.startContainer]
    split <;> exact Nat.le_refl _
  inspect _ := Daemon.inspect_lawful (time_meets _) fun _ => Nat.le_refl _
  request _ _ := by
    refine Daemon.request_lawful (fun _ => Nat.le_refl _) (fun host => ?_) fun _ _ =>
      Nat.le_add_right _ _
    simp only [take, timePasses, Host.nextAnswer]
    split <;> exact Nat.le_refl _
  list _ _ := Daemon.list_containers_lawful (time_meets _)
  sleep _ := Daemon.sleep_lawful (fun _ => Nat.le_refl _) fun _ => Nat.le_add_right _ _

variable {config : Config} {container : Container} {url : String} {deadline : Binary64}

section

variable {rounds : Nat} {last : Option String} {host : Host}

/-- Before the deadline a container is looked at. -/
theorem await_ready_early (early : Early deadline host) :
    awaitReady config container url deadline (rounds + 1) last host =
      (look container url >>= fun
        | none => pure ()
        | some answer => do
            Daemon.sleep readinessInterval
            awaitReady config container url deadline rounds (some answer)) host := by
  have shown : (secondsOf Daemon.ticksPerSecond host.clock).lt deadline = true := early
  rw [awaitReady, Daemon.now, look_bind_apply]
  exact congrFun (if_pos shown) host

theorem await_ready_late (late : ¬Early deadline host) :
    awaitReady config container url deadline (rounds + 1) last host =
      ⟨.error (.notReady container.name container.id url config.spawnTimeout last), host, []⟩ := by
  rw [awaitReady, Daemon.now, look_bind_apply]
  exact congrFun (if_neg late) host

end

theorem await_ready_fails {rounds : Nat} {last : Option String} {host : Host} {failure : Failure}
    (fails : (awaitReady config container url deadline rounds last host).result = .error failure) :
    Names container.id failure ∨ ∃ later, LooksAgain container url deadline host later ∧
      Early deadline later ∧ PassesLook container url later failure := by
  induction rounds generalizing last host with
  | zero =>
      cases fails
      exact .inl ⟨rfl, rfl⟩
  | succ rounds ih =>
      by_cases early : Early deadline host
      · rw [await_ready_early early] at fails
        rcases error_of_bind fails with stopped | ⟨answer, looked, later⟩
        · exact (look_fails stopped).imp_right fun passes => ⟨host, .first host, early, passes⟩
        · cases answer with
          | none => cases later
          | some answer =>
              rcases ih later with named | ⟨last, again, before, passes⟩
              · exact .inl named
              · exact .inr ⟨last, .next early looked again, before, passes⟩
      · rw [await_ready_late early] at fails
        cases fails
        exact .inl ⟨rfl, rfl⟩

/-- The first look that fails is the last one, as the time that is left bounds the looks. -/
theorem await_ready_stuck {host later : Host} {failure : Failure} (normal : deadline.Normal)
    (again : LooksAgain container url deadline host later) (early : Early deadline later)
    (stuck : (look container url later).result = .error failure) (rounds : Nat)
    (last : Option String)
    (enough : ticksOf Daemon.ticksPerSecond deadline ≤ host.clock + rounds) :
    (awaitReady config container url deadline rounds last host).result = .error failure := by
  have left {present : Host} {rounds : Nat} (early : Early deadline present)
      (enough : ticksOf Daemon.ticksPerSecond deadline ≤ present.clock + rounds) :
      ∃ fewer, rounds = fewer + 1 := by
    have := ticks_of_early (by decide) normal early
    exact ⟨rounds - 1, by omega⟩
  induction again generalizing rounds last with
  | first host =>
      obtain ⟨rounds, rfl⟩ := left early enough
      rw [await_ready_early early, bind_of_error stuck]
  | @next host later answer before waits again ih =>
      obtain ⟨rounds, rfl⟩ := left before enough
      have passed : host.clock ≤ (look container url host).state.clock :=
        look_lawful (deploying_passes_time.launching container) url host
      rw [await_ready_early before, bind_of_ok waits]
      refine ih early stuck rounds (some answer) ?_
      change ticksOf Daemon.ticksPerSecond deadline ≤
        (look container url host).state.clock + readinessInterval + rounds
      rw [readinessInterval]
      omega

/-! ## Deployments -/

/-- The container that was made, launched: where it can be reached, and the host after it. -/
def launched (config : Config) (request : DeployRequest) (container : Container) (host : Host) :
    Outcome Host Event Failure Endpoints :=
  settleLaunch config request container (created config request host).state

/-- A failure that passes through a deployment: of the connection to the daemon, of the creation or
the launch when neither the daemon nor the ports are the reason, or of a look at the container. -/
inductive Passes {Client : Type} (connected : Except Failure Client) (config : Config)
    (request : DeployRequest) (host : Host) : Failure → Prop
  | connect {failure : Failure} (fails : connected = .error failure) :
      Passes connected config request host failure
  | create {client : Client} {failure : Failure} (connects : connected = .ok client)
      (fails : (created config request host).result = .error failure)
      (other : failure.isDaemon = false) : Passes connected config request host failure
  | launch {client : Client} {container : Container} {failure : Failure}
      (connects : connected = .ok client)
      (creates : (created config request host).result = .ok container)
      (fails : (launch config request container (created config request host).state).result =
        .error failure)
      (other : failure.isDaemon = false) (apart : failure.stage ≠ some .ports) :
      Passes connected config request host failure
  | look {client : Client} {container : Container} {place : Endpoints} {later : Host}
      {failure : Failure} (connects : connected = .ok client)
      (creates : (created config request host).result = .ok container)
      (launches : (launched config request container host).result = .ok place)
      (again : LooksAgain container (place.client ++ config.readinessPath)
        (deadlineFrom config (launched config request container host).state)
        (launched config request container host).state later)
      (early : Early (deadlineFrom config (launched config request container host).state) later)
      (passes : PassesLook container (place.client ++ config.readinessPath) later failure) :
      Passes connected config request host failure

theorem create_apply (config : Config) (request : DeployRequest) (host : Host) :
    create config request host =
      ⟨(created config request host).result.mapError fun failure =>
          if failure.isDaemon then .containerCreate request.containerName failure else failure,
        (created config request host).state, (created config request host).trace⟩ := rfl

theorem launch_after_create {α : Type} (config : Config) (request : DeployRequest)
    (container : Container) (host : Host) (next : Endpoints → HostAction Failure α) :
    (settleLaunch config request container >>= next) (create config request host).state =
      (launched config request container >>= next) host := rfl

theorem settle_launch_result (config : Config) (request : DeployRequest) (container : Container)
    (host : Host) :
    (settleLaunch config request container host).result =
      (launch config request container host).result.mapError fun failure =>
        if failure.stage = some .ports ∨ failure.isDaemon = true then
          .containerStart request.containerName container.id failure
        else failure := by
  rw [settleLaunch, attempt_bind_apply]
  generalize launch config request container host = outcome
  cases outcome.result with
  | ok place => rfl
  | error failure =>
      dsimp only
      by_cases ports : failure.stage = some .ports
      · obtain ⟨_, shown⟩ := @Catalog.succeeds_print_port_bindings Failure request.containerName
          outcome.state
        rw [if_pos ports, bind_of_ok shown]
        simp [ports]
      · rw [if_neg ports]
        by_cases known : failure.isDaemon = true <;> simp [ports, known]

section

variable {Client : Type} {connect : Nat → Except Failure Client} {cache : ClientCache Client}
  {request : DeployRequest} {host : Host} {failure : Failure}

theorem deploy_through_of_client {client : Client} (connects : (cache.get connect).1 = .ok client) :
    deployThrough connect cache config request = deploy config request := by
  simp [deployThrough, connects]

/-- A failure that passes is how the deployment ends. -/
theorem deploy_passes (passes : Passes (cache.get connect).1 config request host failure) :
    (deployThrough connect cache config request host).result = .error failure := by
  cases passes with
  | connect fails =>
      rw [deployThrough, fails]
      rfl
  | create connects fails other =>
      rw [deploy_through_of_client connects, deploy_eq]
      have made : (create config request host).result = .error failure := by
        simp [create_apply, fails, other]
      rw [bind_of_error made]
  | launch connects creates fails other apart =>
      rename_i client container
      rw [deploy_through_of_client connects, deploy_eq]
      have made : (create config request host).result = .ok container := by
        simp [create_apply, creates]
      have stuck : (settleLaunch config request container
          (create config request host).state).result = .error failure := by
        simp [settle_launch_result, create_apply, fails, other, apart]
      rw [bind_of_ok made, bind_of_error stuck]
  | look connects creates launches again early passes =>
      rename_i client container place later
      rw [deploy_through_of_client connects, deploy_eq]
      have made : (create config request host).result = .ok container := by
        simp [create_apply, creates]
      have waits : (waitUntilReady config container place.client
          (launched config request container host).state).result = .error failure :=
        await_ready_stuck (Binary64.add_normal _ _) again early (look_passes passes) _ _
          (by dsimp only; omega)
      rw [bind_of_ok made, launch_after_create, bind_of_ok launches, bind_of_error waits]

theorem create_fails (fails : (create config request host).result = .error failure) :
    Names "" failure ∨
      (created config request host).result = .error failure ∧ failure.isDaemon = false := by
  rw [create_apply] at fails
  cases creates : (created config request host).result with
  | ok container => simp [creates] at fails
  | error cause =>
      simp only [creates, map_error_error, Except.error.injEq] at fails
      by_cases known : cause.isDaemon = true
      · rw [if_pos known] at fails
        subst fails
        exact .inl ⟨rfl, rfl⟩
      · rw [if_neg known] at fails
        subst fails
        exact .inr ⟨rfl, by simpa using known⟩

theorem settle_launch_fails
    (fails : (settleLaunch config request container host).result = .error failure) :
    Names container.id failure ∨
      (launch config request container host).result = .error failure ∧
        failure.isDaemon = false ∧ failure.stage ≠ some .ports := by
  rw [settle_launch_result] at fails
  cases stuck : (launch config request container host).result with
  | ok place => simp [stuck] at fails
  | error cause =>
      simp only [stuck, map_error_error, Except.error.injEq] at fails
      by_cases known : cause.stage = some .ports ∨ cause.isDaemon = true
      · rw [if_pos known] at fails
        subst fails
        exact .inl ⟨rfl, rfl⟩
      · rw [if_neg known] at fails
        subst fails
        simp only [not_or, Bool.not_eq_true] at known
        exact .inr ⟨rfl, known.2, known.1⟩

/-- A deployment fails in its own words, which name the container, or with a failure that passes. -/
theorem deploy_fails
    (fails : (deployThrough connect cache config request host).result = .error failure) :
    Names (createdId (cache.get connect).1 config request host) failure ∨
      Passes (cache.get connect).1 config request host failure := by
  cases connects : (cache.get connect).1 with
  | error cause =>
      rw [deployThrough, connects] at fails
      cases fails
      exact .inr (.connect rfl)
  | ok client =>
      rw [deploy_through_of_client connects, deploy_eq] at fails
      cases creates : (created config request host).result with
      | error cause =>
          have none : createdId (.ok client : Except Failure Client) config request host = "" := by
            simp [createdId, creates]
          obtain ⟨reason, made⟩ : ∃ reason, (create config request host).result = .error reason :=
            ⟨_, by rw [create_apply, creates]; rfl⟩
          rw [bind_of_error made] at fails
          cases fails
          rw [none]
          rcases create_fails made with named | ⟨same, other⟩
          · exact .inl named
          · exact .inr (.create rfl same other)
      | ok container =>
          have made : (create config request host).result = .ok container := by
            simp [create_apply, creates]
          have id : createdId (.ok client : Except Failure Client) config request host =
              container.id := by simp [createdId, creates]
          rw [bind_of_ok made, launch_after_create] at fails
          rw [id]
          rcases error_of_bind fails with stopped | ⟨place, launches, waits⟩
          · rcases settle_launch_fails stopped with named | ⟨stuck, other, apart⟩
            · exact .inl named
            · exact .inr (.launch rfl creates stuck other apart)
          · rcases error_of_bind waits with tired | ⟨_, _, described⟩
            · rcases await_ready_fails tired with named | ⟨later, again, early, passes⟩
              · exact .inl named
              · exact .inr (.look rfl creates launches again early passes)
            · cases described

/-- Every failure of a deployment names the container that was made, or none if none was made, if
and only if that is so for every failure that passes through. -/
theorem deploy_names_container_iff :
    (∀ failure, (deployThrough connect cache config request host).result = .error failure →
        Names (createdId (cache.get connect).1 config request host) failure) ↔
      ∀ failure, Passes (cache.get connect).1 config request host failure →
        Names (createdId (cache.get connect).1 config request host) failure := by
  constructor
  · intro contract failure passes
    exact contract failure (deploy_passes passes)
  · intro contract failure fails
    exact (deploy_fails fails).elim id (contract failure)

end

/-- A host on which every request fails for its address. -/
def invalidUrlHost : Host :=
  let host := Host.fresh ∅
  { host with
    settings := { host.settings with
      usualAnswer := ⟨0, .error (.outside .invalidUrl "boom" none)⟩ } }

/-- A request that fails for its address ends a deployment with a failure that passes. The container
runs, and the failure does not name it. -/
theorem deploy_loses_container :
    let request : DeployRequest := ⟨"img", "c1", "pkg", "bp", "hs1", ∅, "n"⟩
    let run := deployThrough (fun _ => .ok ()) ClientCache.empty Config.usual request invalidUrlHost
    let id := createdId (.ok () : Except Failure Unit) Config.usual request invalidUrlHost
    run.result = .error (.outside .invalidUrl "boom" none) ∧
      ¬Names id (.outside .invalidUrl "boom" none) ∧
      run.state.containers.map (fun container => (container.id, container.running)) =
        [(id, true)] := by
  intro request run id
  refine ⟨by decide +kernel, ?_, by decide +kernel⟩
  rintro ⟨stage, _⟩
  cases stage

end FixtureImages.Deployment
