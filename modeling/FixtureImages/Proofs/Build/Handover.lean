import FixtureImages.Proofs.Build.Sparing
import FixtureImages.Proofs.Deployment.Contract

/-!
# What the deployer hands over

The deployer makes one container, starts it and looks at it, so it spares what belongs to others. It
tells about no other container, as long as no failure that it lets pass names one.
-/

namespace FixtureImages.Deployment

set_option autoImplicit false

open Action

variable {possible : Failure → Prop} {config : Config} {request : DeployRequest}

theorem created_id_new {host : Host} {container : Container}
    (made : (created config request host).result = .ok container) :
    container.id = FixtureImages.containerId host.nextId := by
  simp only [created, Daemon.createContainer, bind_apply, perform] at made
  revert made
  cases (meetFaults _ host.faults).2 with
  | some failure =>
      intro made
      cases made
  | none =>
      intro made
      cases made
      rfl

theorem created_id_cases {Client : Type} (client : Client) (config : Config)
    (request : DeployRequest) (host : Host) :
    createdId (.ok client) config request host = "" ∨
      createdId (.ok client) config request host = FixtureImages.containerId host.nextId := by
  cases made : (created config request host).result with
  | error failure => exact .inl (by simp [createdId, made])
  | ok container => exact .inr (by simp [createdId, made, created_id_new made])

theorem created_of_create {host : Host} {container : Container}
    (made : (create config request host).result = .ok container) :
    (created config request host).result = .ok container := by
  rw [create_apply] at made
  cases creates : (created config request host).result with
  | error failure => simp [creates] at made
  | ok other => simpa [creates] using made

/-! ## Sparing -/

section

variable {tenant : Tenant} {removable : Image → Prop} {origin : Host}

theorem since_launching {container : Container} (own : origin.OwnContainer tenant container.id) :
    (sparingSince tenant removable origin).AdmitsLaunching container where
  copy _ _ := since_meets _
  start := start_spares own
  inspect := inspect_spares own
  request url timeout := Frame.kept_since (request_spares url timeout) origin
  list := since_lists_containers
  sleep pause := Frame.kept_since (sleep_spares pause) origin

theorem create_gives_own (sound : origin.Sound tenant.possible) :
    Frame.GivesSince (sparing tenant removable) origin
      (fun container => origin.OwnContainer tenant container.id) (create config request) := by
  intro host since container made
  have spares := since sound
  rw [created_id_new (created_of_create made)]
  apply spares.own_of_absent
  intro other member
  exact spares.sound.containers.unused other member host.nextId (Nat.le_refl _)

theorem deploy_spares (config : Config) (request : DeployRequest) :
    (HostLaw.keeping (sparing tenant removable)).holds (deploy config request) := by
  apply spares_of_since
  intro origin sound
  have creates : (sparingSince tenant removable origin).holds (create config request) :=
    create_lawful (fun wanted => Frame.kept_since (create_container_spares wanted) origin) _ _
  rw [deploy_eq]
  exact Frame.since_bind creates (create_gives_own sound) fun container own =>
    finish_lawful (since_launching own) config request

end

/-! ## Failures that pass -/

/-- Sound hosts stay sound. -/
def staysSound (possible : Failure → Prop) : Frame Host where
  holds before after := before.Sound possible → after.Sound possible
  refl _ sound := sound
  trans earlier later sound := later (earlier sound)

private theorem sound_meets (call : Call) : (staysSound possible).Meets call :=
  fun _ sound => sound.meet call

theorem deploying_stays_sound : (HostLaw.keeping (staysSound possible)).AdmitsDeploying where
  create _ := Daemon.create_container_lawful (sound_meets _) fun _ sound =>
    sound.add_container rfl rfl
  copy _ _ _ := sound_meets _
  start _ := Daemon.start_lawful (sound_meets _) fun _ sound => sound.start_container _
  inspect _ := Daemon.inspect_lawful (sound_meets _) fun _ sound =>
    sound.update_container _ fun _ => ⟨rfl, rfl⟩
  request _ _ :=
    Daemon.request_lawful (Frame.refl _) (fun _ sound => sound.answer) fun cost _ sound =>
      sound.pass cost
  list _ _ := Daemon.list_containers_lawful (sound_meets _)
  sleep pause := Daemon.sleep_lawful (Frame.refl _) fun _ sound => sound.pass pause

/-- On sound hosts, an action fails only with failures that have a property. -/
def FailsOnlyWith {α : Type} (possible property : Failure → Prop) (action : HostAction Failure α) :
    Prop :=
  ∀ host : Host, host.Sound possible → ∀ failure, (action host).result = .error failure →
    property failure

section

variable {α β : Type} {property : Failure → Prop}

theorem fails_bind {first : HostAction Failure α} {next : α → HostAction Failure β}
    (stays : (HostLaw.keeping (staysSound possible)).holds first)
    (fails : FailsOnlyWith possible property first)
    (failsNext : ∀ value, FailsOnlyWith possible property (next value)) :
    FailsOnlyWith possible property (first >>= next) := by
  intro host sound failure failed
  rcases error_of_bind failed with early | ⟨value, _, late⟩
  · exact fails host sound failure early
  · exact failsNext value _ (stays host sound) failure late

theorem fails_of_succeeds {action : HostAction Failure α} (succeeds : Succeeds action) :
    FailsOnlyWith possible property action := by
  intro host _ failure failed
  obtain ⟨value, given⟩ := succeeds host
  rw [given] at failed
  cases failed

theorem fails_perform (call : Call) : FailsOnlyWith possible possible (perform call) := by
  intro host sound failure failed
  simp only [perform] at failed
  cases met : (meetFaults call host.faults).2 with
  | none => simp [met] at failed
  | some cause =>
      obtain rfl : cause = failure := by simpa [met] using failed
      exact (meet_faults_all call sound.failures.calls).2 cause met

end

theorem fails_inspect (container : Container) :
    FailsOnlyWith possible possible (Daemon.inspect container) :=
  fails_bind (sound_meets _) (fails_perform _) fun _ =>
    fails_of_succeeds fun _ => ⟨_, rfl⟩

theorem next_answer_mem (host : Host) :
    host.nextAnswer.1 ∈ host.settings.usualAnswer :: host.answers := by
  rw [Host.nextAnswer]
  split
  · exact List.mem_cons_self
  · rename_i answer rest given
    rw [given]
    exact List.mem_cons_of_mem _ List.mem_cons_self

theorem fails_request (url : String) (timeout : Binary64) :
    FailsOnlyWith possible possible (Daemon.request url timeout) := by
  intro host sound failure failed
  refine sound.failures.requests host.nextAnswer.1 (next_answer_mem host) failure ?_
  cases status : host.nextAnswer.1.status with
  | ok code => simp [Daemon.request, bind_apply, emit, take, change, status, pure_apply] at failed
  | error cause => simpa [Daemon.request, bind_apply, emit, take, change, status] using failed

theorem fails_create (wanted : ContainerRequest) :
    FailsOnlyWith possible possible (Daemon.createContainer wanted) :=
  fails_bind (sound_meets _) (fails_perform _) fun _ => fails_of_succeeds fun _ => ⟨_, rfl⟩

/-- A launch fails with what its calls meet, or because of the ports. -/
theorem fails_launch (container : Container) :
    FailsOnlyWith possible (fun failure => possible failure ∨ failure.stage = some .ports)
      (launch config request container) := by
  have wider {α : Type} {action : HostAction Failure α}
      (fails : FailsOnlyWith possible possible action) :
      FailsOnlyWith possible (fun failure => possible failure ∨ failure.stage = some .ports)
        action :=
    fun host sound failure failed => .inl (fails host sound failure failed)
  have launches := (@deploying_stays_sound possible).launching container
  have starts : FailsOnlyWith possible
      (fun failure => possible failure ∨ failure.stage = some .ports) (do
        Daemon.start container
        let shown ← Daemon.inspect container
        Action.ofExcept <| (endpoints shown.shownPorts config.bindAddress config.clientPort
          config.federationPort).mapError .unreachable : HostAction Failure Endpoints) := by
    refine fails_bind launches.start (wider ?_) fun _ =>
      fails_bind launches.inspect (wider (fails_inspect container)) fun shown => ?_
    · exact fails_bind (sound_meets _) (fails_perform _) fun _ =>
        fails_of_succeeds fun _ => ⟨_, rfl⟩
    · intro host sound failure failed
      cases places : endpoints shown.shownPorts config.bindAddress config.clientPort
          config.federationPort with
      | ok place => simp [places, pure_apply] at failed
      | error fault =>
          rw [places] at failed
          cases failed
          exact .inr rfl
  rw [launch]
  split
  · exact fails_bind (launches.copy _ _) (wider (fails_perform _)) fun _ => starts
  · exact starts

theorem looks_again_sound {container : Container} {url : String} {deadline : Binary64}
    {host later : Host} (again : LooksAgain container url deadline host later)
    (sound : host.Sound possible) : later.Sound possible := by
  have launches := (@deploying_stays_sound possible).launching container
  induction again with
  | first host => exact sound
  | next early waits again ih =>
      exact ih (launches.sleep _ _ (look_lawful launches url _ sound))

theorem passes_look_possible {container : Container} {url : String} {host : Host}
    {failure : Failure} (passes : PassesLook container url host failure)
    (sound : host.Sound possible) : possible failure := by
  have launches := (@deploying_stays_sound possible).launching container
  cases passes with
  | inspect fails other => exact fails_inspect container host sound failure fails
  | request inspected running fails other =>
      exact fails_request url _ _ (launches.inspect host sound) failure fails

/-- A failure that passes through a deployment on a sound host is one that was to come. -/
theorem passes_possible {Client : Type} {client : Client} {host : Host} {failure : Failure}
    (passes : Passes (.ok client) config request host failure) (sound : host.Sound possible) :
    possible failure := by
  have creates : (created config request host).state.Sound possible :=
    deploying_stays_sound.create _ host sound
  cases passes with
  | connect fails => cases fails
  | create connects fails other => exact fails_create _ host sound failure fails
  | launch connects made fails other apart =>
      exact (fails_launch _ _ creates failure fails).resolve_right apart
  | look connects made launches again early passes =>
      rename_i client container place later
      have launching := (@deploying_stays_sound possible).launching container
      have launched : (launched config request container host).state.Sound possible :=
        settle_launch_lawful launching config request _ creates
      exact passes_look_possible passes (looks_again_sound again launched)

/-! ## Handing over -/

theorem deploy_gives_created {host : Host} {deployment : Deployment}
    (deployed : (deploy config request host).result = .ok deployment) :
    deployment.containerId = FixtureImages.containerId host.nextId := by
  rw [deploy_eq] at deployed
  obtain ⟨container, made, later⟩ := ok_of_bind deployed
  have tells : Gives (fun given : Deployment => given.containerId = container.id) (do
      let place ← settleLaunch config request container
      waitUntilReady config container place.client
      describe request container place) :=
    gives_bind fun _ => gives_bind fun _ => gives_bind fun _ => gives_pure rfl
  rw [tells _ _ later, created_id_new (created_of_create made)]

/-- When the failures to come name no containers, the deployer hands over its own ones. -/
theorem deploy_hands_over_own {tenant : Tenant}
    (nameless : ∀ failure, tenant.possible failure → failure.containerId = "") (config : Config) :
    HandsOverOwn tenant (deploy config) := by
  intro request host sound id told
  refine .inr fun there => ?_
  obtain ⟨container, member, same⟩ := there
  have new : id ≠ FixtureImages.containerId host.nextId := by
    rw [← same]
    exact sound.containers.unused container member host.nextId (Nat.le_refl _)
  cases ended : (deploy config request host).result with
  | ok deployment =>
      rw [ended] at told
      exact new (told.1.symm.trans (deploy_gives_created ended))
  | error failure =>
      rw [ended] at told
      have through : deployThrough (fun _ => (.ok () : Except Failure Unit)) ClientCache.empty
          config request = deploy config request := deploy_through_of_client rfl
      rw [← through] at ended
      rcases deploy_fails ended with ⟨-, named⟩ | passes
      · have own : failure.containerId = createdId (.ok ()) config request host := by
          rw [Failure.containerId, named]
          rfl
        rcases created_id_cases () config request host with none | made
        · exact told.2 (told.1.symm.trans (own.trans none))
        · exact new (told.1.symm.trans (own.trans made))
      · exact told.2 (told.1.symm.trans (nameless failure (passes_possible passes sound)))

end FixtureImages.Deployment
