import FixtureImages.Proofs.Deployment.Contract
import FixtureImages.Proofs.Labels.Table

/-!
# The environment of a container

A container is told the name of its server, and what the process shares with it. Sharing is written
over the name: a shared variable that comes out as `SERVER_NAME` takes its place, and then it takes
it for every server. Under all other names stands what is shared, and nothing else.
-/

namespace FixtureImages

set_option autoImplicit false

open Action

/-- A call that makes a container. -/
def Call.makesContainer : Call → Bool
  | .createContainer _ => true
  | _ => false

namespace Deployment

variable {stem server name value : String} {process : Labels}

/-- A variable of the process is shared under a name: what it is called has the stem in front of the
name, and neither of them is empty. -/
def Shares (stem : String) (process : Labels) (name value : String) : Prop :=
  stem ≠ "" ∧ name ≠ "" ∧ process.get? (stem ++ name) = some value

theorem shares_unique {other : String} (shared : Shares stem process name value)
    (again : Shares stem process name other) : value = other :=
  Option.some.inj (shared.2.2.symm.trans again.2.2)

/-- What is left of the environment of the process once the variable that is the stem is dropped. -/
theorem get?_without_stem (stem name : String) (process : Labels) :
    (Table.ofList (process.entries.filter (·.1 != stem))).get? (stem ++ name) =
      if name = "" then none else process.get? (stem ++ name) := by
  apply Table.get?_ofList_of_known
  · rintro ⟨key, value⟩ member rfl
    obtain ⟨held, apart⟩ := List.mem_filter.mp member
    have named : name ≠ "" := by
      rintro rfl
      simp at apart
    rw [if_neg named]
    exact Table.get?_of_mem held
  · intro value found
    split at found
    · cases found
    · rename_i named
      refine List.mem_filter.mpr ⟨Table.mem_of_get? found, ?_⟩
      simpa using named

theorem get?_environment (stem server name : String) (process : Labels) :
    (environment stem process server).get? name =
      (if stem = "" ∨ name = "" then none else process.get? (stem ++ name)).or
        (if name = "SERVER_NAME" then some server else none) := by
  have own : ((∅ : Labels).insert "SERVER_NAME" server).get? name =
      if name = "SERVER_NAME" then some server else none := Table.get?_insert _ _ _ _
  rw [environment]
  by_cases bare : stem = ""
  · simp [bare, own]
  · rw [if_neg (by simpa using bare), Table.get?_overlay, Table.get?_cutStem, get?_without_stem,
      own]
    simp [bare]

/-- Under a name stands what is shared under it. Only when nothing is, the name of the server stands
under its own. -/
theorem environment_get_iff :
    (environment stem process server).get? name = some value ↔
      Shares stem process name value ∨
        name = "SERVER_NAME" ∧ value = server ∧ ∀ other, ¬ Shares stem process name other := by
  rw [get?_environment]
  by_cases apart : stem = "" ∨ name = ""
  · have silent (other : String) : ¬ Shares stem process name other := fun shared =>
      apart.elim shared.1 shared.2.1
    simp [apart, silent, eq_comm]
  · have shares (other : String) :
        Shares stem process name other ↔ process.get? (stem ++ name) = some other := by
      obtain ⟨stemmed, named⟩ := not_or.mp apart
      exact ⟨fun shared => shared.2.2, fun found => ⟨stemmed, named, found⟩⟩
    simp only [if_neg apart, shares]
    cases process.get? (stem ++ name) <;> simp [eq_comm]

/-- What a container is told. -/
structure Tells (stem : String) (process : Labels) (server : String) (environment : Labels) :
    Prop where
  /-- Under a name other than `SERVER_NAME` stands exactly what is shared under it. -/
  shared : ∀ name, name ≠ "SERVER_NAME" →
    ∀ value, environment.get? name = some value ↔ Shares stem process name value
  /-- What is shared under that name stands in the place of the server. -/
  replaced : ∀ other, Shares stem process "SERVER_NAME" other →
    environment.get? "SERVER_NAME" = some other
  /-- The container is told its own server exactly if no other name is shared. -/
  own : environment.get? "SERVER_NAME" = some server ↔
    ∀ other, Shares stem process "SERVER_NAME" other → other = server

theorem environment_tells (stem : String) (process : Labels) (server : String) :
    Tells stem process server (environment stem process server) where
  shared name apart value := by
    rw [environment_get_iff]
    exact or_iff_left fun own => apart own.1
  replaced other shared := environment_get_iff.mpr (.inl shared)
  own := by
    rw [environment_get_iff]
    constructor
    · rintro (own | ⟨-, -, silent⟩) other shared
      · exact shares_unique shared own
      · exact absurd shared (silent other)
    · intro only
      by_cases shared : ∃ other, Shares stem process "SERVER_NAME" other
      · obtain ⟨other, shares⟩ := shared
        exact .inl (only other shares ▸ shares)
      · exact .inr ⟨rfl, rfl, not_exists.mp shared⟩

/-! ## The container that is made -/

theorem create_calls (config : Config) (request : DeployRequest) (host : Host) :
    callsOf (create config request host).trace =
      [.createContainer (containerRequest config host.environment request)] := by
  rw [create_apply]
  simp only [created, Daemon.createContainer, bind_apply, perform]
  cases (meetFaults _ host.faults).2 <;> rfl

/-- No second container is made once there is one. -/
theorem launching_makes_none (container : Container) :
    (HostLaw.calling (·.makesContainer = false)).AdmitsLaunching container where
  copy _ _ := HostLaw.calling_perform rfl
  start := Daemon.start_lawful (HostLaw.calling_perform rfl) (HostLaw.calling_change _)
  inspect := Daemon.inspect_lawful (HostLaw.calling_perform rfl) (HostLaw.calling_change _)
  request _ _ :=
    Daemon.request_lawful (HostLaw.calling_emit rfl) (HostLaw.calling_take _) fun _ =>
      HostLaw.calling_change _
  list _ _ := Daemon.list_containers_lawful (HostLaw.calling_perform rfl)
  sleep _ := HostLaw.calling_sleep rfl

/-- A deployment makes one container, and tells it its server unless another name is shared with it.
-/
theorem deploy_tells_server (config : Config) (request : DeployRequest) (host : Host) :
    ∃ creation later,
      callsOf (deploy config request host).trace = .createContainer creation :: later ∧
        (∀ other, Call.createContainer other ∉ later) ∧
        Tells config.sharedStem host.environment request.server creation.environment := by
  refine ⟨containerRequest config host.environment request, ?_⟩
  have tells := environment_tells config.sharedStem host.environment request.server
  have makes := create_calls config request host
  rw [deploy_eq]
  cases made : (create config request host).result with
  | error failure =>
      rw [bind_of_error made, makes]
      exact ⟨[], rfl, fun _ => List.not_mem_nil, tells⟩
  | ok container =>
      rw [bind_of_ok made, calls_of_append, makes]
      refine ⟨_, rfl, fun other member => ?_, tells⟩
      have finishes := finish_lawful (launching_makes_none container) config request
      have makesNone := HostLaw.calling_iff.mp finishes _ _ member
      cases makesNone

/-- With a variable that is shared as `SERVER_NAME`, two servers are told one name, that of neither.
-/
theorem servers_told_one_name :
    let process : Labels := Table.ofList [("SHARE_SERVER_NAME", "other")]
    (environment "SHARE_" process "hs1").get? "SERVER_NAME" = some "other" ∧
      (environment "SHARE_" process "hs2").get? "SERVER_NAME" = some "other" := by
  decide +kernel

end Deployment

end FixtureImages
