import FixtureImages.Proofs.Daemon.Law

/-!
# Calls that are made

A trace without its log records is the list of calls that were made. Each call of the daemon makes
exactly itself; which calls a removal or a diagnosis makes depends on the container that it finds.
Removals and diagnoses never fail.
-/

namespace FixtureImages

set_option autoImplicit false

open Action

variable {Problem α : Type}

def Event.call? : Event → Option Call
  | .call made => some made
  | .log _ => none

/-- The calls of a trace, in order. -/
def callsOf (events : List Event) : List Call := events.filterMap Event.call?

@[simp] theorem calls_of_nil : callsOf [] = [] := rfl

@[simp] theorem calls_of_call (made : Call) (events : List Event) :
    callsOf (.call made :: events) = made :: callsOf events := rfl

@[simp] theorem calls_of_log (record : LogRecord) (events : List Event) :
    callsOf (.log record :: events) = callsOf events := rfl

@[simp] theorem calls_of_append (front back : List Event) :
    callsOf (front ++ back) = callsOf front ++ callsOf back := List.filterMap_append

theorem mem_calls_of {made : Call} {events : List Event} :
    made ∈ callsOf events ↔ .call made ∈ events := by
  simp only [callsOf, List.mem_filterMap]
  constructor
  · rintro ⟨event, member, called⟩
    cases event with
    | call other =>
        simp only [Event.call?, Option.some.injEq] at called
        exact called ▸ member
    | log record => simp [Event.call?] at called
  · intro member
    exact ⟨.call made, member, rfl⟩

/-- A law about calls, read at one trace. -/
theorem HostLaw.calling_iff {allowed : Call → Prop} {action : HostAction Problem α} :
    (HostLaw.calling allowed).holds action ↔
      ∀ host, ∀ made ∈ callsOf (action host).trace, allowed made := by
  constructor
  · intro holds host made member
    exact holds host _ (mem_calls_of.mp member) made rfl
  · rintro allows host event member made rfl
    exact allows host made (mem_calls_of.mpr member)

@[simp] theorem note_apply (level : LogLevel) (source : LogSource) (message : String)
    (host : Host) :
    (note level source message : HostAction Problem Unit) host =
      ⟨.ok (), host, [.log ⟨level, source, message⟩]⟩ := rfl

theorem note_bind_apply (level : LogLevel) (source : LogSource) (message : String)
    (next : Unit → HostAction Problem α) (host : Host) :
    (note level source message >>= next) host =
      ⟨(next () host).result, (next () host).state,
        .log ⟨level, source, message⟩ :: (next () host).trace⟩ := rfl

theorem succeeds_note (level : LogLevel) (source : LogSource) (message : String) :
    Succeeds (note level source message : HostAction Problem Unit) := succeeds_emit _

namespace Daemon

private theorem perform_then_trace {call : Call} {next : Unit → HostAction Failure α}
    (silent : ∀ host, (next () host).trace = []) (host : Host) :
    ((perform call >>= next) host).trace = [.call call] := by
  simp only [bind_apply, perform]
  cases (meetFaults call host.faults).2 with
  | some failure => rfl
  | none => simp [silent]

@[simp] theorem list_networks_trace (filters : List String) (host : Host) :
    (listNetworks filters host).trace = [.call (.listNetworks filters)] :=
  perform_then_trace (fun _ => rfl) host

@[simp] theorem get_container_trace (id : String) (host : Host) :
    (getContainer id host).trace = [.call (.getContainer id)] := by
  refine perform_then_trace (fun host => ?_) host
  simp only [bind_apply, look]
  cases host.containers.find? (·.id == id) <;> rfl

@[simp] theorem kill_trace (container : Container) (signal : String) (host : Host) :
    (kill container signal host).trace = [.call (.kill container.name signal)] :=
  perform_then_trace (fun _ => rfl) host

@[simp] theorem remove_container_trace (container : Container) (force : Bool) (host : Host) :
    (removeContainer container force host).trace =
      [.call (.removeContainer container.name force)] := by
  refine perform_then_trace (fun host => ?_) host
  simp only [bind_apply, look]
  cases host.containers.find? (·.id == container.id) with
  | none => rfl
  | some current =>
      dsimp only
      split <;> rfl

@[simp] theorem commit_trace (container : Container) (request : CommitRequest) (host : Host) :
    (commit container request host).trace = [.call (.commit container.name request)] :=
  perform_then_trace (fun _ => rfl) host

@[simp] theorem read_log_trace (container : Container) (host : Host) :
    (readLog container host).trace = [.call (.readLog container.name true true false)] :=
  perform_then_trace (fun _ => rfl) host

@[simp] theorem remove_network_trace (id name : String) (host : Host) :
    (removeNetwork id name host).trace = [.call (.removeNetwork name)] := by
  refine perform_then_trace (fun host => ?_) host
  simp only [bind_apply, look]
  split
  · rfl
  · simp only [bind_apply, look]
    split <;> rfl

end Daemon

/-- The container that a fetch by its identifier gives on a host, if it gives one. -/
def fetched (id : String) (host : Host) : Option Container :=
  (Daemon.getContainer id host).result.toOption

/-- A container is fetched, and killed if it is found running. -/
def killCalls (id : String) (host : Host) : List Call :=
  .getContainer id ::
    match fetched id host with
    | none => []
    | some container => if container.showsRunning then [.kill container.name "KILL"] else []

/-- A container is fetched, and removed by force if it is found. -/
def removalCalls (id : String) (host : Host) : List Call :=
  .getContainer id ::
    match fetched id host with
    | none => []
    | some container => [.removeContainer container.name true]

/-- A container is fetched, and its log is read if it is found. -/
def logCalls (id : String) (host : Host) : List Call :=
  .getContainer id ::
    match fetched id host with
    | none => []
    | some container => [.readLog container.name true true false]

namespace Catalog

theorem kill_container_calls (id context : String) (host : Host) :
    callsOf (killContainer id context host : Outcome Host Event Problem Bool).trace =
      killCalls id host := by
  rw [killContainer, attempt_bind_apply]
  unfold killCalls fetched
  cases (Daemon.getContainer id host).result with
  | error failure => simp [bind_apply, pure_apply, Except.toOption, noteHere]
  | ok container =>
      simp only [Except.toOption]
      cases shown : container.showsRunning with
      | false => simp [pure_apply]
      | true =>
          generalize (Daemon.getContainer id host).state = after
          simp only [Bool.not_true, Bool.false_eq_true, if_false, if_true, attempt_bind_apply]
          cases (Daemon.kill container "KILL" after).result <;>
            simp [bind_apply, pure_apply, noteHere]

theorem remove_container_calls (id context : String) (host : Host) :
    callsOf (removeContainer id context host : Outcome Host Event Problem Bool).trace =
      removalCalls id host := by
  rw [removeContainer, attempt_bind_apply]
  unfold removalCalls fetched
  simp only [bind_apply]
  cases (Daemon.getContainer id host).result with
  | error failure =>
      simp only [Except.toOption]
      split <;> simp [bind_apply, pure_apply, noteHere]
  | ok container =>
      simp only [Except.toOption]
      cases (Daemon.removeContainer container true (Daemon.getContainer id host).state).result with
      | error failure =>
          dsimp only
          split <;> simp [bind_apply, pure_apply, noteHere]
      | ok _ => simp [bind_apply, pure_apply, noteHere]

theorem print_log_calls (id context : String) (host : Host) :
    callsOf (printLog id context host : Outcome Host Event Problem Unit).trace =
      logCalls id host := by
  rw [printLog, attempt_bind_apply]
  unfold logCalls fetched
  simp only [containerLog, bind_apply]
  cases (Daemon.getContainer id host).result with
  | error failure => simp [Except.toOption, noteHere]
  | ok container =>
      simp only [Except.toOption]
      cases (Daemon.readLog container (Daemon.getContainer id host).state).result <;>
        simp [pure_apply, noteHere]

theorem remove_network_calls (id name : String) (host : Host) :
    callsOf (removeNetwork id name host : Outcome Host Event Problem Bool).trace =
      [.removeNetwork name] := by
  rw [removeNetwork, attempt_bind_apply]
  cases (Daemon.removeNetwork id name host).result with
  | ok _ => simp [bind_apply, pure_apply, noteHere]
  | error failure =>
      dsimp only
      split
      · simp [pure_apply]
      · split <;> simp [bind_apply, pure_apply, noteHere]

theorem succeeds_kill_container (id context : String) :
    Succeeds (killContainer id context : HostAction Problem Bool) := by
  refine succeeds_bind (succeeds_attempt _) fun found => ?_
  cases found with
  | error failure => exact succeeds_bind (succeeds_note _ _ _) fun _ => succeeds_pure _
  | ok container =>
      dsimp only
      split
      · exact succeeds_pure _
      · refine succeeds_bind (succeeds_attempt _) fun killed => ?_
        cases killed with
        | error failure => exact succeeds_bind (succeeds_note _ _ _) fun _ => succeeds_pure _
        | ok _ => exact succeeds_pure _

theorem succeeds_remove_container (id context : String) :
    Succeeds (removeContainer id context : HostAction Problem Bool) := by
  refine succeeds_bind (succeeds_attempt _) fun removed => ?_
  cases removed with
  | ok _ => exact succeeds_bind (succeeds_note _ _ _) fun _ => succeeds_pure _
  | error failure =>
      dsimp only
      split
      · exact succeeds_pure _
      · exact succeeds_bind (succeeds_note _ _ _) fun _ => succeeds_pure _

theorem succeeds_print_port_bindings (context : String) :
    Succeeds (printPortBindings context : HostAction Problem Unit) := by
  refine succeeds_bind (succeeds_attempt _) fun listed => ?_
  cases listed <;> exact succeeds_note _ _ _

theorem succeeds_print_log (id context : String) :
    Succeeds (printLog id context : HostAction Problem Unit) := by
  refine succeeds_bind (succeeds_attempt _) fun read => ?_
  cases read <;> exact succeeds_note _ _ _

theorem succeeds_remove_network (id name : String) :
    Succeeds (removeNetwork id name : HostAction Problem Bool) := by
  refine succeeds_bind (succeeds_attempt _) fun removed => ?_
  cases removed with
  | ok _ => exact succeeds_bind (succeeds_note _ _ _) fun _ => succeeds_pure _
  | error failure =>
      dsimp only
      split
      · exact succeeds_pure _
      · split <;> exact succeeds_bind (succeeds_note _ _ _) fun _ => succeeds_pure _

theorem succeeds_remove_all {Item : Type} {name : Item → String}
    {remove : Item → HostAction Problem Bool} (removes : ∀ item, Succeeds (remove item))
    (items : List Item) : Succeeds (removeAll name remove items) := by
  induction items with
  | nil => exact succeeds_pure _
  | cons item rest ih =>
      exact succeeds_bind (removes item) fun _ => succeeds_bind ih fun _ => succeeds_pure _

end Catalog

end FixtureImages
