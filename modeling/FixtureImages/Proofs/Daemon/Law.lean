import FixtureImages.Catalog
import FixtureImages.Proofs.Action.Law

/-!
# Laws of calls

A law of actions on the host that admits log records holds of a call of the daemon when it holds of
the call being made and of the one change that it makes. The removals and diagnostics of the catalog
follow from their calls.
-/

namespace FixtureImages

set_option autoImplicit false

open Action

variable {Problem : Type}

/-- A law of actions on the host which does not mind what is logged. -/
structure HostLaw extends Law Host Event where
  log : ∀ {Problem : Type} (record : LogRecord),
    holds (emit (.log record) : HostAction Problem Unit)

/-- The frame admits what a call uses up of the failures to come. -/
def Frame.Meets (frame : Frame Host) (call : Call) : Prop :=
  ∀ host : Host, frame.holds host { host with faults := (meetFaults call host.faults).1 }

namespace HostLaw

def keeping (frame : Frame Host) : HostLaw where
  toLaw := frame.kept
  log _ := frame.refl

/-- The law that all calls are allowed. -/
def calling (allowed : Call → Prop) : HostLaw where
  toLaw := Law.emitting fun event => ∀ call, event = .call call → allowed call
  log record _ event member call called := by
    rw [List.mem_singleton.mp member] at called
    cases called

theorem keeping_change {frame : Frame Host} {update : Host → Host}
    (admits : ∀ host, frame.holds host (update host)) :
    (keeping frame).holds (change update : HostAction Problem Unit) := admits

theorem keeping_take {α : Type} {frame : Frame Host} {step : Host → α × Host}
    (admits : ∀ host, frame.holds host (step host).2) :
    (keeping frame).holds (take step : HostAction Problem α) := admits

/-- What is done with an attempt may rely on what it gives where the frame holds. -/
theorem since_attempt_bind {α β : Type} {frame : Frame Host} {origin : Host} {known : α → Prop}
    {first : HostAction Failure α} {next : Except Failure α → HostAction Problem β}
    (kept : (keeping (frame.since origin)).holds first)
    (gives : Frame.GivesSince frame origin known first)
    (failing : ∀ failure, (keeping (frame.since origin)).holds (next (.error failure)))
    (given : ∀ value, known value → (keeping (frame.since origin)).holds (next (.ok value))) :
    (keeping (frame.since origin)).holds (attempt first >>= next) := by
  have attempted : Frame.GivesSince frame origin
      (fun outcome : Except Failure α => ∀ value, outcome = .ok value → known value)
      (attempt first : HostAction Problem _) := by
    intro host since outcome same value succeeded
    obtain rfl : (first host).result = outcome := Except.ok.inj same
    exact gives host since value succeeded
  refine Frame.since_bind (Law.attempt _ kept) attempted ?_
  intro outcome known
  cases outcome with
  | error failure => exact failing failure
  | ok value => exact given value (known value rfl)

theorem calling_change {allowed : Call → Prop} (update : Host → Host) :
    (calling allowed).holds (change update : HostAction Problem Unit) :=
  fun _ _ member => absurd member List.not_mem_nil

theorem calling_take {α : Type} {allowed : Call → Prop} (step : Host → α × Host) :
    (calling allowed).holds (take step : HostAction Problem α) :=
  fun _ _ member => absurd member List.not_mem_nil

theorem calling_perform {allowed : Call → Prop} {call : Call} (allows : allowed call) :
    (calling allowed).holds (perform call) := by
  intro host event member made called
  rw [List.mem_singleton.mp member] at called
  cases called
  exact allows

variable (law : HostLaw)

theorem note (level : LogLevel) (source : LogSource) (message : String) :
    law.holds (note level source message : HostAction Problem Unit) := law.log _

end HostLaw

namespace Daemon

variable {law : HostLaw}

theorem list_networks_lawful {filters : List String}
    (performs : law.holds (perform (.listNetworks filters))) :
    law.holds (listNetworks filters) :=
  law.bind performs fun _ => law.look _

theorem list_images_lawful {filters : List String}
    (performs : law.holds (perform (.listImages filters))) : law.holds (listImages filters) :=
  law.bind performs fun _ => law.look _

theorem get_container_lawful {id : String} (performs : law.holds (perform (.getContainer id))) :
    law.holds (getContainer id) := by
  refine law.bind performs fun _ => law.bind (law.look _) fun found => ?_
  cases found with
  | none => exact law.fail _
  | some container => exact law.pure _

theorem get_container_gives (id : String) :
    Gives (fun container => container.id = id) (getContainer id) := by
  refine gives_bind fun _ => ?_
  intro host container given
  simp only [bind_apply, look] at given
  cases found : host.containers.find? (·.id == id) with
  | none =>
      rw [found] at given
      cases given
  | some other =>
      rw [found] at given
      cases given
      simpa using List.find?_some found

theorem remove_image_lawful {id : String} {force : Bool}
    (performs : law.holds (perform (.removeImage id force)))
    (drops : law.holds (change (Host.dropImage id) : HostAction Failure Unit)) :
    law.holds (removeImage id force) := by
  refine law.bind performs fun _ => law.bind (law.look _) fun found => ?_
  split
  · exact drops
  · exact law.fail _

theorem create_container_lawful {request : ContainerRequest}
    (performs : law.holds (perform (.createContainer request)))
    (adds : law.holds (take (Host.addContainer none (Host.requestedContainer request)) :
      HostAction Failure Container)) :
    law.holds (createContainer request) := law.bind performs fun _ => adds

theorem remove_network_lawful {id name : String}
    (performs : law.holds (perform (.removeNetwork name)))
    (drops : law.holds (change (Host.dropNetwork id) : HostAction Failure Unit)) :
    law.holds (removeNetwork id name) := by
  refine law.bind performs fun _ => law.bind (law.look _) fun gone => ?_
  split
  · exact law.fail _
  · refine law.bind (law.look _) fun attached => ?_
    split
    · exact law.fail _
    · exact drops

theorem create_network_lawful {name driver : String} {labels : Labels}
    (performs : law.holds (perform (.createNetwork name driver labels)))
    (adds : law.holds (take (Host.addNetwork name (some labels) none false) :
      HostAction Failure String)) :
    law.holds (createNetwork name driver labels) := by
  refine law.bind performs fun _ => law.bind (law.look _) fun reply => ?_
  cases reply with
  | none => exact law.bind adds fun _ => law.bind (law.look _) fun _ => law.pure _
  | some reply => exact law.pure _

theorem list_containers_lawful {all : Bool} {filters : List String}
    (performs : law.holds (perform (.listContainers all filters))) :
    law.holds (listContainers all filters) :=
  law.bind performs fun _ => law.look _

theorem inspect_lawful {container : Container}
    (performs : law.holds (perform (.inspect container.name)))
    (counts : law.holds (change (Host.updateContainer container.id Host.countInspection) :
      HostAction Failure Unit)) :
    law.holds (inspect container) :=
  law.bind performs fun _ => law.bind counts fun _ => law.look _

theorem start_lawful {container : Container}
    (performs : law.holds (perform (.start container.name)))
    (starts : law.holds (change (Host.startContainer container.id) : HostAction Failure Unit)) :
    law.holds (start container) := law.bind performs fun _ => starts

theorem request_lawful {url : String} {timeout : Binary64}
    (calls : law.holds (emit (.call (.get url timeout)) : HostAction Failure Unit))
    (takes : law.holds (take Host.nextAnswer : HostAction Failure HttpAnswer))
    (passes : ∀ cost, law.holds (change fun host => { host with clock := host.clock + cost } :
      HostAction Failure Unit)) :
    law.holds (request url timeout) :=
  law.bind calls fun _ => law.bind takes fun _ => law.bind (passes _) fun _ => law.of_except _

theorem stop_lawful {container : Container} {grace : Nat}
    (performs : law.holds (perform (.stop container.name grace)))
    (halts : law.holds (halt container)) : law.holds (stop container grace) :=
  law.bind performs fun _ => halts

theorem kill_lawful {container : Container} {signal : String}
    (performs : law.holds (perform (.kill container.name signal)))
    (halts : law.holds (halt container)) : law.holds (kill container signal) :=
  law.bind performs fun _ => halts

theorem remove_container_lawful {container : Container} {force : Bool}
    (performs : law.holds (perform (.removeContainer container.name force)))
    (drops : law.holds (change (Host.dropContainer container.id) : HostAction Failure Unit)) :
    law.holds (removeContainer container force) := by
  refine law.bind performs fun _ => law.bind (law.look _) fun found => ?_
  cases found with
  | none => exact law.fail _
  | some current =>
      dsimp only
      split
      · exact law.fail _
      · exact drops

theorem read_log_lawful {container : Container}
    (performs : law.holds (perform (.readLog container.name true true false))) :
    law.holds (readLog container) := law.bind performs fun _ => law.pure _

theorem commit_lawful {container : Container} {request : CommitRequest}
    (performs : law.holds (perform (.commit container.name request)))
    (commits : law.holds (take (Host.commitContainer container request) :
      HostAction Failure Image)) :
    law.holds (commit container request) := law.bind performs fun _ => commits

theorem sleep_lawful {pause : Nat}
    (calls : law.holds (emit (.call (.sleep pause)) : HostAction Problem Unit))
    (passes : law.holds (change fun host => { host with clock := host.clock + pause } :
      HostAction Problem Unit)) :
    law.holds (sleep pause : HostAction Problem Unit) := law.bind calls fun _ => passes

end Daemon

theorem HostLaw.calling_emit {allowed : Call → Prop} {call : Call} (allows : allowed call) :
    (calling allowed).holds (emit (.call call) : HostAction Problem Unit) := by
  intro host event member made called
  rw [List.mem_singleton.mp member] at called
  cases called
  exact allows

theorem HostLaw.calling_sleep {allowed : Call → Prop} {pause : Nat}
    (allows : allowed (.sleep pause)) :
    (calling allowed).holds (Daemon.sleep pause : HostAction Problem Unit) :=
  Daemon.sleep_lawful (calling_emit allows) (calling_change _)

namespace Catalog

variable {law : HostLaw}

theorem kill_container_lawful {id context : String}
    (gets : law.holds (Daemon.getContainer id))
    (kills : ∀ container, container.id = id → law.holds (Daemon.kill container "KILL")) :
    law.holds (killContainer id context : HostAction Problem Bool) := by
  refine law.bindGiven (law.attempt gets) fun host fetched given => ?_
  have result : (Daemon.getContainer id host).result = fetched := Except.ok.inj given
  cases fetched with
  | error failure => exact law.bind (law.note _ _ _) fun _ => law.pure _
  | ok container =>
      have own := Daemon.get_container_gives id host container result
      dsimp only
      split
      · exact law.pure _
      · refine law.bind (law.attempt (kills container own)) fun killed => ?_
        cases killed with
        | error failure => exact law.bind (law.note _ _ _) fun _ => law.pure _
        | ok _ => exact law.pure _

theorem remove_container_lawful {id context : String}
    (gets : law.holds (Daemon.getContainer id))
    (removes : ∀ container, container.id = id →
      law.holds (Daemon.removeContainer container true)) :
    law.holds (removeContainer id context : HostAction Problem Bool) := by
  have drops : law.holds (do Daemon.removeContainer (← Daemon.getContainer id) true) :=
    law.bindGiven gets fun host container given =>
      removes container (Daemon.get_container_gives id host container given)
  refine law.bind (law.attempt drops) fun removed => ?_
  cases removed with
  | ok _ => exact law.bind (law.note _ _ _) fun _ => law.pure _
  | error failure =>
      dsimp only
      split
      · exact law.pure _
      · exact law.bind (law.note _ _ _) fun _ => law.pure _

theorem remove_network_lawful {id name : String}
    (removes : law.holds (Daemon.removeNetwork id name)) :
    law.holds (removeNetwork id name : HostAction Problem Bool) := by
  refine law.bind (law.attempt removes) fun removed => ?_
  cases removed with
  | ok _ => exact law.bind (law.note _ _ _) fun _ => law.pure _
  | error failure =>
      dsimp only
      split
      · exact law.pure _
      · split <;> exact law.bind (law.note _ _ _) fun _ => law.pure _

theorem remove_image_lawful {id : String} (removes : law.holds (Daemon.removeImage id true)) :
    law.holds (removeImage id : HostAction Problem Bool) := by
  refine law.bind (law.attempt removes) fun removed => ?_
  cases removed with
  | ok _ => exact law.bind (law.note _ _ _) fun _ => law.pure _
  | error failure =>
      dsimp only
      split
      · exact law.pure _
      · exact law.bind (law.note _ _ _) fun _ => law.pure _

theorem remove_all_lawful {α : Type} {name : α → String} {remove : α → HostAction Problem Bool}
    {items : List α} (removes : ∀ item ∈ items, law.holds (remove item)) :
    law.holds (removeAll name remove items) := by
  induction items with
  | nil => exact law.pure _
  | cons item rest ih =>
      have others := fun other member => removes other (List.mem_cons_of_mem _ member)
      exact law.bind (removes item List.mem_cons_self) fun _ =>
        law.bind (ih others) fun _ => law.pure _

theorem print_port_bindings_lawful {context : String}
    (lists : law.holds (listContainers .everything)) :
    law.holds (printPortBindings context : HostAction Problem Unit) := by
  refine law.bind (law.attempt lists) fun listed => ?_
  cases listed <;> exact law.note _ _ _

theorem print_log_lawful {id context : String} (gets : law.holds (Daemon.getContainer id))
    (reads : ∀ container, law.holds (Daemon.readLog container)) :
    law.holds (printLog id context : HostAction Problem Unit) := by
  have shows : law.holds (containerLog id) :=
    law.bind gets fun container => law.bind (reads container) fun _ => law.pure _
  refine law.bind (law.attempt shows) fun shown => ?_
  cases shown <;> exact law.note _ _ _

end Catalog

end FixtureImages
