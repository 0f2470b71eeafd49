import FixtureImages.Proofs.Daemon.Faults
import FixtureImages.Proofs.Labels.Query
import FixtureImages.Provision

/-!
# Effects of removals

What a removal leaves behind when its calls meet no failure. A container is gone, whether it was
running or not. A network of a blueprint is gone unless a running container is attached to it.
-/

namespace FixtureImages

set_option autoImplicit false

open Action

variable {Problem : Type}

/-- Whether a running container is attached to a network of this name. -/
def Host.hasEndpoint (name : String) (host : Host) : Bool :=
  host.containers.any fun container => container.running && container.network == some name

namespace Daemon

theorem perform_undisturbed {call : Call} {host : Host}
    (undisturbed : (meetFaults call host.faults).2 = none) :
    perform call host =
      ⟨.ok (), { host with faults := (meetFaults call host.faults).1 }, [.call call]⟩ := by
  simp [perform, undisturbed]

theorem get_container_undisturbed {id : String} {host : Host}
    (undisturbed : (meetFaults (.getContainer id) host.faults).2 = none) :
    getContainer id host =
      ⟨match host.containers.find? (·.id == id) with
        | some container => .ok container
        | none => .error (missing "container" id),
        { host with faults := (meetFaults (.getContainer id) host.faults).1 },
        [.call (.getContainer id)]⟩ := by
  simp only [getContainer, bind_apply, perform_undisturbed undisturbed, look]
  cases host.containers.find? (·.id == id) <;> rfl

theorem remove_container_undisturbed {container : Container} {host : Host}
    (undisturbed : (meetFaults (.removeContainer container.name true) host.faults).2 = none) :
    (removeContainer container true host).state.containers =
      host.containers.filter (·.id != container.id) := by
  simp only [removeContainer, bind_apply, perform_undisturbed undisturbed, look]
  cases found : host.containers.find? (·.id == container.id) with
  | some current => simp [change, Host.dropContainer]
  | none =>
      have absent : ∀ other ∈ host.containers, other.id ≠ container.id := by
        simpa using found
      symm
      simpa [fail] using absent

theorem list_networks_undisturbed {filters : List String} {host : Host}
    (undisturbed : (meetFaults (.listNetworks filters) host.faults).2 = none) :
    listNetworks filters host =
      ⟨.ok (host.networks.filter fun network =>
          network.always || meetsFilters filters network.labels),
        { host with faults := (meetFaults (.listNetworks filters) host.faults).1 },
        [.call (.listNetworks filters)]⟩ := by
  simp [listNetworks, bind_apply, perform_undisturbed undisturbed, look]

theorem remove_network_undisturbed {id name : String} {host : Host}
    (undisturbed : (meetFaults (.removeNetwork name) host.faults).2 = none) :
    (removeNetwork id name host).state =
      { host with
        faults := (meetFaults (.removeNetwork name) host.faults).1
        networks :=
          if host.hasEndpoint name then host.networks else host.networks.filter (·.id != id) } := by
  simp only [removeNetwork, bind_apply, perform_undisturbed undisturbed, look]
  by_cases gone : host.networks.any (·.id == id)
  · simp only [gone, Bool.not_true, Bool.false_eq_true, if_false, bind_apply, look]
    by_cases attached : host.hasEndpoint name
    · have held := attached
      simp only [Host.hasEndpoint] at held
      simp [held, attached, fail]
    · have free := attached
      simp only [Host.hasEndpoint] at free
      simp only [free, attached]
      rfl
  · have absent : ∀ other ∈ host.networks, other.id ≠ id := by simpa using gone
    have whole : host.networks.filter (·.id != id) = host.networks := by simpa using absent
    simp [gone, whole]

end Daemon

namespace Catalog

theorem remove_container_state (id context : String) (host : Host) :
    (removeContainer id context host : Outcome Host Event Problem Bool).state =
      ((do Daemon.removeContainer (← Daemon.getContainer id) true :
        HostAction Failure Unit) host).state := by
  rw [removeContainer, attempt_bind_apply]
  generalize (do Daemon.removeContainer (← Daemon.getContainer id) true :
    HostAction Failure Unit) host = outcome
  cases outcome.result with
  | ok _ => rfl
  | error failure =>
      dsimp only
      split <;> rfl

theorem remove_network_state (id name : String) (host : Host) :
    (removeNetwork id name host : Outcome Host Event Problem Bool).state =
      (Daemon.removeNetwork id name host).state := by
  rw [removeNetwork, attempt_bind_apply]
  cases (Daemon.removeNetwork id name host).result with
  | ok _ => rfl
  | error failure =>
      dsimp only
      split
      · rfl
      · split <;> rfl

/-- A removal that is not disturbed leaves no container with the identifier, and all others. -/
theorem remove_container_undisturbed {id context : String} {host : Host}
    (undisturbed : Undisturbed host.faults (removalCalls id host)) :
    (removeContainer id context host : Outcome Host Event Problem Bool).state.containers =
      host.containers.filter (·.id != id) := by
  obtain ⟨fetches, removes⟩ := undisturbed
  have got := Daemon.get_container_undisturbed fetches
  rw [remove_container_state]
  cases found : host.containers.find? (·.id == id) with
  | none =>
      simp only [found] at got
      have absent : ∀ other ∈ host.containers, other.id ≠ id := by simpa using found
      symm
      simpa [bind_apply, got] using absent
  | some container =>
      simp only [found] at got
      have same : container.id = id := by simpa using List.find?_some found
      simp only [fetched, got, Except.toOption, Undisturbed] at removes
      simp [bind_apply, got, Daemon.remove_container_undisturbed, removes.1, same]

theorem remove_network_undisturbed {id name : String} {host : Host}
    (undisturbed : (meetFaults (.removeNetwork name) host.faults).2 = none) :
    (removeNetwork id name host : Outcome Host Event Problem Bool).state =
      { host with
        faults := (meetFaults (.removeNetwork name) host.faults).1
        networks :=
          if host.hasEndpoint name then host.networks
          else host.networks.filter (·.id != id) } := by
  rw [remove_network_state, Daemon.remove_network_undisturbed undisturbed]

/-- Removing networks one after the other touches nothing but networks, and leaves of those that
were asked for only the ones with an endpoint. -/
theorem remove_all_networks_undisturbed (items : List Network) (host : Host)
    (undisturbed : Undisturbed host.faults (items.map fun item => .removeNetwork item.name)) :
    let after := (removeAll Network.name (fun item => removeNetwork item.id item.name) items host :
      Outcome Host Event Problem (List String)).state
    after.containers = host.containers ∧
      ∀ network ∈ after.networks, network ∈ host.networks ∧
        (network ∈ items → host.hasEndpoint network.name = true) := by
  induction items generalizing host with
  | nil => exact ⟨rfl, fun network member => ⟨member, fun asked => absurd asked (by simp)⟩⟩
  | cons item rest ih =>
      obtain ⟨first, later⟩ := undisturbed
      have step := @remove_network_undisturbed Problem item.id _ _ first
      obtain ⟨removed, outcome⟩ :=
        @succeeds_remove_network Problem item.id item.name host
      obtain ⟨others, final⟩ := @succeeds_remove_all Problem _ Network.name _
        (fun item => succeeds_remove_network item.id item.name) rest
        (removeNetwork item.id item.name host : Outcome Host Event Problem Bool).state
      have next := ih (removeNetwork item.id item.name host : Outcome Host Event Problem Bool).state
        (by rw [step]; exact later)
      simp only [removeAll, bind_of_ok outcome, bind_of_ok final, pure_apply]
      obtain ⟨containers, networks⟩ := next
      simp only [step] at containers networks ⊢
      refine ⟨containers, fun network member => ?_⟩
      obtain ⟨kept, asked⟩ := networks network member
      by_cases attached : host.hasEndpoint item.name = true
      · simp only [attached, if_true] at kept
        refine ⟨kept, fun wanted => ?_⟩
        rcases List.mem_cons.mp wanted with rfl | further
        · exact attached
        · exact asked further
      · simp only [attached, Bool.false_eq_true, if_false, List.mem_filter, bne_iff_ne, ne_eq]
          at kept
        refine ⟨kept.1, fun wanted => ?_⟩
        rcases List.mem_cons.mp wanted with rfl | further
        · exact absurd rfl kept.2
        · exact asked further

end Catalog

end FixtureImages
