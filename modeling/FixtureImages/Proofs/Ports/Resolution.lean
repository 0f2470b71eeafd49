import FixtureImages.Port
import FixtureImages.Proofs.Action.Law
import FixtureImages.Proofs.Labels.Table

/-!
# Where a port is reached

A daemon reports for each port of a container a list of bindings, or null. The binding that a port
is reached through is chosen in three searches through the whole list, one after the other: for the
wanted address, for all interfaces, and, if the wanted address is the loopback address, for no
address. Main statement: which port is reached through which binding, always at the wanted address,
and that none is reached otherwise.
-/

namespace FixtureImages

set_option autoImplicit false

open Action

/-- What a daemon reports of one binding, by key. -/
abbrev ReportedBinding : Type := Table Value

/-- What a daemon reports of the ports of a container. -/
abbrev ReportedPorts : Type := Table (Option (List ReportedBinding))

def bindingValue (binding : ReportedBinding) : Value :=
  .map (binding.entries.map fun entry => (.text entry.1, entry.2))

def bindingsValue (bindings : Option (List ReportedBinding)) : Value :=
  (bindings.map fun bindings => .list (bindings.map bindingValue)).getD .null

/-- Reported ports, or null, as untyped data. -/
def portsValue (ports : Option ReportedPorts) : Value :=
  (ports.map fun ports =>
    .map (ports.entries.map fun entry => (.text entry.1, bindingsValue entry.2))).getD .null

/-! ## What a binding means -/

/-- A text means itself, and what stands for nothing means the empty text. -/
inductive Means : Value → String → Prop
  | text (text : String) : Means (.text text) text
  | nothing {value : Value} (nothing : value.isNothing = true) : Means value ""

/-- The address of a binding stands under the first of its two spellings that is present. Without
either the address is empty. -/
inductive BoundTo (binding : ReportedBinding) : String → Prop
  | usual {value : Value} {address : String} (present : binding.get? "HostIp" = some value)
      (means : Means value address) : BoundTo binding address
  | other {value : Value} {address : String} (absent : binding.get? "HostIp" = none)
      (present : binding.get? "HostIP" = some value) (means : Means value address) :
      BoundTo binding address
  | neither (absent : binding.get? "HostIp" = none) (too : binding.get? "HostIP" = none) :
      BoundTo binding ""

/-- A binding leads to a port of the host. -/
def LeadsTo (binding : ReportedBinding) (port : String) : Prop :=
  ∃ value, binding.get? "HostPort" = some value ∧ value.isNothing = false ∧ value.display = port

/-- A binding leads nowhere: it has no port of the host, or one that stands for nothing. -/
def LeadsNowhere (binding : ReportedBinding) : Prop :=
  ∀ value, binding.get? "HostPort" = some value → value.isNothing = true

/-- The port of the host that is read off a binding. It is empty if the binding leads nowhere. -/
def PortOf (binding : ReportedBinding) (port : String) : Prop :=
  LeadsTo binding port ∨ LeadsNowhere binding ∧ port = ""

/-! ## Which binding is chosen -/

/-- The first of some bindings with an address. -/
def FirstAt (address : String) (bindings : List ReportedBinding) (binding : ReportedBinding) :
    Prop :=
  ∃ before after, bindings = before ++ binding :: after ∧ BoundTo binding address ∧
    ∀ other ∈ before, ¬ BoundTo other address

def NoneAt (address : String) (bindings : List ReportedBinding) : Prop :=
  ∀ binding ∈ bindings, ¬ BoundTo binding address

/-- The binding through which a wanted address is reached. -/
inductive Chosen (wanted : String) (bindings : List ReportedBinding) (binding : ReportedBinding) :
    Prop
  | named (first : FirstAt wanted bindings binding) : Chosen wanted bindings binding
  | everywhere (noneNamed : NoneAt wanted bindings)
      (first : FirstAt allInterfaces bindings binding) : Chosen wanted bindings binding
  | unnamed (noneNamed : NoneAt wanted bindings) (noneElse : NoneAt allInterfaces bindings)
      (near : wanted = loopback) (first : FirstAt "" bindings binding) :
      Chosen wanted bindings binding

/-- These bindings are reported for a port. -/
def ListedFor (ports : Option ReportedPorts) (port : String) (bindings : List ReportedBinding) :
    Prop :=
  ∃ reported, ports = some reported ∧ reported.get? port = some (some bindings)

/-! ## Reading the reported data -/

theorem field_of_table {α : Type} (table : Table α) (value : α → Value) (key : String) :
    Value.field? (table.entries.map fun entry => (.text entry.1, value entry.2)) key =
      (table.get? key).map value := by
  simp [Value.field?, Table.get?, List.find?_map, Function.comp_def, beq_eq_decide]

theorem means_iff {value : Value} {text : String} :
    reportedAddress (some value) = some text ↔ Means value text := by
  constructor
  · intro read
    cases value with
    | text own => exact Option.some.inj read ▸ .text own
    | _ =>
        simp only [reportedAddress] at read
        split at read
        · cases read
          exact .nothing ‹_›
        · cases read
  · rintro (_ | nothing)
    · rfl
    · cases value with
      | text own => simpa [reportedAddress, Value.isNothing, String.isEmpty_iff] using nothing
      | _ => simp [reportedAddress, nothing]

/-- The binding as it is read. -/
def readBinding (binding : ReportedBinding) : Binding := .ofValue (bindingValue binding)

theorem read_binding_eq (binding : ReportedBinding) :
    readBinding binding =
      ⟨reportedAddress ((binding.get? "HostIp").or (binding.get? "HostIP")),
        if ((binding.get? "HostPort").getD .null).isNothing then ""
        else ((binding.get? "HostPort").getD .null).display⟩ := by
  have field (key : String) :
      Value.field? (binding.entries.map fun entry => (.text entry.1, entry.2)) key =
        binding.get? key := by
    rw [field_of_table binding (fun value => value), Option.map_id']
  simp only [readBinding, bindingValue, Binding.ofValue, field]

theorem read_address_iff {binding : ReportedBinding} {address : String} :
    (readBinding binding).address = some address ↔ BoundTo binding address := by
  rw [read_binding_eq]
  constructor
  · intro read
    cases usual : binding.get? "HostIp" with
    | some value =>
        rw [usual] at read
        exact .usual usual (means_iff.mp read)
    | none =>
        rw [usual] at read
        cases other : binding.get? "HostIP" with
        | some value =>
            rw [other] at read
            exact .other usual other (means_iff.mp read)
        | none =>
            rw [other] at read
            exact Option.some.inj read ▸ .neither usual other
  · rintro (⟨present, means⟩ | ⟨absent, present, means⟩ | ⟨absent, too⟩)
    · simpa [present] using means_iff.mpr means
    · simpa [absent, present] using means_iff.mpr means
    · simp [absent, too, reportedAddress]

theorem leads_to_iff {binding : ReportedBinding} {port : String} :
    LeadsTo binding port ↔ ((binding.get? "HostPort").getD .null).isNothing = false ∧
      ((binding.get? "HostPort").getD .null).display = port := by
  cases found : binding.get? "HostPort" with
  | none => simp [LeadsTo, found, Value.isNothing]
  | some value => simp [LeadsTo, found]

theorem leads_nowhere_iff {binding : ReportedBinding} :
    LeadsNowhere binding ↔ ((binding.get? "HostPort").getD .null).isNothing = true := by
  cases found : binding.get? "HostPort" with
  | none => simp [LeadsNowhere, found, Value.isNothing]
  | some value => simp [LeadsNowhere, found]

theorem read_port_iff {binding : ReportedBinding} {port : String} :
    (readBinding binding).port = port ↔ PortOf binding port := by
  rw [read_binding_eq, PortOf, leads_to_iff, leads_nowhere_iff]
  cases ((binding.get? "HostPort").getD .null).isNothing <;> simp [eq_comm]

/-! ## The three searches -/

section

variable {address wanted : String} {bindings : List ReportedBinding}

theorem find_first_iff {read : Binding} :
    (bindings.map readBinding).find? (·.address == some address) = some read ↔
      ∃ binding, FirstAt address bindings binding ∧ readBinding binding = read := by
  have test (binding : ReportedBinding) :
      ((readBinding binding).address == some address) = true ↔ BoundTo binding address := by
    rw [beq_iff_eq, read_address_iff]
  simp only [List.find?_map, Option.map_eq_some_iff, List.find?_eq_some_iff_append,
    Function.comp_def, FirstAt, Bool.not_eq_true', ← Bool.not_eq_true, test]
  grind

theorem find_none_iff :
    (bindings.map readBinding).find? (·.address == some address) = none ↔
      NoneAt address bindings := by
  simp [NoneAt, List.find?_eq_none, read_address_iff]

/-- One search: for the first binding with an address, reached at the wanted one. -/
def searchAt (wanted address : String) (bindings : List ReportedBinding) : Option HostPort :=
  ((bindings.map readBinding).find? (·.address == some address)).map fun binding =>
    ⟨wanted, binding.port⟩

theorem search_at_iff {place : HostPort} :
    searchAt wanted address bindings = some place ↔
      place.address = wanted ∧
        ∃ binding, FirstAt address bindings binding ∧ PortOf binding place.port := by
  simp only [searchAt, Option.map_eq_some_iff, find_first_iff, ← read_port_iff]
  constructor
  · rintro ⟨_, ⟨binding, first, rfl⟩, rfl⟩
    exact ⟨rfl, binding, first, rfl⟩
  · rintro ⟨rfl, binding, first, reads⟩
    exact ⟨_, ⟨binding, first, rfl⟩, by rw [reads]⟩

theorem search_at_eq_none : searchAt wanted address bindings = none ↔ NoneAt address bindings := by
  rw [searchAt, Option.map_eq_none_iff, find_none_iff]

theorem choose_binding_eq (wanted : String) (bindings : List ReportedBinding) :
    chooseBinding wanted (bindings.map readBinding) =
      ((searchAt wanted wanted bindings).or (searchAt wanted allInterfaces bindings)).or
        (if wanted = loopback then searchAt wanted "" bindings else none) := rfl

theorem choose_binding_iff {place : HostPort} :
    chooseBinding wanted (bindings.map readBinding) = some place ↔
      place.address = wanted ∧
        ∃ binding, Chosen wanted bindings binding ∧ PortOf binding place.port := by
  rw [choose_binding_eq]
  simp only [Option.or_eq_some_iff, Option.or_eq_none_iff, search_at_eq_none]
  constructor
  · rintro ((found | ⟨noneNamed, found⟩) | ⟨⟨noneNamed, noneElse⟩, found⟩)
    · obtain ⟨same, binding, first, port⟩ := search_at_iff.mp found
      exact ⟨same, binding, .named first, port⟩
    · obtain ⟨same, binding, first, port⟩ := search_at_iff.mp found
      exact ⟨same, binding, .everywhere noneNamed first, port⟩
    · split at found
      · obtain ⟨same, binding, first, port⟩ := search_at_iff.mp found
        exact ⟨same, binding, .unnamed noneNamed noneElse ‹_› first, port⟩
      · cases found
  · rintro ⟨same, binding, (first | ⟨noneNamed, first⟩ | ⟨noneNamed, noneElse, near, first⟩), port⟩
    · exact .inl (.inl (search_at_iff.mpr ⟨same, binding, first, port⟩))
    · exact .inl (.inr ⟨noneNamed, search_at_iff.mpr ⟨same, binding, first, port⟩⟩)
    · refine .inr ⟨⟨noneNamed, noneElse⟩, ?_⟩
      rw [if_pos near]
      exact search_at_iff.mpr ⟨same, binding, first, port⟩

end

/-! ## Ports -/

section

variable {ports : Option ReportedPorts} {wanted protocol : String} {port : Int} {place : HostPort}

/-- What is found under a port; null has no ports. -/
theorem field_of_ports (ports : Option ReportedPorts) (key : String) :
    Value.field? (portEntries (if (portsValue ports).isNothing then .map [] else portsValue ports))
        key =
      (ports.bind (·.get? key)).map bindingsValue := by
  cases ports with
  | none => rfl
  | some reported =>
      have entries : portEntries (if (portsValue (some reported)).isNothing then .map []
          else portsValue (some reported)) =
            reported.entries.map fun entry => (.text entry.1, bindingsValue entry.2) := by
        rw [portsValue, Option.map_some, Option.getD_some]
        split
        · rename_i bare
          simpa [Value.isNothing, portEntries] using bare
        · rfl
      rw [entries, field_of_table]
      rfl

theorem bindings_value_is_nothing (bindings : Option (List ReportedBinding)) :
    (bindingsValue bindings).isNothing = true ↔ bindings.getD [] = [] := by
  rcases bindings with _ | (_ | _) <;> simp [bindingsValue, Value.isNothing]

theorem bindings_of_value (bindings : List ReportedBinding) :
    bindingsOf (bindingsValue (some bindings)) = bindings.map readBinding := by
  rw [bindingsValue, Option.map_some, Option.getD_some, bindingsOf, List.map_map]
  rfl

theorem listed_for_iff {key : String} {bindings : List ReportedBinding} :
    ListedFor ports key bindings ↔ ports.bind (·.get? key) = some (some bindings) := by
  cases ports <;> simp [ListedFor]

theorem resolve_port_ok_iff :
    resolvePort (portsValue ports) wanted port protocol = .ok place ↔
      ∃ bindings, ListedFor ports (portKey port protocol) bindings ∧
        chooseBinding wanted (bindings.map readBinding) = some place := by
  simp only [resolvePort, field_of_ports, listed_for_iff]
  cases found : ports.bind (·.get? (portKey port protocol)) with
  | none => simp
  | some reported =>
      simp only [Option.map_some, Option.some.injEq]
      by_cases nothing : (bindingsValue reported).isNothing = true
      · rw [if_pos nothing]
        rw [bindings_value_is_nothing] at nothing
        constructor
        · intro failed
          cases failed
        · rintro ⟨bindings, rfl, chosen⟩
          rw [show bindings = [] from nothing] at chosen
          simp [chooseBinding] at chosen
      · rw [if_neg nothing]
        cases reported with
        | none => exact absurd rfl nothing
        | some bindings =>
            rw [bindings_of_value]
            cases chosen : chooseBinding wanted (bindings.map readBinding) <;> simp [chosen]

theorem place_iff :
    resolvePort (portsValue ports) wanted port protocol = .ok place ↔
      place.address = wanted ∧ ∃ bindings binding,
        ListedFor ports (portKey port protocol) bindings ∧ Chosen wanted bindings binding ∧
          PortOf binding place.port := by
  simp only [resolve_port_ok_iff, choose_binding_iff]
  constructor
  · rintro ⟨bindings, listed, same, binding, chosen, reads⟩
    exact ⟨same, bindings, binding, listed, chosen, reads⟩
  · rintro ⟨same, bindings, binding, listed, chosen, reads⟩
    exact ⟨bindings, listed, same, binding, chosen, reads⟩

/-- A port is reached exactly if a binding is chosen for it. -/
theorem reached_iff :
    (∃ place, resolvePort (portsValue ports) wanted port protocol = .ok place) ↔
      ∃ bindings binding, ListedFor ports (portKey port protocol) bindings ∧
        Chosen wanted bindings binding := by
  constructor
  · rintro ⟨place, found⟩
    obtain ⟨-, bindings, binding, listed, chosen, -⟩ := place_iff.mp found
    exact ⟨bindings, binding, listed, chosen⟩
  · rintro ⟨bindings, binding, listed, chosen⟩
    exact ⟨⟨wanted, (readBinding binding).port⟩,
      place_iff.mpr ⟨rfl, bindings, binding, listed, chosen, read_port_iff.mp rfl⟩⟩

end

/-- An outcome is a failure exactly if it is no success. -/
theorem is_error_iff {Failure α : Type} {outcome : Except Failure α} :
    (∃ failure, outcome = .error failure) ↔ ¬ ∃ value, outcome = .ok value := by
  cases outcome <;> simp

/-! ## Both interfaces -/

section

variable {ports : Value} {wanted : String} {clientPort federationPort : Int}

/-- The client port comes first; the federation port counts only once that is reached. -/
inductive EndpointsEnd (ports : Value) (wanted : String) (clientPort federationPort : Int) :
    Except EndpointFault Endpoints → Prop
  | client {fault : PortFault}
      (refused : resolvePort ports wanted clientPort "tcp" = .error fault) :
      EndpointsEnd ports wanted clientPort federationPort (.error (.client fault))
  | federation {client : HostPort} {fault : PortFault}
      (reached : resolvePort ports wanted clientPort "tcp" = .ok client)
      (refused : resolvePort ports wanted federationPort "tcp" = .error fault) :
      EndpointsEnd ports wanted clientPort federationPort (.error (.federation fault))
  | both {client federation : HostPort}
      (reached : resolvePort ports wanted clientPort "tcp" = .ok client)
      (reachedToo : resolvePort ports wanted federationPort "tcp" = .ok federation) :
      EndpointsEnd ports wanted clientPort federationPort
        (.ok ⟨"http://" ++ client.text, "https://" ++ federation.text⟩)

theorem endpoints_end (ports : Value) (wanted : String) (clientPort federationPort : Int) :
    EndpointsEnd ports wanted clientPort federationPort
      (endpoints ports wanted clientPort federationPort) := by
  rw [endpoints]
  cases client : resolvePort ports wanted clientPort "tcp" with
  | error fault => exact .client client
  | ok place =>
      cases federation : resolvePort ports wanted federationPort "tcp" with
      | error fault => exact .federation client federation
      | ok other => exact .both client federation

namespace EndpointsEnd

variable {outcome : Except EndpointFault Endpoints}
  (ends : EndpointsEnd ports wanted clientPort federationPort outcome)

include ends

theorem ok_iff :
    (∃ found, outcome = .ok found) ↔
      (∃ client, resolvePort ports wanted clientPort "tcp" = .ok client) ∧
        ∃ federation, resolvePort ports wanted federationPort "tcp" = .ok federation := by
  cases ends with
  | client refused => simp [refused]
  | federation reached refused => simp [refused]
  | both reached reachedToo => simp [reached, reachedToo]

theorem client_iff {fault : PortFault} :
    outcome = .error (.client fault) ↔
      resolvePort ports wanted clientPort "tcp" = .error fault := by
  cases ends with
  | client refused => simp [refused]
  | federation reached refused => simp [reached]
  | both reached reachedToo => simp [reached]

theorem federation_iff {fault : PortFault} :
    outcome = .error (.federation fault) ↔
      (∃ client, resolvePort ports wanted clientPort "tcp" = .ok client) ∧
        resolvePort ports wanted federationPort "tcp" = .error fault := by
  cases ends with
  | client refused => simp [refused]
  | federation reached refused => simp [reached, refused]
  | both reached reachedToo => simp [reachedToo]

end EndpointsEnd

end

/-- Which ports are reached at a wanted address, and through which bindings. -/
structure Resolves (ports : Option ReportedPorts) (wanted : String) : Prop where
  /-- A port is reached at the wanted address, on the port of the host of the chosen binding. -/
  reached : ∀ port protocol place,
    resolvePort (portsValue ports) wanted port protocol = .ok place ↔
      place.address = wanted ∧ ∃ bindings binding,
        ListedFor ports (portKey port protocol) bindings ∧ Chosen wanted bindings binding ∧
          PortOf binding place.port
  /-- A port that is listed with no binding to choose, or not listed, is refused. -/
  refused : ∀ port protocol,
    (∃ fault, resolvePort (portsValue ports) wanted port protocol = .error fault) ↔
      ¬ ∃ bindings binding, ListedFor ports (portKey port protocol) bindings ∧
        Chosen wanted bindings binding
  /-- Both interfaces are found exactly if both ports are reached. -/
  both : ∀ clientPort federationPort,
    (∃ found, endpoints (portsValue ports) wanted clientPort federationPort = .ok found) ↔
      (∃ client, resolvePort (portsValue ports) wanted clientPort "tcp" = .ok client) ∧
        ∃ federation, resolvePort (portsValue ports) wanted federationPort "tcp" = .ok federation
  /-- A client port that is refused is told, whatever becomes of the federation port. -/
  clientFirst : ∀ clientPort federationPort fault,
    endpoints (portsValue ports) wanted clientPort federationPort = .error (.client fault) ↔
      resolvePort (portsValue ports) wanted clientPort "tcp" = .error fault
  /-- A federation port that is refused is told if the client port is reached. -/
  federationNext : ∀ clientPort federationPort fault,
    endpoints (portsValue ports) wanted clientPort federationPort = .error (.federation fault) ↔
      (∃ client, resolvePort (portsValue ports) wanted clientPort "tcp" = .ok client) ∧
        resolvePort (portsValue ports) wanted federationPort "tcp" = .error fault

/-- Whatever ports are reported, or none, and whichever address is wanted. -/
theorem ports_resolve (ports : Option ReportedPorts) (wanted : String) :
    Resolves ports wanted where
  reached _ _ _ := place_iff
  refused _ _ := is_error_iff.trans (not_congr reached_iff)
  both _ _ := (endpoints_end _ _ _ _).ok_iff
  clientFirst _ _ _ := (endpoints_end _ _ _ _).client_iff
  federationNext _ _ _ := (endpoints_end _ _ _ _).federation_iff

end FixtureImages
