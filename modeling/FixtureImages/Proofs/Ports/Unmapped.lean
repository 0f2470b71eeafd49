import FixtureImages.Proofs.Ports.Resolution

/-!
# Bindings without a port

The searches for a binding look at addresses only. So a binding that leads nowhere is chosen like
any other, and then a place without a port is given, although a port with no bindings at all is
refused. Main statement: which places have a port, and when one without is given.
-/

namespace FixtureImages

set_option autoImplicit false

/-! ## What stands for something shows something -/

namespace Binary64

theorem decimal_text_ne_empty (decimal : Decimal) : decimal.text ≠ "" := by
  rw [Decimal.text]
  split
  · rw [exponentText]
    split <;> simp
  · split
    · simp
    · split <;> simp

theorem text_ne_empty (number : Binary64) : number.text ≠ "" := by
  cases number with
  | nan => decide
  | infinite negative => cases negative <;> decide
  | finite negative significand exponent =>
      rw [text]
      intro empty
      have figures := (String.append_eq_empty_iff.mp empty).2
      split at figures
      · exact absurd figures (by decide)
      · exact decimal_text_ne_empty _ figures

end Binary64

namespace Value

theorem int_text_ne_empty (number : Int) : toString number ≠ "" := by
  cases number with
  | ofNat size =>
      change Nat.repr size ≠ ""
      simp
  | negSucc size =>
      change "-" ++ Nat.repr (size + 1) ≠ ""
      simp

theorem moment_text_ne_empty (moment : Moment) : moment.text.toList ≠ [] := by
  simp [Moment.text, Moment.localText]

theorem display_ne_empty {value : Value} (something : value.isNothing = false) :
    value.display ≠ "" := by
  cases value with
  | null => cases something
  | bool value => cases value <;> simp [display, inspect]
  | int value => exact int_text_ne_empty value
  | real value => exact Binary64.text_ne_empty value
  | text value => simpa [isNothing, display] using something
  | bytes value => simp [display, inspect, Text.quotedBytes]
  | date value => simp [display, Date.text]
  | moment value =>
      have written := moment_text_ne_empty value
      simpa [display] using written
  | list items => simp [display, inspect]
  | map entries => simp [display, inspect]
  | tuple items =>
      change (Value.tuple items).inspect ≠ ""
      rw [inspect.eq_def]
      split <;> simp_all
  | set items =>
      change (Value.set items).inspect ≠ ""
      rw [inspect]
      split <;> simp

end Value

/-! ## Places with a port and without -/

theorem leads_to_ne_empty {binding : ReportedBinding} {port : String}
    (leads : LeadsTo binding port) : port ≠ "" := by
  obtain ⟨value, -, something, rfl⟩ := leads
  exact Value.display_ne_empty something

theorem port_of_some_iff {binding : ReportedBinding} {port : String} :
    PortOf binding port ∧ port ≠ "" ↔ LeadsTo binding port := by
  constructor
  · rintro ⟨leads | ⟨-, empty⟩, apart⟩
    · exact leads
    · exact absurd empty apart
  · exact fun leads => ⟨.inl leads, leads_to_ne_empty leads⟩

theorem port_of_empty_iff {binding : ReportedBinding} :
    PortOf binding "" ↔ LeadsNowhere binding := by
  constructor
  · rintro (leads | ⟨nowhere, -⟩)
    · exact absurd rfl (leads_to_ne_empty leads)
    · exact nowhere
  · exact fun nowhere => .inr ⟨nowhere, rfl⟩

/-- Whether the place of a port has a port itself hangs on the chosen binding alone. -/
structure PortGiven (ports : Option ReportedPorts) (wanted : String) (port : Int)
    (protocol : String) : Prop where
  /-- A place with a port has the one of a binding that is listed for the port, the chosen one. -/
  mapped : ∀ place,
    resolvePort (portsValue ports) wanted port protocol = .ok place ∧ place.port ≠ "" ↔
      place.address = wanted ∧ ∃ bindings binding,
        ListedFor ports (portKey port protocol) bindings ∧ Chosen wanted bindings binding ∧
          LeadsTo binding place.port
  /-- A place without a port is given exactly if the chosen binding leads nowhere. -/
  unmapped :
    (∃ place, resolvePort (portsValue ports) wanted port protocol = .ok place ∧ place.port = "") ↔
      ∃ bindings binding, ListedFor ports (portKey port protocol) bindings ∧
        Chosen wanted bindings binding ∧ LeadsNowhere binding

theorem port_given (ports : Option ReportedPorts) (wanted : String) (port : Int)
    (protocol : String) : PortGiven ports wanted port protocol where
  mapped place := by
    rw [place_iff]
    constructor
    · rintro ⟨⟨same, bindings, binding, listed, chosen, reads⟩, apart⟩
      exact ⟨same, bindings, binding, listed, chosen, port_of_some_iff.mp ⟨reads, apart⟩⟩
    · rintro ⟨same, bindings, binding, listed, chosen, leads⟩
      obtain ⟨reads, apart⟩ := port_of_some_iff.mpr leads
      exact ⟨⟨same, bindings, binding, listed, chosen, reads⟩, apart⟩
  unmapped := by
    constructor
    · rintro ⟨place, found, empty⟩
      obtain ⟨-, bindings, binding, listed, chosen, reads⟩ := place_iff.mp found
      exact ⟨bindings, binding, listed, chosen, port_of_empty_iff.mp (empty ▸ reads)⟩
    · rintro ⟨bindings, binding, listed, chosen, nowhere⟩
      exact ⟨⟨wanted, ""⟩,
        place_iff.mpr ⟨rfl, bindings, binding, listed, chosen, port_of_empty_iff.mpr nowhere⟩, rfl⟩

/-- A port with some bindings to ports of the host, all at the loopback address. -/
def loopbackPorts (places : List Value) : ReportedPorts :=
  Table.ofList [("8008/tcp", some (places.map fun place =>
    Table.ofList [("HostIp", .text loopback), ("HostPort", place)]))]

/-- A binding that leads nowhere gives a place without a port, and so it does in front of one that
leads somewhere. -/
theorem unmapped_binding_chosen :
    resolvePort (portsValue (some (loopbackPorts [.null]))) loopback 8008 "tcp" =
        .ok ⟨loopback, ""⟩ ∧
      resolvePort (portsValue (some (loopbackPorts [.null, .text "32768"]))) loopback 8008 "tcp" =
        .ok ⟨loopback, ""⟩ := by
  constructor <;> decide +kernel

end FixtureImages
