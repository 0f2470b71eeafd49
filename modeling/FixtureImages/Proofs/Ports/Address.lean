import FixtureImages.Proofs.Ports.Unmapped
import FixtureImages.Proofs.Ports.UriParsing

/-!
# Addresses of both interfaces

The address of an interface is written as a scheme, the wanted address of the host and a port, with
a colon before the port. The grammar of identifiers admits that for addresses of version 4. Those of
version 6 have colons in them and must stand in brackets, which are not written. Main statement: an
address leads to the resolved place exactly if the wanted address is one of version 4.
-/

namespace FixtureImages

set_option autoImplicit false

open scoped Computability

/-- All bindings that are listed lead to ports of the host in decimal digits. -/
def DecimalPorts (ports : Option ReportedPorts) : Prop :=
  ∀ port bindings, ListedFor ports port bindings → ∀ binding ∈ bindings,
    ∃ number, LeadsTo binding number ∧ ∀ c ∈ number.toList, c.isDigit = true

/-- A text is an identifier with a scheme, a host and a port, in whichever way it is parsed. -/
structure PointsTo (text scheme address port : String) : Prop where
  parses : ∃ parts, Uri.Parses text parts
  names : ∀ parts, Uri.Parses text parts → parts.scheme = scheme.toList ∧
    ∃ authority, parts.authority = some authority ∧ authority.host.address = address.toList ∧
      authority.port = some port.toList

/-! ## Ports in decimal digits -/

section

variable {ports : Option ReportedPorts} {wanted protocol : String} {port : Int} {place : HostPort}

theorem FirstAt.mem {address : String} {bindings : List ReportedBinding}
    {binding : ReportedBinding} (first : FirstAt address bindings binding) :
    binding ∈ bindings := by
  obtain ⟨before, after, rfl, -⟩ := first
  exact List.mem_append_right before List.mem_cons_self

theorem Chosen.mem {bindings : List ReportedBinding} {binding : ReportedBinding}
    (chosen : Chosen wanted bindings binding) : binding ∈ bindings := by
  cases chosen with
  | named first => exact first.mem
  | everywhere _ first => exact first.mem
  | unnamed _ _ _ first => exact first.mem

theorem port_of_unique {binding : ReportedBinding} {first second : String}
    (one : PortOf binding first) (other : PortOf binding second) : first = second :=
  (read_port_iff.mpr one).symm.trans (read_port_iff.mpr other)

theorem decimal_place (decimal : DecimalPorts ports)
    (found : resolvePort (portsValue ports) wanted port protocol = .ok place) :
    place.address = wanted ∧ ∀ c ∈ place.port.toList, c.isDigit = true := by
  obtain ⟨same, bindings, binding, listed, chosen, reads⟩ := place_iff.mp found
  obtain ⟨number, leads, digits⟩ := decimal _ bindings listed binding chosen.mem
  obtain rfl : number = place.port := port_of_unique (.inl leads) reads
  exact ⟨same, digits⟩

end

/-! ## Addresses -/

/-- Addresses of version 4 are names as well, those of version 6 are not. -/
theorem host_iff_of_address {address : List Char}
    (literal : address ∈ Uri.ipv4Address + Uri.ipv6Address) :
    address ∈ Uri.ipv4Address + Uri.registeredName ↔ address ∈ Uri.ipv4Address := by
  constructor
  · intro host
    refine ((Language.mem_add _ _ _).mp literal).resolve_right fun six => ?_
    exact Uri.name_avoids_colon address host (Uri.ipv6_requires_colon address six)
  · exact fun four => (Language.mem_add _ _ _).mpr (.inl four)

/-- How the address of an interface comes out for a wanted address of either version. -/
structure ComesOut (text scheme wanted port : String) : Prop where
  /-- It leads to the place exactly with an address of version 4. -/
  points : PointsTo text scheme wanted port ↔ wanted.toList ∈ Uri.ipv4Address
  /-- With an address of version 6 it cannot be parsed at all. -/
  broken : wanted.toList ∈ Uri.ipv6Address → ∀ parts, ¬ Uri.Parses text parts

theorem place_comes_out {opening scheme wanted : String} {place : HostPort}
    (opens : opening.toList = scheme.toList ++ [':', '/', '/'])
    (admitted : scheme.toList ∈ Uri.scheme)
    (literal : wanted.toList ∈ Uri.ipv4Address + Uri.ipv6Address)
    (same : place.address = wanted) (digits : ∀ c ∈ place.port.toList, c.isDigit = true) :
    ComesOut (opening ++ place.text) scheme wanted place.port := by
  -- An address without brackets is read as a name, and a name has no colon.
  have parses (parts : Uri.Components) : Uri.Parses (opening ++ place.text) parts ↔
      wanted.toList ∈ Uri.ipv4Address ∧
        parts = .ofAddress scheme.toList wanted.toList place.port.toList := by
    rw [← host_iff_of_address literal]
    refine Uri.parses_address_iff admitted ?_ (Uri.mem_port_of_digits digits) ?_
    · intro c inside general
      by_contra apart
      exact Uri.address_avoids general apart _ literal inside
    · simp [HostPort.text, same, opens]
  constructor
  · constructor
    · rintro ⟨⟨parts, parsed⟩, -⟩
      exact ((parses parts).mp parsed).1
    · intro four
      refine ⟨⟨_, (parses _).mpr ⟨four, rfl⟩⟩, fun parts parsed => ?_⟩
      obtain ⟨-, rfl⟩ := (parses parts).mp parsed
      exact ⟨rfl, _, rfl, rfl, rfl⟩
  · intro six parts parsed
    have host := (host_iff_of_address literal).mpr ((parses parts).mp parsed).1
    exact Uri.name_avoids_colon _ host (Uri.ipv6_requires_colon _ six)

theorem http_admitted : "http".toList ∈ Uri.scheme :=
  Uri.mem_scheme_of_letters (by simp) (by decide)

theorem https_admitted : "https".toList ∈ Uri.scheme :=
  Uri.mem_scheme_of_letters (by simp) (by decide)

/-- Whenever both interfaces are found, their addresses lead to the resolved places exactly if the
wanted address is one of version 4. -/
theorem addresses_come_out {ports : Option ReportedPorts} {wanted : String}
    {clientPort federationPort : Int} {found : Endpoints} (decimal : DecimalPorts ports)
    (literal : wanted.toList ∈ Uri.ipv4Address + Uri.ipv6Address)
    (reached : endpoints (portsValue ports) wanted clientPort federationPort = .ok found) :
    ∃ client federation,
      resolvePort (portsValue ports) wanted clientPort "tcp" = .ok client ∧
        resolvePort (portsValue ports) wanted federationPort "tcp" = .ok federation ∧
          ComesOut found.client "http" wanted client.port ∧
          ComesOut found.federation "https" wanted federation.port := by
  have ends := endpoints_end (portsValue ports) wanted clientPort federationPort
  rw [reached] at ends
  cases ends with
  | both resolved resolvedToo =>
      obtain ⟨same, digits⟩ := decimal_place decimal resolved
      obtain ⟨sameToo, digitsToo⟩ := decimal_place decimal resolvedToo
      refine ⟨_, _, resolved, resolvedToo, ?_, ?_⟩
      · exact place_comes_out (by simp) http_admitted literal same digits
      · exact place_comes_out (by simp) https_admitted literal sameToo digitsToo

/-- A binding at an address to a port of the host. -/
def bindingAt (address number : String) : ReportedBinding :=
  Table.ofList [("HostIp", .text address), ("HostPort", .text number)]

/-- The ports of both interfaces at an address. -/
def publishedPorts (address : String) : ReportedPorts :=
  Table.ofList [("8008/tcp", some [bindingAt address "32768"]),
    ("8448/tcp", some [bindingAt address "32769"])]

theorem published_ports_decimal (address : String) :
    DecimalPorts (some (publishedPorts address)) := by
  rintro port bindings ⟨_, ⟨⟩, listed⟩ binding among
  have leads (number : String) (filled : (Value.text number).isNothing = false) :
      LeadsTo (bindingAt address number) number := ⟨.text number, rfl, filled, rfl⟩
  have entry : (port, some bindings) ∈ [("8008/tcp", some [bindingAt address "32768"]),
      ("8448/tcp", some [bindingAt address "32769"])] := Table.mem_of_get? listed
  simp only [List.mem_cons, Prod.mk.injEq, Option.some.injEq, List.not_mem_nil, or_false] at entry
  rcases entry with ⟨-, rfl⟩ | ⟨-, rfl⟩
  · obtain rfl := List.mem_singleton.mp among
    exact ⟨_, leads _ rfl, by simp⟩
  · obtain rfl := List.mem_singleton.mp among
    exact ⟨_, leads _ rfl, by simp⟩

theorem addresses_come_out_of_loopback :
    DecimalPorts (some (publishedPorts loopback)) ∧
      loopback.toList ∈ Uri.ipv4Address + Uri.ipv6Address ∧
      endpoints (portsValue (some (publishedPorts loopback))) loopback 8008 8448 =
        .ok ⟨"http://127.0.0.1:32768", "https://127.0.0.1:32769"⟩ ∧
      PointsTo "http://127.0.0.1:32768" "http" loopback "32768" ∧
      PointsTo "https://127.0.0.1:32769" "https" loopback "32769" := by
  have four : loopback.toList ∈ Uri.ipv4Address := Uri.loopback_mem_ipv4
  have literal := (Language.mem_add Uri.ipv4Address Uri.ipv6Address _).mpr (.inl four)
  have decimal := published_ports_decimal loopback
  have found : endpoints (portsValue (some (publishedPorts loopback))) loopback 8008 8448 =
      .ok ⟨"http://127.0.0.1:32768", "https://127.0.0.1:32769"⟩ := by decide +kernel
  obtain ⟨client, federation, reached, reachedToo, points, pointsToo⟩ :=
    addresses_come_out decimal literal found
  have place : resolvePort (portsValue (some (publishedPorts loopback))) loopback 8008 "tcp" =
      .ok ⟨loopback, "32768"⟩ := by decide +kernel
  have placeToo : resolvePort (portsValue (some (publishedPorts loopback))) loopback 8448 "tcp" =
      .ok ⟨loopback, "32769"⟩ := by decide +kernel
  obtain rfl := Except.ok.inj (place.symm.trans reached)
  obtain rfl := Except.ok.inj (placeToo.symm.trans reachedToo)
  exact ⟨decimal, literal, found, points.points.mpr four, pointsToo.points.mpr four⟩

/-- Both interfaces are found at an address of version 6, and neither address can be parsed. -/
theorem version_six_not_parsed :
    DecimalPorts (some (publishedPorts "::1")) ∧ "::1".toList ∈ Uri.ipv6Address ∧
      endpoints (portsValue (some (publishedPorts "::1"))) "::1" 8008 8448 =
        .ok ⟨"http://::1:32768", "https://::1:32769"⟩ ∧
      ∀ parts, ¬ Uri.Parses "http://::1:32768" parts ∧
        ¬ Uri.Parses "https://::1:32769" parts := by
  have six : "::1".toList ∈ Uri.ipv6Address := Uri.loopback_mem_ipv6
  have literal := (Language.mem_add Uri.ipv4Address Uri.ipv6Address _).mpr (.inr six)
  have client : ComesOut ("http://" ++ (⟨"::1", "32768"⟩ : HostPort).text) "http" "::1" "32768" :=
    place_comes_out (by simp) http_admitted literal rfl (by simp)
  have federation :
      ComesOut ("https://" ++ (⟨"::1", "32769"⟩ : HostPort).text) "https" "::1" "32769" :=
    place_comes_out (by simp) https_admitted literal rfl (by simp)
  refine ⟨published_ports_decimal "::1", six, by decide +kernel, fun parts => ?_⟩
  exact ⟨client.broken six parts, federation.broken six parts⟩

end FixtureImages
