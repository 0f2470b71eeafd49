import FixtureImages.Proofs.Labels.Image
import FixtureImages.Proofs.Yaml.BreakScan

/-!
# Registrations read back

A registration is put on one line by writing each line feed as a break mark, and every break mark is
read back as a line feed. So it comes back as it was exactly if its document has no break marks of
its own. Which texts of a service bring one into the document is told by the scan of what is
written.
-/

namespace FixtureImages

set_option autoImplicit false

namespace Yaml

open BreakScan Pen

/-! ## One node -/

section

variable (wide inMapping : Bool) (indent : Nat) (pen : Pen)

theorem write_node_bool (value : Bool) :
    writeNode wide indent inMapping (.bool value) pen =
      writePlain (indent + 2) true (if value then "true" else "false").toList pen := rfl

theorem write_node_text (value : String) :
    writeNode wide indent inMapping (.text value) pen =
      writeText wide (indent + 2) false value pen := rfl

theorem write_node_empty_list :
    writeNode wide indent inMapping (.list []) pen = (pen.mark ['[']).closeMark [']'] := rfl

theorem write_node_list {items : List Plain} (some : items ≠ []) :
    writeNode wide indent inMapping (.list items) pen =
      writeItems wide (if inMapping && !pen.fresh then indent else indent + 2) items pen := by
  cases items with
  | nil => exact absurd rfl some
  | cons item rest => rfl

theorem write_node_map {entries : List (String × Plain)} (some : entries ≠ []) :
    writeNode wide indent inMapping (.map entries) pen =
      writeEntries wide (indent + 2) entries pen := by
  cases entries with
  | nil => exact absurd rfl some
  | cons entry rest => rfl

theorem write_items_nil : writeItems wide indent [] pen = pen := rfl

theorem write_items_cons (item : Plain) (rest : List Plain) :
    writeItems wide indent (item :: rest) pen =
      writeItems wide indent rest
        (writeNode wide indent false item ((pen.toColumn indent).entryMark '-')) := rfl

theorem write_entries_nil : writeEntries wide indent [] pen = pen := rfl

theorem write_entries_cons (entry : String × Plain) (rest : List (String × Plain)) :
    writeEntries wide indent (entry :: rest) pen =
      writeEntries wide indent rest (writeEntries wide indent [entry] pen) := rfl

theorem write_entries_short {key : String} (short : isShortKey key = true) (item : Plain)
    (rest : List (String × Plain)) :
    writeEntries wide indent ((key, item) :: rest) pen =
      writeEntries wide indent rest (writeNode wide indent true item
        ((writeText wide (indent + 2) true key (pen.toColumn indent)).closeMark [':'])) := by
  change writeEntries wide indent rest (writeNode wide indent true item
    (if isShortKey key then _ else _)) = _
  rw [if_pos short]

end

/-! ## Documents -/

/-- What was found so far is allowed, and nothing is pending on a fresh line. -/
def Pen.Scanned (allowed : Bool → Prop) (pen : Pen) : Prop :=
  allowed pen.scan.found ∧ (pen.fresh = true → pen.scan.pending = false)

/-- Where nothing is pending, writing leads from what is allowed to what is allowed. -/
def Keeps (allowed : Bool → Prop) (writes : Pen → Pen) : Prop :=
  ∀ pen : Pen, pen.scan.pending = false → allowed pen.scan.found → (writes pen).Scanned allowed

section

variable {allowed : Bool → Prop}

theorem scanned_of_settled {before after : Pen} (given : allowed before.scan.found)
    (same : after.scan = before.scan.settled) :
    after.scan.pending = false ∧ allowed after.scan.found := by
  rw [same]
  exact ⟨rfl, given⟩

theorem to_column_keeps {pen : Pen} (scanned : pen.Scanned allowed) (column : Nat) :
    (pen.toColumn column).scan.pending = false ∧ allowed (pen.toColumn column).scan.found :=
  scanned_of_settled scanned.1 (to_column_scan fun fresh => .inr (scanned.2 fresh))

theorem text_keeps {wide key : Bool} {text : String} {indent : Nat}
    (stays : Intact wide key text ∨ ∀ found, allowed found → allowed true)
    (narrow : indent ≤ lineWidth) : Keeps allowed (writeText wide indent key text) := by
  intro pen ready given
  have unfresh := write_text_fresh wide indent key text ready
  refine ⟨?_, fun fresh => by simp [unfresh] at fresh⟩
  rcases stays with intact | rises
  · rw [write_text_intact intact narrow ready]
    exact given
  · cases after : (writeText wide indent key text pen).scan.found with
    | true => exact rises _ given
    | false =>
        cases before : pen.scan.found with
        | false => exact before ▸ given
        | true =>
            rw [write_text_marks narrow ready (.inl before)] at after
            cases after

theorem bool_keeps (wide : Bool) (indent : Nat) (inMapping value : Bool) :
    Keeps allowed (writeNode wide indent inMapping (.bool value)) := by
  intro pen ready given
  have none : Text.occursIn breakMark (if value then "true" else "false").toList = false := by
    cases value <;> decide
  rw [write_node_bool]
  obtain ⟨scanned, unfresh⟩ :=
    write_plain_scan (indent + 2) true (if value then "true" else "false").toList ready
  refine ⟨?_, fun fresh => by simp [unfresh] at fresh⟩
  rw [scanned, through_found, ready, none, Bool.false_and, Bool.or_false, Bool.or_false]
  exact given

theorem empty_list_keeps (wide : Bool) (indent : Nat) (inMapping : Bool) :
    Keeps allowed (writeNode wide indent inMapping (.list [])) := by
  intro pen _ given
  have opens : ∀ c ∈ ['['], Quiet c := quiet_single _ (by constructor <;> decide)
  have closes : ∀ c ∈ [']'], Quiet c := quiet_single _ (by constructor <;> decide)
  rw [write_node_empty_list]
  have same : ((pen.mark ['[']).closeMark [']']).scan = pen.scan.settled := by
    rw [close_mark_scan, through_quiet (by simp) closes, mark_scan (by simp) opens, settled_settled]
  obtain ⟨none, found⟩ := scanned_of_settled given same
  exact ⟨found, fun _ => none⟩

theorem write_items_keeps {wide : Bool} {indent : Nat} {items : List Plain}
    (keeps : ∀ item ∈ items, Keeps allowed (writeNode wide indent false item)) {pen : Pen}
    (scanned : pen.Scanned allowed) : (writeItems wide indent items pen).Scanned allowed := by
  induction items generalizing pen with
  | nil =>
      rw [write_items_nil]
      exact scanned
  | cons item rest ih =>
      rw [write_items_cons]
      have hyphen : Quiet '-' := by constructor <;> decide
      obtain ⟨_, given⟩ := to_column_keeps scanned indent
      obtain ⟨ready, given⟩ := scanned_of_settled given (entry_mark_scan hyphen _)
      have first := keeps item List.mem_cons_self _ ready given
      exact ih (fun other member => keeps other (List.mem_cons_of_mem _ member)) first

/-- A key on one line, with its colon. -/
theorem short_key_keeps {wide : Bool} {indent : Nat} {key : String} {pen : Pen}
    (narrow : indent + 2 ≤ lineWidth) (intact : Intact wide true key)
    (scanned : pen.Scanned allowed) :
    let after := (writeText wide (indent + 2) true key (pen.toColumn indent)).closeMark [':']
    after.scan.pending = false ∧ allowed after.scan.found := by
  have colon : ∀ c ∈ [':'], Quiet c := quiet_single _ (by constructor <;> decide)
  obtain ⟨ready, given⟩ := to_column_keeps scanned indent
  have written := text_keeps (.inl intact) narrow _ ready given
  apply scanned_of_settled written.1
  rw [close_mark_scan, through_quiet (by simp) colon]

theorem write_entries_keeps {wide : Bool} {indent : Nat} {entries : List (String × Plain)}
    (narrow : indent + 2 ≤ lineWidth)
    (keys : ∀ entry ∈ entries, isShortKey entry.1 = true ∧ Intact wide true entry.1)
    (keeps : ∀ entry ∈ entries, Keeps allowed (writeNode wide indent true entry.2)) {pen : Pen}
    (scanned : pen.Scanned allowed) : (writeEntries wide indent entries pen).Scanned allowed := by
  induction entries generalizing pen with
  | nil =>
      rw [write_entries_nil]
      exact scanned
  | cons entry rest ih =>
      obtain ⟨key, item⟩ := entry
      obtain ⟨short, intact⟩ := keys _ List.mem_cons_self
      rw [write_entries_short _ _ _ short]
      obtain ⟨ready, given⟩ := short_key_keeps narrow intact scanned
      have first := keeps _ List.mem_cons_self _ ready given
      exact ih (fun other member => keys other (List.mem_cons_of_mem _ member))
        (fun other member => keeps other (List.mem_cons_of_mem _ member)) first

theorem text_node_keeps {wide inMapping : Bool} {text : String} {indent : Nat}
    (stays : Intact wide false text ∨ ∀ found, allowed found → allowed true)
    (narrow : indent + 2 ≤ lineWidth) :
    Keeps allowed (writeNode wide indent inMapping (.text text)) := by
  intro pen ready given
  rw [write_node_text]
  exact text_keeps stays narrow pen ready given

theorem list_node_keeps {wide inMapping : Bool} {items : List Plain} {indent : Nat}
    (some : items ≠ [])
    (keeps : ∀ column ≤ indent + 2, ∀ item ∈ items, Keeps allowed (writeNode wide column false item)) :
    Keeps allowed (writeNode wide indent inMapping (.list items)) := by
  intro pen ready given
  rw [write_node_list _ _ _ _ some]
  apply write_items_keeps _ ⟨given, fun _ => ready⟩
  apply keeps
  split <;> omega

theorem map_node_keeps {wide inMapping : Bool} {entries : List (String × Plain)} {indent : Nat}
    (some : entries ≠ []) (narrow : indent + 4 ≤ lineWidth)
    (keys : ∀ entry ∈ entries, isShortKey entry.1 = true ∧ Intact wide true entry.1)
    (keeps : ∀ entry ∈ entries, Keeps allowed (writeNode wide (indent + 2) true entry.2)) :
    Keeps allowed (writeNode wide indent inMapping (.map entries)) := by
  intro pen ready given
  rw [write_node_map _ _ _ _ some]
  exact write_entries_keeps narrow keys keeps ⟨given, fun _ => ready⟩

end

theorem write_entries_append (wide : Bool) (indent : Nat) (front back : List (String × Plain))
    (pen : Pen) : writeEntries wide indent (front ++ back) pen =
      writeEntries wide indent back (writeEntries wide indent front pen) := by
  induction front generalizing pen with
  | nil => rw [List.nil_append, write_entries_nil]
  | cons entry rest ih =>
      rw [List.cons_append, write_entries_cons, ih, ← write_entries_cons]

end Yaml

/-! ## Break marks for line feeds -/

theorem restore_inlined (text : List Char) :
    restoreBreakChars (text.flatMap fun c => if c = '\n' then ['\\', 'n'] else [c]) =
      restoreBreakChars text := by
  induction text using restoreBreakChars.induct with
  | case1 rest ih => simpa [restoreBreakChars] using ih
  | case2 c rest apart ih =>
      by_cases feed : c = '\n'
      · subst feed
        simp [restoreBreakChars, ih]
      · have ahead : ∀ after, c = '\\' →
            (rest.flatMap fun c => if c = '\n' then ['\\', 'n'] else [c]) = 'n' :: after → False := by
          rintro after rfl same
          cases rest with
          | nil => cases same
          | cons next rest =>
              by_cases broken : next = '\n'
              · simp [broken] at same
              · simp only [List.flatMap_cons, if_neg broken, List.cons_append, List.nil_append,
                  List.cons.injEq] at same
                exact apart rest rfl (by rw [same.1])
        rw [List.flatMap_cons, if_neg feed, List.cons_append, List.nil_append,
          restoreBreakChars.eq_2 _ _ ahead, restoreBreakChars.eq_2 _ _ apart, ih]
  | case3 => rfl

theorem restore_eq_self_iff (text : List Char) :
    restoreBreakChars text = text ↔ Text.occursIn Yaml.breakMark text = false := by
  induction text using restoreBreakChars.induct with
  | case1 rest ih => simp [restoreBreakChars, Text.occursIn, Yaml.breakMark]
  | case2 c rest apart ih =>
      have first : Yaml.breakMark.isPrefixOf (c :: rest) = false := by
        rw [Yaml.break_mark_in_front]
        by_contra found
        simp only [Bool.not_eq_false, Bool.and_eq_true, beq_iff_eq] at found
        obtain ⟨after, split⟩ : ∃ after, rest = 'n' :: after := by
          cases rest with
          | nil => cases found.2
          | cons next after => exact ⟨after, by simpa using found.2⟩
        exact apart after found.1 split
      rw [restoreBreakChars.eq_2 _ _ apart, Text.occursIn, first, List.cons.injEq, Bool.false_or, ih]
      simp
  | case3 => simp [restoreBreakChars, Text.occursIn, Yaml.breakMark]

theorem restore_inlined_iff (text : String) :
    restoreBreaks (inlineBreaks text) = text ↔
      Text.occursIn Yaml.breakMark text.toList = false := by
  rw [← restore_eq_self_iff, restoreBreaks, inlineBreaks, String.toList_ofList, restore_inlined,
    ← String.toList_inj, String.toList_ofList]

/-! ## Registrations of services -/

namespace ApplicationService

/-- The texts of a service that stand in its registration. -/
def texts (service : ApplicationService) : List String :=
  [service.id, service.serverToken, service.serviceToken, service.url, service.sender]

end ApplicationService

section

open Yaml

theorem field_names_intact (service : ApplicationService) :
    ∀ entry ∈ service.registrationFields,
      isShortKey entry.1 = true ∧ Intact false true entry.1 := by
  have names : ∀ name ∈ service.registrationFields.map Prod.fst,
      isShortKey name = true ∧ Intact false true name := by
    change ∀ name ∈ ["id", "hs_token", "as_token", "url", "sender_localpart", "rate_limited",
      "de.sorunome.msc2409.push_ephemeral", "push_ephemeral", "org.matrix.msc3202", "namespaces"], _
    decide
  intro entry member
  exact names entry.1 (List.mem_map_of_mem member)

/-- The namespaces of a registration, which are the same for all services, are written without a break
mark. -/
theorem namespaces_keep (allowed : Bool → Prop) :
    Keeps allowed (writeNode false 0 true (.map
      [("users", .list [.map [("exclusive", .bool false), ("regex", .text ".*")]]),
        ("rooms", .list []), ("aliases", .list [])])) := by
  have pattern : Intact false false ".*" := by decide
  have user : ∀ entry ∈ [("exclusive", Plain.bool false), ("regex", Plain.text ".*")],
      ∀ column ≤ 6, Keeps allowed (writeNode false column true entry.2) := by
    intro entry member column narrow
    have wide : column + 2 ≤ lineWidth := Nat.le_trans (Nat.add_le_add_right narrow 2) (by decide)
    simp only [List.mem_cons, List.not_mem_nil, or_false] at member
    rcases member with rfl | rfl
    · exact bool_keeps _ _ _ _
    · exact text_node_keeps (.inl pattern) wide
  have users : Keeps allowed (writeNode false 2 true
      (.list [.map [("exclusive", .bool false), ("regex", .text ".*")]])) := by
    apply list_node_keeps (by simp)
    intro column narrow item member
    rw [List.mem_singleton.mp member]
    have wide : column + 4 ≤ lineWidth := Nat.le_trans (Nat.add_le_add_right narrow 4) (by decide)
    exact map_node_keeps (by simp) wide (by decide) fun entry inside =>
      user entry inside (column + 2) (Nat.add_le_add_right narrow 2)
  apply map_node_keeps (by simp) (by decide) (by decide)
  intro entry member
  simp only [List.mem_cons, List.not_mem_nil, or_false] at member
  rcases member with rfl | rfl | rfl
  · exact users
  · exact empty_list_keeps _ _ _
  · exact empty_list_keeps _ _ _

theorem fields_keep {allowed : Bool → Prop} {service : ApplicationService}
    (stays : ∀ text ∈ service.texts,
      Intact false false text ∨ ∀ found, allowed found → allowed true) :
    ∀ entry ∈ service.registrationFields, Keeps allowed (writeNode false 0 true entry.2) := by
  have text (own : String) (member : own ∈ service.texts) :
      Keeps allowed (writeNode false 0 true (.text own)) :=
    text_node_keeps (stays own member) (by decide)
  intro entry member
  simp only [ApplicationService.registrationFields, List.mem_cons, List.not_mem_nil, or_false]
    at member
  rcases member with rfl | rfl | rfl | rfl | rfl | rfl | rfl | rfl | rfl | rfl
  · exact text _ (by simp [ApplicationService.texts])
  · exact text _ (by simp [ApplicationService.texts])
  · exact text _ (by simp [ApplicationService.texts])
  · exact text _ (by simp [ApplicationService.texts])
  · exact text _ (by simp [ApplicationService.texts])
  · exact bool_keeps _ _ _ _
  · exact bool_keeps _ _ _ _
  · exact bool_keeps _ _ _ _
  · exact bool_keeps _ _ _ _
  · exact namespaces_keep allowed

/-- The break marks of a registration are those that the pen wrote. -/
theorem registration_marks {allowed : Bool → Prop} {service : ApplicationService}
    (written : (writeEntries false 0 service.registrationFields .start).Scanned allowed) :
    allowed (Text.occursIn breakMark service.registration.toList) := by
  have document : service.registration =
      ((writeEntries false 0 service.registrationFields .start).toColumn 0).text := rfl
  have marks (pen : Pen) : Text.occursIn breakMark pen.text.toList = pen.scan.found := by
    rw [Pen.scan, BreakScan.through_found, Pen.text, String.toList_ofList]
    rfl
  rw [document, marks]
  exact (to_column_keeps written 0).2

theorem registration_intact {service : ApplicationService}
    (intact : ∀ text ∈ service.texts, Intact false false text) :
    Text.occursIn breakMark service.registration.toList = false := by
  apply @registration_marks (· = false)
  exact write_entries_keeps (by decide) (field_names_intact service)
    (fields_keep fun text member => .inl (intact text member)) ⟨rfl, fun _ => rfl⟩

theorem registration_damaged {service : ApplicationService} {text : String}
    (member : text ∈ service.texts) (damaged : Damaged false false text) :
    Text.occursIn breakMark service.registration.toList = true := by
  have field : ∃ key, (key, Plain.text text) ∈ service.registrationFields := by
    simp only [ApplicationService.texts, List.mem_cons, List.not_mem_nil, or_false] at member
    rcases member with rfl | rfl | rfl | rfl | rfl
    · exact ⟨"id", by simp [ApplicationService.registrationFields]⟩
    · exact ⟨"hs_token", by simp [ApplicationService.registrationFields]⟩
    · exact ⟨"as_token", by simp [ApplicationService.registrationFields]⟩
    · exact ⟨"url", by simp [ApplicationService.registrationFields]⟩
    · exact ⟨"sender_localpart", by simp [ApplicationService.registrationFields]⟩
  obtain ⟨key, inside⟩ := field
  obtain ⟨front, back, split⟩ := List.append_of_mem inside
  have names := field_names_intact service
  have anything := @fields_keep (fun _ => True) service fun _ _ => .inr fun _ _ => trivial
  have marked := @fields_keep (· = true) service fun _ _ => .inr fun _ _ => rfl
  rw [split] at names anything marked
  obtain ⟨short, intact⟩ := names (key, .text text) (by simp)
  apply @registration_marks (· = true)
  rw [split, write_entries_append, write_entries_short _ _ _ short]
  -- the entries before may leave anything, and those behind keep what was found
  have before : (writeEntries false 0 front .start).Scanned fun _ => True := by
    apply write_entries_keeps (by decide)
    · exact fun entry early => names entry (List.mem_append_left _ early)
    · exact fun entry early => anything entry (List.mem_append_left _ early)
    · exact ⟨trivial, fun _ => rfl⟩
  have narrow : 0 + 2 ≤ lineWidth := by decide
  obtain ⟨ready, _⟩ := short_key_keeps narrow intact before
  have later (entry : String × Plain) (late : entry ∈ back) :
      entry ∈ front ++ (key, Plain.text text) :: back :=
    List.mem_append_right _ (List.mem_cons_of_mem _ late)
  apply write_entries_keeps (by decide) (fun entry late => names entry (later entry late))
    (fun entry late => marked entry (later entry late))
  rw [write_node_text]
  refine ⟨write_text_marks (by decide) ready (.inr damaged), fun fresh => ?_⟩
  rw [write_text_fresh _ _ _ _ ready] at fresh
  cases fresh

end

/-! ## What comes back -/

/-- A service whose identifier is its own is found under it, with what its label was read as. -/
theorem services_of_labels {services : List ApplicationService} {service : ApplicationService}
    (member : service ∈ services)
    (unique : ∀ other ∈ services, other.id = service.id → other = service) :
    (servicesOf (serviceLabels services)).get? service.id =
      some (restoreBreaks (inlineBreaks service.registration)) := by
  have written : (serviceLabels services).get? (serviceStem ++ service.id) =
      some (inlineBreaks service.registration) := by
    apply Table.get?_ofList_of_agree
    · exact ⟨_, List.mem_map_of_mem member, rfl⟩
    · intro pair inside same
      obtain ⟨other, known, rfl⟩ := List.mem_map.mp inside
      have ids : other.id = service.id := by
        have chars := congrArg String.toList same
        simp only [String.toList_append] at chars
        exact String.toList_injective (List.append_cancel_left chars)
      rw [unique other known ids]
  rw [servicesOf, Table.get?_mapValues, Table.get?_cutStem, written]
  rfl

/-- The registrations on an image are those of the services of its instance, whatever else was
captured and whatever its container carried. -/
theorem services_of_image (container : Option Labels) (captured : Labels)
    {services : List ApplicationService} {service : ApplicationService} (member : service ∈ services)
    (unique : ∀ other ∈ services, other.id = service.id → other = service) :
    (servicesOf (Host.committedLabels container
        (Directive.ofLabels (captured.overlay (serviceLabels services))))).get? service.id =
      (servicesOf (serviceLabels services)).get? service.id := by
  have found := services_of_labels member unique
  rw [servicesOf, Table.get?_mapValues, Table.get?_cutStem] at found ⊢
  obtain ⟨text, written, _⟩ := Option.map_eq_some_iff.mp found
  rw [committed_labels_eq, Table.get?_overlay, Table.get?_overlay, written, Option.some_or,
    Option.some_or, servicesOf, Table.get?_mapValues, Table.get?_cutStem, written]

theorem registration_back_iff {services : List ApplicationService} {service : ApplicationService}
    (member : service ∈ services)
    (unique : ∀ other ∈ services, other.id = service.id → other = service) :
    (servicesOf (serviceLabels services)).get? service.id = some service.registration ↔
      Text.occursIn Yaml.breakMark service.registration.toList = false := by
  rw [services_of_labels member unique, Option.some_inj]
  exact restore_inlined_iff service.registration

/-- A registration comes back, from what is handed to a deployer as well as from a committed image,
exactly if its document has no break mark. It has none if every text of the service is intact, and
has one if a text is damaged. -/
theorem registration_comes_back_iff {server : Instance} {service : ApplicationService}
    (member : service ∈ server.services)
    (unique : ∀ other ∈ server.services, other.id = service.id → other = service) :
    ((registrationsOf server).get? service.id = some service.registration ↔
        Text.occursIn Yaml.breakMark service.registration.toList = false) ∧
      ((∀ text ∈ service.texts, Yaml.Intact false false text) →
        (registrationsOf server).get? service.id = some service.registration) ∧
      (∀ text ∈ service.texts, Yaml.Damaged false false text →
        (registrationsOf server).get? service.id ≠ some service.registration) ∧
      ∀ (container : Option Labels) (captured : Labels),
        (servicesOf (Host.committedLabels container
            (Directive.ofLabels (captured.overlay (serviceLabels server.services))))).get?
          service.id = (registrationsOf server).get? service.id := by
  have comes := registration_back_iff member unique
  rw [registrationsOf]
  refine ⟨comes, fun intact => ?_, fun text inside damaged back => ?_, fun container captured => ?_⟩
  · exact comes.mpr (registration_intact intact)
  · have none := comes.mp back
    rw [registration_damaged inside damaged] at none
    cases none
  · exact services_of_image container captured member unique

/-- A service whose sender is on two lines and ends with a backslash. -/
def wrappedService : ApplicationService :=
  ⟨"bridge", "tok", "tok", "http://host:9000", "a\nb\\", false, true, false⟩

/-- A service with a token that has a backslash before an `n`. -/
def slashedService : ApplicationService := ⟨"relay", "a\\nb", "t", "", "bot", false, false, false⟩

/-- An instance with both services. -/
def bridgedInstance : Instance :=
  ⟨⟨"bridged", by decide⟩, none, [], [wrappedService, slashedService]⟩

/-- The registration of the one service comes back. -/
theorem registration_comes_back_of_wrapped :
    wrappedService ∈ bridgedInstance.services ∧
      (∀ other ∈ bridgedInstance.services, other.id = wrappedService.id → other = wrappedService) ∧
      (registrationsOf bridgedInstance).get? "bridge" = some wrappedService.registration := by
  have member : wrappedService ∈ bridgedInstance.services := List.mem_cons_self
  have unique : ∀ other ∈ bridgedInstance.services,
      other.id = wrappedService.id → other = wrappedService := by decide
  refine ⟨member, unique, (registration_comes_back_iff member unique).2.1 ?_⟩
  decide

/-- The registration of the other one does not. -/
theorem registration_loses_break_mark :
    slashedService ∈ bridgedInstance.services ∧
      (∀ other ∈ bridgedInstance.services, other.id = slashedService.id → other = slashedService) ∧
      (registrationsOf bridgedInstance).get? "relay" ≠ some slashedService.registration := by
  have member : slashedService ∈ bridgedInstance.services := by decide
  have unique : ∀ other ∈ bridgedInstance.services,
      other.id = slashedService.id → other = slashedService := by decide
  refine ⟨member, unique, fun back => ?_⟩
  have damaged : Yaml.Damaged false false "a\\nb" := by decide
  have token : "a\\nb" ∈ slashedService.texts := by decide
  have none := (registration_back_iff member unique).mp back
  rw [registration_damaged token damaged] at none
  cases none

end FixtureImages
