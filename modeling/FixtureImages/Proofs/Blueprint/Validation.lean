import FixtureImages.Blueprint.Document
import FixtureImages.Proofs.Blueprint.Plain

/-!
# Validated blueprints

A blueprint out of regular data has regular step values, and the stored form of a blueprint is valid
data: it makes the blueprint again, with each step value as it was stored.
-/

namespace FixtureImages

set_option autoImplicit false

open List (Forall₂)

theorem exists_of_forall₂ {α β : Type} {R : α → β → Prop} {items : List α} {others : List β}
    (each : Forall₂ R items others) : ∀ other ∈ others, ∃ item ∈ items, R item other := by
  induction each with
  | nil => simp
  | cons own _ ih =>
      refine List.forall_mem_cons.mpr ⟨⟨_, List.mem_cons_self, own⟩, fun other member => ?_⟩
      obtain ⟨item, here, related⟩ := ih other member
      exact ⟨item, List.mem_cons_of_mem _ here, related⟩

/-! ## Checked parts -/

namespace Checked

variable {α : Type}

theorem inside_ok_iff {step : PathStep} {part : Checked α} {value : α} :
    inside step part = .ok value ↔ part = .ok value := by
  cases part <;> simp [inside]

theorem required_ok_iff {fields : List (Value × Value)} {name : String} {check : Value → Checked α}
    {value : α} : required fields name check = .ok value ↔
      ∃ content, Value.field? fields name = some content ∧ check content = .ok value := by
  unfold required
  split
  · simp [inside_ok_iff, *]
  · simp [*]

theorem optional_ok {fields : List (Value × Value)} {name : String} {fallback : α}
    {check : Value → Checked α} {value : α} (given : optional fields name fallback check = .ok value) :
    (∃ content, Value.field? fields name = some content ∧ check content = .ok value) ∨
      value = fallback := by
  unfold optional at given
  split at given
  · exact .inl ⟨_, ‹_›, inside_ok_iff.mp given⟩
  · cases given
    exact .inr rfl

theorem items_from_ok_iff {check : Value → Checked α} {index : Nat} {items : List Value}
    {results : List α} : itemsFrom check index items = results.map .ok ↔
      Forall₂ (fun item result => check item = .ok result) items results := by
  induction items generalizing index results with
  | nil => cases results <;> simp [itemsFrom]
  | cons item rest ih =>
      cases results with
      | nil => simp [itemsFrom]
      | cons result results => simp [itemsFrom, inside_ok_iff, ih]

/-- The items of a tuple are checked one by one. -/
theorem tuple_ok_iff {check : Value → Checked α} {items : List Value} {results : List α} :
    tuple check (.list items) = .ok results ↔
      Forall₂ (fun item result => check item = .ok result) items results := by
  rw [← items_from_ok_iff, ← collect_eq_ok_iff]
  rfl

theorem tuple_ok {check : Value → Checked α} {value : Value} {results : List α}
    (given : tuple check value = .ok results) : ∃ items,
      (value = .list items ∨ value = .tuple items ∨ value = .set items) ∧
        Forall₂ (fun item result => check item = .ok result) items results := by
  cases value with
  | list items => exact ⟨items, .inl rfl, tuple_ok_iff.mp given⟩
  | tuple items => exact ⟨items, .inr (.inl rfl), tuple_ok_iff.mp given⟩
  | set items => exact ⟨items, .inr (.inr rfl), tuple_ok_iff.mp given⟩
  | _ => cases given

theorem entry_ok_iff {check : Value → Checked α} {key value : Value} {pair : String × α} :
    entry check key value = .ok pair ↔ text key = .ok pair.1 ∧ check value = .ok pair.2 := by
  simp only [entry, inside_ok_iff, apply_eq_ok_iff, map_ok_iff]
  constructor
  · rintro ⟨_, content, ⟨name, named, rfl⟩, checked, rfl⟩
    exact ⟨named, checked⟩
  · rintro ⟨named, checked⟩
    exact ⟨_, _, ⟨_, named, rfl⟩, checked, rfl⟩

theorem table_ok_iff {check : Value → Checked α} {entries : List (Value × Value)} {made : Table α} :
    table check (.map entries) = .ok made ↔ ∃ pairs, Forall₂ (fun entry pair =>
      text entry.1 = .ok pair.1 ∧ check entry.2 = .ok pair.2) entries pairs ∧
        Table.ofList pairs = made := by
  have each (pairs : List (String × α)) :
      entries.map (fun pair => entry check pair.1 pair.2) = pairs.map .ok ↔
        Forall₂ (fun entry pair => text entry.1 = .ok pair.1 ∧ check entry.2 = .ok pair.2)
          entries pairs := by
    induction entries generalizing pairs with
    | nil => cases pairs <;> simp
    | cons first rest ih => cases pairs <;> simp [entry_ok_iff, ih]
  simp only [table, map_ok_iff, collect_eq_ok_iff, each]

end Checked

/-! ## Instances and blueprints out of their fields -/

theorem model_ok_iff {name : String} {value : Value} {fields : List (Value × Value)} :
    Checked.model name value = .ok fields ↔ value = .map fields := by
  cases value <;> simp [Checked.model, Checked.complain]

theorem Instance.of_value_ok_iff {value : Value} {server : Instance} :
    Instance.ofValue value = .ok server ↔ ∃ fields, value = .map fields ∧
      Checked.required fields "name" (Checked.name "instance") = .ok server.name ∧
      Checked.optional fields "base_image_uri" none (Checked.orNull Checked.text) =
        .ok server.baseImage ∧
      Checked.optional fields "steps" [] (Checked.tuple (Checked.table .ok)) = .ok server.steps ∧
      Checked.optional fields "application_services" [] (Checked.tuple ApplicationService.ofValue) =
        .ok server.services := by
  unfold Instance.ofValue
  simp only [bind_ok_iff, model_ok_iff, Checked.apply_eq_ok_iff, Except.ok.injEq]
  constructor
  · rintro ⟨fields, rfl, _, services, ⟨_, steps, ⟨_, image, ⟨_, name, rfl, named, rfl⟩, imaged, rfl⟩,
      stepped, rfl⟩, served, rfl⟩
    exact ⟨fields, rfl, named, imaged, stepped, served⟩
  · rintro ⟨fields, rfl, named, imaged, stepped, served⟩
    exact ⟨fields, rfl, _, _, ⟨_, _, ⟨_, _, ⟨_, _, rfl, named, rfl⟩, imaged, rfl⟩, stepped, rfl⟩,
      served, rfl⟩

theorem repeated_name_none {seen names : List String} (distinct : names.Nodup)
    (apart : ∀ name ∈ names, name ∉ seen) : repeatedName? seen names = none := by
  induction names generalizing seen with
  | nil => rfl
  | cons name rest ih =>
      obtain ⟨own, others⟩ := List.nodup_cons.mp distinct
      rw [List.forall_mem_cons] at apart
      rw [repeatedName?, if_neg (by simpa using apart.1)]
      refine ih others fun other member => ?_
      rw [List.mem_cons, not_or]
      exact ⟨fun same => own (same ▸ member), apart.2 other member⟩

theorem Blueprint.of_ok_iff {name : Name} {instances : List Instance} {keep : List String}
    {blueprint : Blueprint} : Blueprint.of name instances keep = .ok blueprint ↔
      blueprint.name = name ∧ blueprint.instances = instances ∧
        blueprint.keepCredentialsFor = keep := by
  constructor
  · intro made
    unfold Blueprint.of at made
    split at made
    · cases made
    · split at made <;> cases made
      exact ⟨rfl, rfl, rfl⟩
  · obtain ⟨_, _, _, nonempty, distinct⟩ := blueprint
    rintro ⟨rfl, rfl, rfl⟩
    unfold Blueprint.of
    rw [dif_neg nonempty]
    have none : repeatedName? [] _ = none := repeated_name_none distinct (by simp)
    split
    · rename_i fresh
      rw [none] at fresh
      cases fresh
    · rfl

theorem Blueprint.of_value_ok_iff {value : Value} {blueprint : Blueprint} :
    Blueprint.ofValue value = .ok blueprint ↔ ∃ fields, value = .map fields ∧
      Checked.required fields "name" (Checked.name "blueprint") = .ok blueprint.name ∧
      Checked.required fields "instances" (Checked.tuple Instance.ofValue) = .ok blueprint.instances ∧
      Checked.optional fields "keep_credentials_for" [] (Checked.tuple Checked.text) =
        .ok blueprint.keepCredentialsFor := by
  unfold Blueprint.ofValue
  simp only [bind_ok_iff, model_ok_iff, Checked.apply_eq_ok_iff, Except.ok.injEq]
  constructor
  · rintro ⟨fields, rfl, _, ⟨_, keep, ⟨_, instances, ⟨_, name, rfl, named, rfl⟩, listed, rfl⟩, kept,
      rfl⟩, made⟩
    cases built : Blueprint.of name instances keep with
    | error fault =>
        rw [built] at made
        cases made
    | ok own =>
        rw [built] at made
        cases made
        obtain ⟨rfl, rfl, rfl⟩ := Blueprint.of_ok_iff.mp built
        exact ⟨fields, rfl, named, listed, kept⟩
  · rintro ⟨fields, rfl, named, listed, kept⟩
    refine ⟨fields, rfl, _, ⟨_, _, ⟨_, _, ⟨_, _, rfl, named, rfl⟩, listed, rfl⟩, kept, rfl⟩, ?_⟩
    rw [Blueprint.of_ok_iff.mpr ⟨rfl, rfl, rfl⟩]
    rfl

/-! ## Regular step values -/

/-- What all step values of a blueprint are. -/
def Blueprint.EachValue (holds : Value → Prop) (blueprint : Blueprint) : Prop :=
  ∀ server ∈ blueprint.instances, ∀ step ∈ server.steps, ∀ entry ∈ step.entries, holds entry.2

theorem field_regular {fields : List (Value × Value)} {name : String} {content : Value}
    (regular : Value.RegularEntries fields) (found : Value.field? fields name = some content) :
    content.Regular := by
  obtain ⟨entry, own, rfl⟩ := Option.map_eq_some_iff.mp found
  exact ((Value.regular_entries_iff fields).mp regular entry (List.mem_of_find?_eq_some own)).2

theorem tuple_regular {α : Type} {check : Value → Checked α} {value : Value} {results : List α}
    (regular : value.Regular) (given : Checked.tuple check value = .ok results) :
    ∀ result ∈ results, ∃ item : Value, item.Regular ∧ check item = .ok result := by
  obtain ⟨items, same, each⟩ := Checked.tuple_ok given
  have regular : Value.RegularItems items := by
    rcases same with rfl | rfl | rfl
    · exact regular
    · exact regular
    · exact regular
  intro result member
  obtain ⟨item, own, checked⟩ := exists_of_forall₂ each result member
  exact ⟨item, (Value.regular_items_iff items).mp regular item own, checked⟩

theorem mem_insert_entry {α : Type} {key : String} {value : α} {entries : List (String × α)}
    {entry : String × α} (member : entry ∈ insertEntry key value entries) :
    entry.2 = value ∨ entry ∈ entries := by
  induction entries with
  | nil => exact .inl (congrArg Prod.snd (List.mem_singleton.mp member))
  | cons other rest ih =>
      rw [insertEntry] at member
      split at member <;> rcases List.mem_cons.mp member with rfl | later
      · exact .inl rfl
      · exact .inr (List.mem_cons_of_mem _ later)
      · exact .inr List.mem_cons_self
      · exact (ih later).imp_right (List.mem_cons_of_mem _)

/-- The values of a table are among those of the pairs that it is made of. -/
theorem mem_entries_of_list {α : Type} {pairs : List (String × α)} {entry : String × α}
    (member : entry ∈ (Table.ofList pairs).entries) : ∃ pair ∈ pairs, pair.2 = entry.2 := by
  have grows (table : Table α) (pairs : List (String × α))
      (member : entry ∈ (table.insertAll pairs).entries) :
      entry ∈ table.entries ∨ ∃ pair ∈ pairs, pair.2 = entry.2 := by
    induction pairs generalizing table with
    | nil => exact .inl member
    | cons pair rest ih =>
        rcases ih (table.insert pair.1 pair.2) member with early | ⟨other, later, same⟩
        · exact (mem_insert_entry early).symm.imp_right
            fun same => ⟨pair, List.mem_cons_self, same.symm⟩
        · exact .inr ⟨other, List.mem_cons_of_mem _ later, same⟩
  exact (grows .empty pairs member).resolve_left List.not_mem_nil

theorem table_regular {value : Value} {step : SetupStep} (regular : value.Regular)
    (given : Checked.table .ok value = .ok step) : ∀ entry ∈ step.entries, entry.2.Regular := by
  cases value with
  | map entries =>
      obtain ⟨pairs, each, rfl⟩ := Checked.table_ok_iff.mp given
      intro entry member
      obtain ⟨pair, own, same⟩ := mem_entries_of_list member
      obtain ⟨original, held, -, checked⟩ := exists_of_forall₂ each pair own
      rw [← same, ← Except.ok.inj checked]
      exact ((Value.regular_entries_iff entries).mp regular.2 original held).2
  | _ => cases given

theorem Blueprint.of_value_regular {value : Value} {blueprint : Blueprint} (regular : value.Regular)
    (given : Blueprint.ofValue value = .ok blueprint) : blueprint.EachValue Value.Regular := by
  obtain ⟨fields, rfl, -, instances, -⟩ := Blueprint.of_value_ok_iff.mp given
  obtain ⟨listed, found, each⟩ := Checked.required_ok_iff.mp instances
  intro server member step stepMember
  obtain ⟨item, itemRegular, own⟩ :=
    tuple_regular (field_regular regular.2 found) each server member
  obtain ⟨fields, rfl, -, -, steps, -⟩ := Instance.of_value_ok_iff.mp own
  rcases Checked.optional_ok steps with ⟨content, found, each⟩ | none
  · obtain ⟨table, tableRegular, own⟩ :=
      tuple_regular (field_regular itemRegular.2 found) each step stepMember
    exact table_regular tableRegular own
  · rw [none] at stepMember
    exact absurd stepMember List.not_mem_nil

/-! ## Stored form -/

/-- A value as it is stored, and comes back. -/
def Value.StoredAs (value again : Value) : Prop :=
  ∃ data, Plain.ofValue value = .ok data ∧ data.value = again

/-- A step with the same keys, whose values are as they are stored. -/
def SetupStep.StoredAs (step again : SetupStep) : Prop :=
  Forall₂ (fun entry other => other.1 = entry.1 ∧ entry.2.StoredAs other.2) step.entries again.entries

structure Instance.StoredAs (server again : Instance) : Prop where
  name : again.name = server.name
  baseImage : again.baseImage = server.baseImage
  steps : Forall₂ SetupStep.StoredAs server.steps again.steps
  services : again.services = server.services

structure Blueprint.StoredAs (blueprint again : Blueprint) : Prop where
  name : again.name = blueprint.name
  instances : Forall₂ Instance.StoredAs blueprint.instances again.instances
  keepCredentialsFor : again.keepCredentialsFor = blueprint.keepCredentialsFor

theorem map_m_ok_iff {ε α β : Type} {f : α → Except ε β} {items : List α} {results : List β} :
    items.mapM f = .ok results ↔ Forall₂ (fun item result => f item = .ok result) items results := by
  induction items generalizing results with
  | nil => cases results <;> simp [pure, Except.pure]
  | cons item rest ih =>
      simp only [List.mapM_cons, bind_ok_iff, ih]
      constructor
      · rintro ⟨first, own, others, more, same⟩
        cases same
        exact .cons own more
      · rintro (_ | ⟨own, more⟩)
        exact ⟨_, own, _, more, rfl⟩

theorem entries_of_list {α : Type} {pairs : List (String × α)}
    (distinct : (pairs.map Prod.fst).Nodup) : (Table.ofList pairs).entries = pairs := by
  have puts (table : Table α) (pairs : List (String × α))
      (distinct : ((table.entries ++ pairs).map Prod.fst).Nodup) :
      (table.insertAll pairs).entries = table.entries ++ pairs := by
    induction pairs generalizing table with
    | nil => exact (List.append_nil _).symm
    | cons pair rest ih =>
        have new : pair.1 ∉ table.entries.map Prod.fst := by
          rw [List.map_append, List.nodup_append] at distinct
          exact fun member => distinct.2.2 pair.1 member pair.1 List.mem_cons_self rfl
        have put : (table.insert pair.1 pair.2).entries = table.entries ++ [pair] :=
          Plain.insert_entry_new new
        have more := ih (table.insert pair.1 pair.2) (by rw [put]; simpa using distinct)
        rw [put, List.append_assoc] at more
        exact more
  exact puts .empty pairs distinct

/-- Related lists whose items lead on to others, item by item. -/
theorem chain_forall₂ {α β γ : Type} {R : α → β → Prop} {S : β → γ → Prop} {T : α → γ → Prop}
    {items : List α} {others : List β} (related : Forall₂ R items others)
    (leads : ∀ item other, R item other → ∃ last, S other last ∧ T item last) :
    ∃ lasts, Forall₂ S others lasts ∧ Forall₂ T items lasts := by
  induction related with
  | nil => exact ⟨[], .nil, .nil⟩
  | cons own _ ih =>
      obtain ⟨last, one, two⟩ := leads _ _ own
      obtain ⟨lasts, ones, twos⟩ := ih
      exact ⟨last :: lasts, .cons one ones, .cons two twos⟩

theorem map_eq_of_forall₂ {α β γ : Type} {f : α → γ} {g : β → γ} {items : List α} {others : List β}
    (each : Forall₂ (fun item other => g other = f item) items others) :
    others.map g = items.map f := by
  induction each with
  | nil => rfl
  | cons own _ ih => rw [List.map_cons, List.map_cons, own, ih]

theorem item_values_eq (items : List Plain) : Plain.itemValues items = items.map Plain.value := by
  induction items with
  | nil => rfl
  | cons item rest ih => rw [Plain.itemValues, ih, List.map_cons]

theorem entry_values_eq (entries : List (String × Plain)) :
    Plain.entryValues entries = entries.map fun entry => (.text entry.1, entry.2.value) := by
  induction entries with
  | nil => rfl
  | cons entry rest ih => rw [Plain.entryValues, ih, List.map_cons]

theorem stored_step_iff {step : SetupStep} {data : Plain} :
    storedStep step = .ok data ↔ ∃ entries, data = .map entries ∧
      Forall₂ (fun entry other => other.1 = entry.1 ∧ Plain.ofValue entry.2 = .ok other.2)
        step.entries entries := by
  have each (entry : String × Value) (other : String × Plain) :
      (do
        let content ← Plain.ofValue entry.2
        return (entry.1, content) : Except Text.Utf8Fault (String × Plain)) = .ok other ↔
          other.1 = entry.1 ∧ Plain.ofValue entry.2 = .ok other.2 := by
    obtain ⟨name, content⟩ := other
    cases Plain.ofValue entry.2 <;> simp [bind, Except.bind, pure, Except.pure, eq_comm]
  simp only [storedStep, bind_ok_iff, map_m_ok_iff, each]
  constructor
  · rintro ⟨entries, made, same⟩
    cases same
    exact ⟨entries, rfl, made⟩
  · rintro ⟨entries, rfl, made⟩
    exact ⟨entries, made, rfl⟩

theorem stored_keys {entries : List (String × Value)} {others : List (String × Plain)}
    (each : Forall₂ (fun entry other => other.1 = entry.1 ∧ Plain.ofValue entry.2 = .ok other.2)
      entries others) : others.map Prod.fst = entries.map Prod.fst :=
  map_eq_of_forall₂ (each.imp fun _ _ own => own.1)

theorem stored_step_valid {step : SetupStep} {data : Plain} (stored : storedStep step = .ok data) :
    ∃ again : SetupStep, Checked.table .ok data.value = .ok again ∧ step.StoredAs again := by
  obtain ⟨entries, rfl, each⟩ := stored_step_iff.mp stored
  have distinct : ((entries.map fun entry => (entry.1, entry.2.value)).map Prod.fst).Nodup := by
    rw [List.map_map]
    exact stored_keys each ▸ step.distinct
  refine ⟨Table.ofList (entries.map fun entry => (entry.1, entry.2.value)),
    Checked.table_ok_iff.mpr ⟨_, ?_, rfl⟩, ?_⟩
  · rw [entry_values_eq, List.forall₂_map_left_iff, List.forall₂_map_right_iff, List.forall₂_same]
    exact fun entry _ => ⟨rfl, rfl⟩
  · rw [SetupStep.StoredAs, entries_of_list distinct, List.forall₂_map_right_iff]
    exact each.imp fun entry other own => ⟨own.1, other.2, own.2, rfl⟩

theorem name_valid (what : String) (name : Name) :
    Checked.name what (.text name.text) = .ok name := by
  have made : Name.of what (some name.text) = .ok name := dif_pos name.valid
  unfold Checked.name Checked.text
  simp only [bind, Except.bind, made]
  rfl

theorem service_valid (service : ApplicationService) :
    ApplicationService.ofValue service.value = .ok service := rfl

theorem stored_instance_valid {server : Instance} {data : Plain} (stored : server.stored = .ok data) :
    ∃ again, Instance.ofValue data.value = .ok again ∧ server.StoredAs again := by
  obtain ⟨steps, made, same⟩ := bind_ok_iff.mp stored
  obtain ⟨again, valid, storedAs⟩ :=
    chain_forall₂ (map_m_ok_iff.mp made) fun _ _ stored => stored_step_valid stored
  have tables : Checked.tuple (Checked.table .ok) (Plain.list steps).value = .ok again := by
    refine Checked.tuple_ok_iff.mpr ?_
    rw [item_values_eq, List.forall₂_map_left_iff]
    exact valid
  have services : Checked.tuple ApplicationService.ofValue
      (Plain.list (server.services.map fun service => .map service.fields)).value =
        .ok server.services := by
    refine Checked.tuple_ok_iff.mpr ?_
    rw [item_values_eq, List.forall₂_map_left_iff, List.forall₂_map_left_iff, List.forall₂_same]
    exact fun service _ => service_valid service
  have named {fields : List (Value × Value)}
      (found : Value.field? fields "name" = some (.text server.name.text)) :
      Checked.required fields "name" (Checked.name "instance") = .ok server.name :=
    Checked.required_ok_iff.mpr ⟨_, found, name_valid "instance" server.name⟩
  refine ⟨{ server with steps := again }, Instance.of_value_ok_iff.mpr ?_, rfl, rfl, storedAs, rfl⟩
  cases same
  dsimp only
  cases server.baseImage with
  | none =>
      exact ⟨_, rfl, named rfl, rfl, Checked.inside_ok_iff.mpr tables,
        Checked.inside_ok_iff.mpr services⟩
  | some image =>
      exact ⟨_, rfl, named rfl, rfl, Checked.inside_ok_iff.mpr tables,
        Checked.inside_ok_iff.mpr services⟩

/-- The stored form of a blueprint is valid, and makes it again with its values as they are stored.
-/
theorem stored_valid {blueprint : Blueprint} {entries : List (String × Plain)}
    (stored : blueprint.stored = .ok entries) :
    ∃ again, Blueprint.ofValue (Plain.map entries).value = .ok again ∧ blueprint.StoredAs again := by
  obtain ⟨instances, made, same⟩ := bind_ok_iff.mp stored
  cases same
  obtain ⟨again, valid, storedAs⟩ :=
    chain_forall₂ (map_m_ok_iff.mp made) fun _ _ stored => stored_instance_valid stored
  have names : instanceNames again = instanceNames blueprint.instances :=
    map_eq_of_forall₂ (storedAs.imp fun _ _ own => congrArg Name.text own.name)
  have nonempty : again ≠ [] := by
    rintro rfl
    exact blueprint.nonempty (List.forall₂_nil_right_iff.mp storedAs)
  have servers : Checked.tuple Instance.ofValue (Plain.list instances).value = .ok again := by
    refine Checked.tuple_ok_iff.mpr ?_
    rw [item_values_eq, List.forall₂_map_left_iff]
    exact valid
  have kept : Checked.tuple Checked.text
      (Plain.list (blueprint.keepCredentialsFor.map .text)).value =
        .ok blueprint.keepCredentialsFor := by
    refine Checked.tuple_ok_iff.mpr ?_
    rw [item_values_eq, List.forall₂_map_left_iff, List.forall₂_map_left_iff, List.forall₂_same]
    exact fun _ _ => rfl
  refine ⟨⟨blueprint.name, again, blueprint.keepCredentialsFor, nonempty, names ▸ blueprint.distinct⟩,
    Blueprint.of_value_ok_iff.mpr ⟨_, rfl, ?_, ?_, ?_⟩, rfl, storedAs, rfl⟩
  · exact Checked.required_ok_iff.mpr ⟨_, rfl, name_valid "blueprint" blueprint.name⟩
  · exact Checked.required_ok_iff.mpr ⟨_, rfl, servers⟩
  · exact Checked.inside_ok_iff.mpr kept

end FixtureImages
