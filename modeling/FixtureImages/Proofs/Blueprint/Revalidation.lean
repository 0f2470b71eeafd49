import FixtureImages.Proofs.Blueprint.RoundTrip

/-!
# Stored blueprints, validated again

A blueprint whose step values are plain, to any depth, has a stored form, and validating that form
makes the same blueprint. Nulls inside a step are values like any others and stay; only a base image
that is not there has no field.
-/

namespace FixtureImages

set_option autoImplicit false

open List (Forall₂)

/-! ## Plain values have a stored form -/

namespace Plain

mutual

theorem of_value_total : ∀ value : Value, value.IsPlain → ∃ data, ofValue value = .ok data
  | .null, _ => ⟨_, rfl⟩
  | .bool _, _ => ⟨_, rfl⟩
  | .int _, _ => ⟨_, rfl⟩
  | .real _, _ => ⟨_, rfl⟩
  | .text _, _ => ⟨_, rfl⟩
  | .list items, plain => by
      obtain ⟨made, own⟩ := of_items_total items plain
      exact ⟨.list made, map_ok_iff.mpr ⟨made, own, rfl⟩⟩
  | .map entries, plain => by
      obtain ⟨made, own⟩ := of_entries_total entries [] plain
      exact ⟨.map made, map_ok_iff.mpr ⟨made, own, rfl⟩⟩

theorem of_items_total : ∀ items : List Value, Value.PlainItems items →
    ∃ made, ofItems items = .ok made
  | [], _ => ⟨[], rfl⟩
  | item :: rest, ⟨plain, plains⟩ => by
      obtain ⟨first, own⟩ := of_value_total item plain
      obtain ⟨others, more⟩ := of_items_total rest plains
      exact ⟨first :: others, bind_ok_iff.mpr ⟨first, own, bind_ok_iff.mpr ⟨others, more, rfl⟩⟩⟩

theorem of_entries_total : ∀ (entries : List (Value × Value)) (done : List (String × Plain)),
    Value.PlainEntries entries → ∃ made, ofEntries done entries = .ok made
  | [], done, _ => ⟨done, rfl⟩
  | (key, item) :: rest, done, ⟨named, plain, plains⟩ => by
      obtain ⟨name, rfl⟩ := named
      obtain ⟨content, own⟩ := of_value_total item plain
      obtain ⟨made, more⟩ := of_entries_total rest (insertEntry name content done) plains
      exact ⟨made, bind_ok_iff.mpr ⟨name, rfl, bind_ok_iff.mpr ⟨content, own, more⟩⟩⟩

end

end Plain

/-! ## Blueprints of plain values have one -/

theorem exists_forall₂ {α β : Type} {R : α → β → Prop} {items : List α}
    (each : ∀ item ∈ items, ∃ other, R item other) : ∃ others, Forall₂ R items others := by
  induction items with
  | nil => exact ⟨[], .nil⟩
  | cons item rest ih =>
      rw [List.forall_mem_cons] at each
      obtain ⟨other, own⟩ := each.1
      obtain ⟨others, more⟩ := ih each.2
      exact ⟨other :: others, .cons own more⟩

theorem map_m_total {ε α β : Type} {f : α → Except ε β} {items : List α}
    (each : ∀ item ∈ items, ∃ result, f item = .ok result) : ∃ results, items.mapM f = .ok results := by
  obtain ⟨results, all⟩ := exists_forall₂ each
  exact ⟨results, map_m_ok_iff.mpr all⟩

theorem stored_step_total {step : SetupStep} (plain : ∀ entry ∈ step.entries, entry.2.IsPlain) :
    ∃ data, storedStep step = .ok data := by
  have each : ∀ entry ∈ step.entries, ∃ other : String × Plain,
      other.1 = entry.1 ∧ Plain.ofValue entry.2 = .ok other.2 := by
    intro entry member
    obtain ⟨data, made⟩ := Plain.of_value_total entry.2 (plain entry member)
    exact ⟨(entry.1, data), rfl, made⟩
  obtain ⟨entries, all⟩ := exists_forall₂ each
  exact ⟨.map entries, stored_step_iff.mpr ⟨entries, rfl, all⟩⟩

theorem stored_instance_total {server : Instance}
    (plain : ∀ step ∈ server.steps, ∀ entry ∈ step.entries, entry.2.IsPlain) :
    ∃ data, server.stored = .ok data := by
  obtain ⟨steps, made⟩ := map_m_total fun step member => stored_step_total (plain step member)
  exact ⟨_, bind_ok_iff.mpr ⟨steps, made, rfl⟩⟩

theorem stored_total {blueprint : Blueprint} (plain : blueprint.EachValue Value.IsPlain) :
    ∃ entries, blueprint.stored = .ok entries := by
  obtain ⟨instances, made⟩ :=
    map_m_total fun server member => stored_instance_total (plain server member)
  exact ⟨_, bind_ok_iff.mpr ⟨instances, made, rfl⟩⟩

/-! ## Validating the stored form -/

namespace Blueprint

/-- The step values of a blueprint are plain exactly if it has a stored form that, validated, makes
the same blueprint. -/
theorem stored_validates_iff {blueprint : Blueprint} (regular : blueprint.EachValue Value.Regular) :
    (∃ entries, blueprint.stored = .ok entries ∧ ofValue (Plain.map entries).value = .ok blueprint) ↔
      blueprint.EachValue Value.IsPlain := by
  constructor
  · rintro ⟨entries, stored, valid⟩
    obtain ⟨again, same, storedAs⟩ := stored_valid stored
    rw [valid] at same
    cases same
    exact (blueprint_eq_iff regular storedAs).mp rfl
  · intro plain
    obtain ⟨entries, stored⟩ := stored_total plain
    obtain ⟨again, valid, storedAs⟩ := stored_valid stored
    rw [(blueprint_eq_iff regular storedAs).mpr plain] at valid
    exact ⟨entries, stored, valid⟩

/-- The entries of a step with nulls at its top, in a list and in a mapping inside that list. -/
def nestedEntries : List (String × Value) :=
  [("type", .text "create"), ("note", .null), ("ratio", .real (.ofRatio true 1 4)),
    ("profile", .map
      [(.text "tags", .list [.null, .map [(.text "deep", .null), (.text "no", .int (-7))]]),
        (.text "open", .bool false)])]

def nestedStep : SetupStep := ⟨nestedEntries, by decide⟩

private theorem nested_blueprint_named : isName "nested-bp".toList = true := by decide

private theorem nested_server_named : isName "hs2".toList = true := by decide

/-- One instance has a base image and a service, the other has neither. -/
def nested : Blueprint where
  name := ⟨"nested-bp", nested_blueprint_named⟩
  instances :=
    [⟨⟨"hs2", nested_server_named⟩, none, [nestedStep, .empty], []⟩,
      ⟨⟨"nested-bp", nested_blueprint_named⟩, some "", [],
        [⟨"bridge", "h", "a", "", "bot", true, false, true⟩]⟩]
  keepCredentialsFor := ["@alice:hs2"]
  nonempty := by simp
  distinct := by decide

theorem nested_each {holds : Value → Prop} (all : ∀ entry ∈ nestedEntries, holds entry.2) :
    nested.EachValue holds := by
  simpa [EachValue, nested, nestedStep, Table.empty] using all

theorem stored_validates_of_nested : nested.EachValue Value.Regular ∧ nested.EachValue Value.IsPlain ∧
    ∃ entries, nested.stored = .ok entries ∧ ofValue (Plain.map entries).value = .ok nested := by
  have regular : ∀ entry ∈ nestedEntries, entry.2.Regular := by
    simp only [nestedEntries, List.forall_mem_cons]
    simp [Value.Regular, Value.RegularItems, Value.RegularEntries, Value.DistinctKeys,
      Yaml.same_text_key, Binary64.of_ratio_normal]
  have plain : ∀ entry ∈ nestedEntries, entry.2.IsPlain := by
    simp only [nestedEntries, List.forall_mem_cons]
    simp [Value.IsPlain, Value.PlainItems, Value.PlainEntries]
    decide
  exact ⟨nested_each regular, nested_each plain,
    (stored_validates_iff (nested_each regular)).mpr (nested_each plain)⟩

end Blueprint

end FixtureImages
