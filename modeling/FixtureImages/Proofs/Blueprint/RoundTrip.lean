import FixtureImages.Proofs.Blueprint.Validation

/-!
# Documents of blueprints

A blueprint that is written and read again comes back with each step value in its stored form.
-/

namespace FixtureImages

set_option autoImplicit false

open List (Forall₂)
open Yaml (Sound SoundItems SoundEntries)

/-! ## Sound stored forms -/

theorem sound_items_iff (items : List Plain) : SoundItems items ↔ ∀ item ∈ items, Sound item := by
  induction items with
  | nil => simp [SoundItems]
  | cons item rest ih => simp [SoundItems, ih]

theorem sound_entries_iff (entries : List (String × Plain)) :
    SoundEntries entries ↔ ∀ entry ∈ entries, Sound entry.2 := by
  induction entries with
  | nil => simp [SoundEntries]
  | cons entry rest ih => simp [SoundEntries, ih]

theorem stored_step_sound {step : SetupStep} {data : Plain}
    (regular : ∀ entry ∈ step.entries, entry.2.Regular) (stored : storedStep step = .ok data) :
    Sound data := by
  obtain ⟨entries, rfl, each⟩ := stored_step_iff.mp stored
  refine ⟨stored_keys each ▸ step.distinct, (sound_entries_iff entries).mpr fun other member => ?_⟩
  obtain ⟨entry, own, -, made⟩ := exists_of_forall₂ each other member
  exact Plain.of_value_sound entry.2 (regular entry own) made

theorem stored_instance_sound {server : Instance} {data : Plain}
    (regular : ∀ step ∈ server.steps, ∀ entry ∈ step.entries, entry.2.Regular)
    (stored : server.stored = .ok data) : Sound data := by
  obtain ⟨steps, made, same⟩ := bind_ok_iff.mp stored
  have steps : Sound (.list steps) := by
    refine (sound_items_iff steps).mpr fun data member => ?_
    obtain ⟨step, own, stored⟩ := exists_of_forall₂ (map_m_ok_iff.mp made) data member
    exact stored_step_sound (regular step own) stored
  have services : Sound (.list (server.services.map fun service => .map service.fields)) := by
    refine (sound_items_iff _).mpr (List.forall_mem_map.mpr fun service _ => ?_)
    exact ⟨by simp [ApplicationService.fields], by simp [ApplicationService.fields, SoundEntries, Sound]⟩
  cases same
  cases server.baseImage with
  | none => exact ⟨by simp, trivial, steps, services, trivial⟩
  | some image => exact ⟨by simp, trivial, trivial, steps, services, trivial⟩

theorem stored_sound {blueprint : Blueprint} {entries : List (String × Plain)}
    (regular : blueprint.EachValue Value.Regular) (stored : blueprint.stored = .ok entries) :
    Sound (.map entries) := by
  obtain ⟨instances, made, same⟩ := bind_ok_iff.mp stored
  have instances : Sound (.list instances) := by
    refine (sound_items_iff instances).mpr fun data member => ?_
    obtain ⟨server, own, stored⟩ := exists_of_forall₂ (map_m_ok_iff.mp made) data member
    exact stored_instance_sound (regular server own) stored
  have kept : Sound (.list (blueprint.keepCredentialsFor.map .text)) :=
    (sound_items_iff _).mpr (List.forall_mem_map.mpr fun _ _ => trivial)
  cases same
  exact ⟨by simp, trivial, instances, kept, trivial⟩

/-! ## Blueprints that stay -/

section

variable {α : Type} {R : α → α → Prop}

theorem eq_of_forall₂ {items others : List α} (each : Forall₂ R items others)
    (same : ∀ item ∈ items, ∀ other, R item other → other = item) : others = items := by
  induction each with
  | nil => rfl
  | cons own _ ih =>
      rw [List.forall_mem_cons] at same
      rw [same.1 _ own, ih same.2]

end

theorem step_eq {step again : SetupStep} (regular : ∀ entry ∈ step.entries, entry.2.Regular)
    (plain : ∀ entry ∈ step.entries, entry.2.IsPlain) (stored : step.StoredAs again) : again = step := by
  obtain ⟨entries, distinct⟩ := step
  obtain ⟨others, others_distinct⟩ := again
  have same : others = entries := by
    refine eq_of_forall₂ stored fun entry member other own => ?_
    obtain ⟨key, data, made, same⟩ := own
    have := (Plain.value_eq_iff (regular entry member) made).mpr (plain entry member)
    exact Prod.ext key (same.symm.trans this)
  subst same
  rfl

theorem instance_eq {server again : Instance}
    (regular : ∀ step ∈ server.steps, ∀ entry ∈ step.entries, entry.2.Regular)
    (plain : ∀ step ∈ server.steps, ∀ entry ∈ step.entries, entry.2.IsPlain)
    (stored : server.StoredAs again) : again = server := by
  obtain ⟨name, image, steps, services⟩ := server
  obtain ⟨name', image', steps', services'⟩ := again
  obtain ⟨rfl, rfl, stored, rfl⟩ := stored
  have same : steps' = steps := eq_of_forall₂ stored fun step member other own =>
    step_eq (regular step member) (plain step member) own
  subst same
  rfl

/-- A blueprint is stored as it is exactly if all its step values are plain. -/
theorem blueprint_eq_iff {blueprint again : Blueprint} (regular : blueprint.EachValue Value.Regular)
    (stored : blueprint.StoredAs again) : again = blueprint ↔ blueprint.EachValue Value.IsPlain := by
  constructor
  · rintro rfl server member step stepMember entry own
    have serverStored := List.forall₂_same.mp stored.instances server member
    have stepStored := List.forall₂_same.mp serverStored.steps step stepMember
    obtain ⟨-, data, made, same⟩ := List.forall₂_same.mp stepStored entry own
    exact (Plain.value_eq_iff (regular server member step stepMember entry own) made).mp same
  · intro plain
    obtain ⟨name, instances, keep, _, _⟩ := blueprint
    obtain ⟨name', instances', keep', _, _⟩ := again
    obtain ⟨rfl, stored, rfl⟩ := stored
    have same : instances' = instances := eq_of_forall₂ stored fun server member other own =>
      instance_eq (regular server member) (plain server member) own
    subst same
    rfl

/-! ## Reading what is written -/

namespace Blueprint

/-- Whether all texts and integers in the stored form of a blueprint are written so that they are
read back. -/
def Legible (blueprint : Blueprint) : Prop :=
  ∀ stored, blueprint.stored = .ok stored → Yaml.LegibleEntries true 0 stored

instance (blueprint : Blueprint) : Decidable blueprint.Legible :=
  match same : blueprint.stored with
  | .ok stored => decidable_of_iff (Yaml.LegibleEntries true 0 stored) (by simp [Legible, same])
  | .error _ => isTrue (by simp [Legible, same])

/-- A blueprint whose document is laid down and is written so that it is read back. -/
structure Portable (blueprint : Blueprint) : Prop where
  settled : blueprint.EachValue Value.Settled
  legible : blueprint.Legible

theorem of_yaml_regular {text : String} {blueprint : Blueprint} (given : ofYaml text = .ok blueprint) :
    blueprint.EachValue Value.Regular := by
  unfold ofYaml at given
  split at given
  · cases given
  · exact of_value_regular (Yaml.read_regular ‹_›) (map_error_ok_iff.mp given)
  · cases given

/-- A blueprint out of a document, written again, is read back with each step value in its stored
form, so that it is the same blueprint exactly if all step values are plain. -/
theorem read_back {text document : String} {blueprint : Blueprint}
    (given : ofYaml text = .ok blueprint) (written : blueprint.toYaml = .ok document)
    (portable : blueprint.Portable) : ∃ again, ofYaml document = .ok again ∧ blueprint.StoredAs again ∧
      (again = blueprint ↔ blueprint.EachValue Value.IsPlain) := by
  have regular := of_yaml_regular given
  obtain ⟨entries, stored, rfl⟩ := map_ok_iff.mp written
  obtain ⟨again, valid, storedAs⟩ := stored_valid stored
  have filled : entries ≠ [] := by
    obtain ⟨instances, -, same⟩ := bind_ok_iff.mp stored
    cases same
    exact List.cons_ne_nil _ _
  have read := Yaml.read_write filled (stored_sound regular stored) (portable.legible entries stored)
  refine ⟨again, ?_, storedAs, blueprint_eq_iff regular storedAs⟩
  rw [ofYaml, read]
  exact map_error_ok_iff.mpr valid

/-- A document with a step of several values, the last of which is a date. -/
def datedText : String :=
  "name: bp\ninstances:\n- name: hs1\n  base_image_uri: img\n  steps:\n" ++
    "  - type: register\n    count: 0x10\n    weight: 2.5\n    note: ['yes', null]\n" ++
    "    born: 2020-01-01\n"

private theorem dated_day_valid : Calendar.isValidDate 2020 1 1 = true := by decide

def datedValues : List (String × Value) :=
  [("type", .text "register"), ("count", .int 16), ("weight", .real (.ofRatio false 5 2)),
    ("note", .list [.text "yes", .null]), ("born", .date ⟨2020, 1, 1, dated_day_valid⟩)]

def datedStep : SetupStep := .ofList datedValues

def dated : Blueprint where
  name := ⟨"bp", bp_named⟩
  instances := [⟨⟨"hs1", hs1_named⟩, some "img", [datedStep], []⟩]
  keepCredentialsFor := []
  nonempty := by simp
  distinct := by decide

def datedDocument : String :=
  "name: bp\ninstances:\n- name: hs1\n  base_image_uri: img\n  steps:\n" ++
    "  - type: register\n    count: 16\n    weight: 2.5\n    note:\n    - 'yes'\n    - null\n" ++
    "    born: '2020-01-01'\n  application_services: []\nkeep_credentials_for: []\n"

theorem dated_given : ofYaml datedText = .ok dated := by decide +kernel

theorem dated_written : dated.toYaml = .ok datedDocument := by decide +kernel

theorem dated_settled : dated.EachValue Value.Settled := by
  have settled : ∀ entry ∈ datedStep.entries, entry.2.Settled := by
    have kept : datedStep.entries = datedValues := by decide +kernel
    rw [kept]
    simp [datedValues, Value.Settled, Value.SettledItems]
  intro server own step among entry member
  obtain rfl := List.mem_singleton.mp own
  obtain rfl := List.mem_singleton.mp among
  exact settled entry member

theorem dated_read_back : (ofYaml datedText = .ok dated ∧ dated.toYaml = .ok datedDocument ∧
    dated.Portable) ∧ ∃ again, ofYaml datedDocument = .ok again ∧ dated.StoredAs again ∧
      (again = dated ↔ dated.EachValue Value.IsPlain) :=
  have portable : dated.Portable := ⟨dated_settled, by decide +kernel⟩
  ⟨⟨dated_given, dated_written, portable⟩, read_back dated_given dated_written portable⟩

/-- Not every blueprint is read back as it was: a date in a step comes back as a text. -/
theorem date_comes_back_as_text : ¬∀ (text document : String) (blueprint : Blueprint),
    ofYaml text = .ok blueprint → blueprint.toYaml = .ok document →
      ofYaml document = .ok blueprint := by
  intro kept
  have other : ofYaml datedDocument ≠ .ok dated := by decide +kernel
  exact other (kept datedText datedDocument dated dated_given dated_written)

end Blueprint

end FixtureImages
