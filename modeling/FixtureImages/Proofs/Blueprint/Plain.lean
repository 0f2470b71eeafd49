import FixtureImages.Plain
import FixtureImages.Proofs.Yaml.Nodes
import FixtureImages.Proofs.Yaml.Regular

/-!
# Values that are stored

Untyped values are stored as plain data. Of regular values sound data is made, and exactly those
values come out as they were that are plain already.
-/

namespace FixtureImages

set_option autoImplicit false

open Yaml (Sound SoundItems SoundEntries)

namespace Value

mutual

/-- Values of the kinds that plain data has: texts, truth values, integers, finite numbers, nulls,
and lists and mappings of them whose keys are texts. -/
def IsPlain : Value → Prop
  | .null | .bool _ | .int _ | .text _ => True
  | .real number => number.isFinite = true
  | .list items => PlainItems items
  | .map entries => PlainEntries entries
  | .bytes _ | .date _ | .moment _ | .tuple _ | .set _ => False

def PlainItems : List Value → Prop
  | [] => True
  | item :: rest => item.IsPlain ∧ PlainItems rest

def PlainEntries : List (Value × Value) → Prop
  | [] => True
  | (key, item) :: rest => (∃ name, key = .text name) ∧ item.IsPlain ∧ PlainEntries rest

end

/-! ## Values whose stored form is laid down -/

/-- Keys whose text and identity are laid down. A number that is not finite is none: its text is left
open, and two that are no number are the same key only where they are one object. -/
def IsSettledKey : Value → Prop
  | .real number => number.isFinite = true
  | _ => True

mutual

/-- Values that are stored in one way only. A set has no order, so it may have no second member; and
no number that is not finite is a member of a set or a key. -/
def Settled : Value → Prop
  | .list items | .tuple items => SettledItems items
  | .map entries => SettledEntries entries
  | .set items => items.length ≤ 1 ∧ ∀ item ∈ items, item.IsSettledKey
  | .null | .bool _ | .int _ | .real _ | .text _ | .bytes _ | .date _ | .moment _ => True

def SettledItems : List Value → Prop
  | [] => True
  | item :: rest => item.Settled ∧ SettledItems rest

def SettledEntries : List (Value × Value) → Prop
  | [] => True
  | (key, item) :: rest => key.IsSettledKey ∧ item.Settled ∧ SettledEntries rest

end

mutual

theorem settled_of_plain : ∀ value : Value, value.IsPlain → value.Settled
  | .null, _ | .bool _, _ | .int _, _ | .real _, _ | .text _, _ => trivial
  | .list items, plain => items_settled_of_plain items plain
  | .map entries, plain => entries_settled_of_plain entries plain

theorem items_settled_of_plain : ∀ items : List Value, PlainItems items → SettledItems items
  | [], _ => trivial
  | item :: rest, ⟨plain, plains⟩ =>
      ⟨settled_of_plain item plain, items_settled_of_plain rest plains⟩

theorem entries_settled_of_plain : ∀ entries : List (Value × Value), PlainEntries entries →
    SettledEntries entries
  | [], _ => trivial
  | (_, item) :: rest, ⟨⟨_, named⟩, plain, plains⟩ =>
      ⟨named ▸ trivial, settled_of_plain item plain, entries_settled_of_plain rest plains⟩

end

end Value

namespace Plain

/-! ## Sound data -/

theorem insert_entry_sound {key : String} {data : Plain} {entries : List (String × Plain)}
    (sound : Sound data) (sounds : SoundEntries entries) :
    SoundEntries (insertEntry key data entries) := by
  induction entries with
  | nil => exact ⟨sound, trivial⟩
  | cons entry rest ih =>
      rw [insertEntry]
      split
      · exact ⟨sound, sounds.2⟩
      · exact ⟨sounds.1, ih sounds.2⟩

mutual

/-- Of a regular value sound data is made. -/
theorem of_value_sound : ∀ (value : Value) {data : Plain}, value.Regular →
    ofValue value = .ok data → Sound data
  | .null, _, _, made => by cases made; trivial
  | .bool _, _, _, made => by cases made; trivial
  | .int _, _, _, made => by cases made; trivial
  | .real number, _, normal, made => by
      cases made
      split
      · exact ⟨normal, ‹_›⟩
      · trivial
  | .text _, _, _, made => by cases made; trivial
  | .bytes _, _, _, made => by
      obtain ⟨text, -, rfl⟩ := map_ok_iff.mp made
      trivial
  | .date _, _, _, made => by cases made; trivial
  | .moment _, _, _, made => by cases made; trivial
  | .list items, _, regular, made => by
      obtain ⟨made, own, rfl⟩ := map_ok_iff.mp made
      exact of_items_sound items regular own
  | .tuple items, _, regular, made => by
      obtain ⟨made, own, rfl⟩ := map_ok_iff.mp made
      exact of_items_sound items regular own
  | .set items, _, regular, made => by
      obtain ⟨made, own, rfl⟩ := map_ok_iff.mp made
      exact of_items_sound items regular own
  | .map entries, _, ⟨_, regular⟩, made => by
      obtain ⟨made, own, rfl⟩ := map_ok_iff.mp made
      exact of_entries_sound entries regular (by simp) (show SoundEntries [] from trivial) own

theorem of_items_sound : ∀ (items : List Value) {made : List Plain}, Value.RegularItems items →
    ofItems items = .ok made → SoundItems made
  | [], _, _, made => by cases made; trivial
  | item :: rest, _, ⟨regular, regulars⟩, made => by
      obtain ⟨first, own, made⟩ := bind_ok_iff.mp made
      obtain ⟨others, more, same⟩ := bind_ok_iff.mp made
      cases same
      exact ⟨of_value_sound item regular own, of_items_sound rest regulars more⟩

theorem of_entries_sound : ∀ (entries : List (Value × Value)) {done made : List (String × Plain)},
    Value.RegularEntries entries → (done.map Prod.fst).Nodup → SoundEntries done →
      ofEntries done entries = .ok made → Sound (.map made)
  | [], _, _, _, distinct, sounds, made => by
      cases made
      exact ⟨distinct, sounds⟩
  | (key, item) :: rest, _, _, ⟨⟨_, regular⟩, regulars⟩, distinct, sounds, made => by
      obtain ⟨name, -, made⟩ := bind_ok_iff.mp made
      obtain ⟨content, own, made⟩ := bind_ok_iff.mp made
      exact of_entries_sound rest regulars (nodup_keys_insertEntry name content _ distinct)
        (insert_entry_sound (of_value_sound item regular own) sounds) made

end

/-! ## Data that is kept -/

mutual

theorem value_is_plain : ∀ data : Plain, Sound data → data.value.IsPlain
  | .null, _ => trivial
  | .bool _, _ => trivial
  | .int _, _ => trivial
  | .real _, ⟨_, finite⟩ => finite
  | .text _, _ => trivial
  | .list items, sound => item_values_plain items sound
  | .map entries, ⟨_, sounds⟩ => entry_values_plain entries sounds

theorem item_values_plain : ∀ items : List Plain, SoundItems items →
    Value.PlainItems (itemValues items)
  | [], _ => trivial
  | item :: rest, ⟨sound, sounds⟩ => ⟨value_is_plain item sound, item_values_plain rest sounds⟩

theorem entry_values_plain : ∀ entries : List (String × Plain), SoundEntries entries →
    Value.PlainEntries (entryValues entries)
  | [], _ => trivial
  | (key, item) :: rest, ⟨sound, sounds⟩ =>
      ⟨⟨key, rfl⟩, value_is_plain item sound, entry_values_plain rest sounds⟩

end

theorem insert_entry_new {α : Type} {key : String} {value : α} {entries : List (String × α)}
    (new : key ∉ entries.map Prod.fst) : insertEntry key value entries = entries ++ [(key, value)] := by
  induction entries with
  | nil => rfl
  | cons entry rest ih =>
      simp only [List.map_cons, List.mem_cons, not_or] at new
      rw [insertEntry, if_neg (Ne.symm new.1), ih new.2]
      rfl

mutual

/-- A plain value is stored as it is. -/
theorem of_value_plain : ∀ (value : Value) {data : Plain}, value.Regular → value.IsPlain →
    ofValue value = .ok data → data.value = value
  | .null, _, _, _, made => by cases made; rfl
  | .bool _, _, _, _, made => by cases made; rfl
  | .int _, _, _, _, made => by cases made; rfl
  | .real number, _, _, finite, made => by
      cases made
      rw [if_pos (show number.isFinite = true from finite)]
      rfl
  | .text _, _, _, _, made => by cases made; rfl
  | .list items, _, regular, plain, made => by
      obtain ⟨made, own, rfl⟩ := map_ok_iff.mp made
      exact congrArg Value.list (of_items_plain items regular plain own)
  | .map entries, _, ⟨distinct, regular⟩, plain, made => by
      obtain ⟨made, own, rfl⟩ := map_ok_iff.mp made
      exact congrArg Value.map (of_entries_plain entries distinct regular plain (by simp) own)

theorem of_items_plain : ∀ (items : List Value) {made : List Plain}, Value.RegularItems items →
    Value.PlainItems items → ofItems items = .ok made → itemValues made = items
  | [], _, _, _, made => by cases made; rfl
  | item :: rest, _, ⟨regular, regulars⟩, ⟨plain, plains⟩, made => by
      obtain ⟨first, own, made⟩ := bind_ok_iff.mp made
      obtain ⟨others, more, same⟩ := bind_ok_iff.mp made
      cases same
      rw [itemValues, of_value_plain item regular plain own, of_items_plain rest regulars plains more]

theorem of_entries_plain : ∀ (entries : List (Value × Value)) {done made : List (String × Plain)},
    Value.DistinctKeys (entries.map Prod.fst) → Value.RegularEntries entries →
      Value.PlainEntries entries →
        (∀ name ∈ done.map Prod.fst, Value.text name ∉ entries.map Prod.fst) →
          ofEntries done entries = .ok made → entryValues made = entryValues done ++ entries
  | [], _, _, _, _, _, _, made => by
      cases made
      rw [List.append_nil]
  | (key, item) :: rest, done, _, distinct, ⟨⟨_, regular⟩, regulars⟩, ⟨named, plain, plains⟩, apart,
      made => by
      obtain ⟨name, rfl⟩ := named
      obtain ⟨others, distinct⟩ := List.pairwise_cons.mp distinct
      obtain ⟨stays, named, made⟩ := bind_ok_iff.mp made
      cases named
      obtain ⟨content, own, made⟩ := bind_ok_iff.mp made
      have new : name ∉ done.map Prod.fst := fun member => apart name member List.mem_cons_self
      rw [insert_entry_new new] at made
      have further : ∀ other ∈ (done ++ [(name, content)]).map Prod.fst,
          Value.text other ∉ rest.map Prod.fst := by
        intro other member later
        rw [List.map_append, List.mem_append] at member
        rcases member with old | last
        · exact apart other old (List.mem_cons_of_mem _ later)
        · rw [List.mem_singleton.mp last] at later
          have same := others _ later
          rw [Yaml.same_text_key, decide_eq_true rfl] at same
          cases same
      rw [of_entries_plain rest distinct regulars plains further made, Yaml.entry_values_append,
        ← of_value_plain item regular plain own, List.append_assoc]
      rfl

end

/-- A regular value comes out of its stored form as it was exactly if it is plain. -/
theorem value_eq_iff {value : Value} {data : Plain} (regular : value.Regular)
    (made : ofValue value = .ok data) : data.value = value ↔ value.IsPlain := by
  constructor
  · intro same
    rw [← same]
    exact value_is_plain data (of_value_sound value regular made)
  · exact fun plain => of_value_plain value regular plain made

end Plain

end FixtureImages
