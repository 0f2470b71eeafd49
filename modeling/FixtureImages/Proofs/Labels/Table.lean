import FixtureImages.Table
import Mathlib.Data.List.Dedup
import Mathlib.Data.List.Induction

/-!
# Looking up what was written

What a table holds under a key after many pairs were written over it.
-/

namespace FixtureImages.Table

set_option autoImplicit false

variable {α β : Type}

private theorem find_entry {entries : List (String × α)} {entry : String × α}
    (distinct : (entries.map Prod.fst).Nodup) (member : entry ∈ entries) :
    entries.find? (fun other => other.1 == entry.1) = some entry := by
  induction entries with
  | nil => exact absurd member List.not_mem_nil
  | cons head rest ih =>
      simp only [List.map_cons, List.nodup_cons] at distinct
      rcases List.mem_cons.mp member with rfl | later
      · simp
      · have apart : head.1 ≠ entry.1 := by
          intro same
          exact distinct.1 (same ▸ List.mem_map_of_mem later)
        simp [apart, ih distinct.2 later]

theorem get?_of_mem {table : Table α} {entry : String × α} (member : entry ∈ table.entries) :
    table.get? entry.1 = some entry.2 := by
  simp [get?, find_entry table.distinct member]

theorem mem_of_get? {table : Table α} {key : String} {value : α}
    (found : table.get? key = some value) : (key, value) ∈ table.entries := by
  simp only [get?, Option.map_eq_some_iff] at found
  obtain ⟨entry, located, rfl⟩ := found
  have same := List.find?_some located
  rw [beq_iff_eq] at same
  rw [← same]
  exact List.mem_of_find?_eq_some located

theorem get?_eq_none {table : Table α} {key : String} (absent : key ∉ table.keys) :
    table.get? key = none := by
  cases found : table.get? key with
  | none => rfl
  | some value => exact absurd (List.mem_map_of_mem (mem_of_get? found)) absent

theorem get?_insertAll (table : Table α) (pairs : List (String × α)) (name : String)
    (distinct : (pairs.map Prod.fst).Nodup) :
    (table.insertAll pairs).get? name =
      ((pairs.find? fun pair => pair.1 == name).map Prod.snd).or (table.get? name) := by
  induction pairs generalizing table with
  | nil => rfl
  | cons pair rest ih =>
      simp only [List.map_cons, List.nodup_cons] at distinct
      change ((table.insert pair.1 pair.2).insertAll rest).get? name = _
      rw [ih _ distinct.2, get?_insert, List.find?_cons]
      by_cases same : pair.1 = name
      · have absent : rest.find? (fun other => other.1 == name) = none := by
          rw [List.find?_eq_none]
          intro other member written
          rw [beq_iff_eq] at written
          exact distinct.1 (same ▸ written ▸ List.mem_map_of_mem member)
        simp [same, absent]
      · have other : (pair.1 == name) = false := by simpa using same
        simp [other, Ne.symm same]

theorem get?_overlay (table upper : Table α) (name : String) :
    (table.overlay upper).get? name = (upper.get? name).or (table.get? name) :=
  get?_insertAll table upper.entries name upper.distinct

theorem get?_isSome_iff {table : Table α} {key : String} :
    (table.get? key).isSome = true ↔ key ∈ table.keys := by
  constructor
  · intro present
    obtain ⟨value, found⟩ := Option.isSome_iff_exists.mp present
    exact List.mem_map_of_mem (mem_of_get? found)
  · intro member
    obtain ⟨entry, held, rfl⟩ := List.mem_map.mp member
    simp [get?_of_mem held]

/-- Of the pairs with one key, the last one stays. -/
theorem get?_ofList (pairs : List (String × α)) (key : String) :
    (ofList pairs).get? key = (pairs.reverse.find? fun pair => pair.1 == key).map Prod.snd := by
  induction pairs using List.reverseRecOn with
  | nil => rfl
  | append_singleton front pair ih =>
      have last : ofList (front ++ [pair]) = (ofList front).insert pair.1 pair.2 := by
        rw [ofList, insertAll, List.foldl_append]
        rfl
      rw [last, get?_insert, ih, List.reverse_append, List.reverse_singleton,
        List.singleton_append, List.find?_cons]
      by_cases own : key = pair.1
      · simp [own]
      · have other : (pair.1 == key) = false := by simpa using Ne.symm own
        simp [own, other]

theorem mem_keys_ofList_iff {pairs : List (String × α)} {name : String} :
    name ∈ (ofList pairs).keys ↔ name ∈ pairs.map Prod.fst := by
  rw [← get?_isSome_iff, get?_ofList, Option.isSome_map, List.find?_isSome, List.mem_map]
  simp only [List.mem_reverse, beq_iff_eq]

theorem mem_keys_ofList {pairs : List (String × α)} {name : String}
    (written : name ∈ (ofList pairs).keys) : name ∈ pairs.map Prod.fst :=
  mem_keys_ofList_iff.mp written

/-- Every key of a table under a stem begins with the stem. -/
theorem mem_keys_addStem {stem : String} {table : Table α} {name : String}
    (written : name ∈ (table.addStem stem).keys) : ∃ key, name = stem ++ key := by
  obtain ⟨pair, member, rfl⟩ := List.mem_map.mp (mem_keys_ofList written)
  obtain ⟨entry, _, rfl⟩ := List.mem_map.mp member
  exact ⟨entry.1, rfl⟩

theorem get?_mapValues (f : α → β) (table : Table α) (key : String) :
    (table.mapValues f).get? key = (table.get? key).map f := by
  simp [get?, mapValues, List.find?_map, Function.comp_def]

/-- Of pairs that agree on what belongs to a key, that is what the table holds under it. -/
theorem get?_ofList_of_agree {pairs : List (String × α)} {key : String} {value : α}
    (written : ∃ pair ∈ pairs, pair.1 = key)
    (agree : ∀ pair ∈ pairs, pair.1 = key → pair.2 = value) :
    (ofList pairs).get? key = some value := by
  rw [get?_ofList]
  cases found : pairs.reverse.find? fun pair => pair.1 == key with
  | none =>
      obtain ⟨pair, member, own⟩ := written
      have other := List.find?_eq_none.mp found pair (List.mem_reverse.mpr member)
      exact absurd (beq_iff_eq.mpr own) other
  | some pair =>
      have member := List.mem_reverse.mp (List.mem_of_find?_eq_some found)
      have own := List.find?_some found
      rw [beq_iff_eq] at own
      exact congrArg some (agree pair member own)

/-- A table has as many entries as there are different names, if its keys are these. -/
theorem size_eq_dedup {table : Table α} {names : List String}
    (same : ∀ name, name ∈ table.keys ↔ name ∈ names) : table.size = names.dedup.length := by
  have known : table.keys.Perm names.dedup := by
    refine (List.perm_ext_iff_of_nodup table.distinct names.nodup_dedup).mpr fun name => ?_
    rw [List.mem_dedup]
    exact same name
  rw [← known.length_eq, keys, List.length_map, size]

/-- What a table of pairs holds under a key, when the pairs with that key are known. -/
theorem get?_ofList_of_known {pairs : List (String × α)} {key : String} {known : Option α}
    (only : ∀ pair ∈ pairs, pair.1 = key → known = some pair.2)
    (all : ∀ value, known = some value → (key, value) ∈ pairs) :
    (ofList pairs).get? key = known := by
  cases known with
  | some value =>
      refine get?_ofList_of_agree ⟨_, all value rfl, rfl⟩ fun pair member named => ?_
      exact (Option.some.inj (only pair member named)).symm
  | none =>
      refine get?_eq_none fun written => ?_
      obtain ⟨pair, member, named⟩ := List.mem_map.mp (mem_keys_ofList written)
      exact Option.some_ne_none _ (only pair member named).symm

/-- What is written under a stem is found under the stem and its key. -/
theorem get?_addStem (stem : String) (table : Table α) (key : String) :
    (table.addStem stem).get? (stem ++ key) = table.get? key := by
  apply get?_ofList_of_known
  · intro pair member named
    obtain ⟨entry, held, rfl⟩ := List.mem_map.mp member
    have same : entry.1 = key := by simpa [← String.toList_inj] using named
    exact same ▸ get?_of_mem held
  · intro value found
    exact List.mem_map.mpr ⟨_, mem_of_get? found, rfl⟩

theorem get?_select (table : Table α) (wanted : List String) (key : String) :
    (table.select wanted).get? key = if key ∈ wanted then table.get? key else none := by
  apply get?_ofList_of_known
  · intro pair member named
    obtain ⟨name, listed, taken⟩ := List.mem_filterMap.mp member
    obtain ⟨value, found, rfl⟩ := Option.map_eq_some_iff.mp taken
    obtain rfl : name = key := named
    rw [if_pos listed, found]
  · intro value found
    split at found
    · rename_i listed
      exact List.mem_filterMap.mpr ⟨key, listed, by rw [found]; rfl⟩
    · cases found

theorem cut_eq_some_iff {stem text : String} {rest : List Char} :
    stem.toList.isPrefixOf? text.toList = some rest ↔ text = stem ++ String.ofList rest := by
  rw [List.isPrefixOf?_eq_some_iff_append_eq, ← String.toList_inj, String.toList_append,
    String.toList_ofList]
  exact eq_comm

/-- What stood under a stem and a key stands under the key once the stem is cut off. -/
theorem get?_cutStem (stem : String) (table : Table α) (key : String) :
    (table.cutStem stem).get? key = table.get? (stem ++ key) := by
  have entries (pair : String × α) : pair ∈ table.entries.filterMap (fun entry =>
      (stem.toList.isPrefixOf? entry.1.toList).map fun rest => (String.ofList rest, entry.2)) ↔
        (stem ++ pair.1, pair.2) ∈ table.entries := by
    simp only [List.mem_filterMap, Option.map_eq_some_iff, cut_eq_some_iff]
    constructor
    · rintro ⟨⟨name, value⟩, member, rest, rfl, rfl⟩
      exact member
    · intro member
      exact ⟨_, member, pair.1.toList, by simp, by simp⟩
  apply get?_ofList_of_known
  · rintro ⟨name, value⟩ member rfl
    exact get?_of_mem ((entries _).mp member)
  · intro value found
    exact (entries _).mpr (mem_of_get? found)

end FixtureImages.Table
