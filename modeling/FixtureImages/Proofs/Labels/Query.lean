import FixtureImages.Query
import FixtureImages.Proofs.Labels.Table

/-!
# Queries and their filters

A filter is cut at its first equality sign, and no label that a query asks for has one in its name.
So the filters of a query find exactly what the query accepts, whatever the asked values are, and
that is what carries every part the query gives.
-/

namespace FixtureImages

set_option autoImplicit false

theorem cut_filter_of_plain_key {key : String} (value : String) (plain : '=' ∉ key.toList) :
    cutFilter (key ++ "=" ++ value) = (key, value) := by
  have chars : (key ++ "=" ++ value).toList = key.toList ++ '=' :: value.toList := by simp
  have stops : ∀ c ∈ key.toList, (c != '=') = true := by
    intro c member
    simp only [bne_iff_ne, ne_eq]
    rintro rfl
    exact plain member
  have front : (key ++ "=" ++ value).toList.takeWhile (· != '=') = key.toList := by
    rw [chars, List.takeWhile_append_of_pos stops]
    simp
  simp only [cutFilter, front]
  simp [chars]

/-- A filter is a label and a value, with the first equality sign between them. -/
structure CutsInto (filter key value : String) : Prop where
  whole : filter = key ++ "=" ++ value
  first : '=' ∉ key.toList

theorem CutsInto.cut_filter {filter key value : String} (cuts : CutsInto filter key value) :
    cutFilter filter = (key, value) := by
  rw [cuts.whole]
  exact cut_filter_of_plain_key value cuts.first

/-- A daemon finds what has, for each filter, the label before its first equality sign with exactly
the value behind it. -/
def DaemonFinds (filters : List String) (labels : Option Labels) : Prop :=
  ∀ filter ∈ filters, ∃ key value,
    CutsInto filter key value ∧ (labels.getD ∅).get? key = some value

/-- Where each filter has an equality sign, meeting the filters is being found by them. -/
theorem meets_filters_iff {filters : List String} (labels : Option Labels)
    (cuts : ∀ filter ∈ filters, ∃ key value, CutsInto filter key value) :
    meetsFilters filters labels = true ↔ DaemonFinds filters labels := by
  simp only [meetsFilters, List.all_eq_true, beq_iff_eq]
  constructor <;> intro holds filter member
  · obtain ⟨key, value, cut⟩ := cuts filter member
    have held := holds filter member
    rw [cut.cut_filter] at held
    exact ⟨key, value, cut, held⟩
  · obtain ⟨key, value, cut, held⟩ := holds filter member
    rw [cut.cut_filter]
    exact held

namespace Query

/-- The names of the labels that a query may ask for. -/
def askedKeys : List String := [managedLabel, namespaceLabel, blueprintLabel, instanceLabel]

private theorem keys_write_some (key name : String) (value : Option String) (labels : Labels)
    (written : name ∈ (writeSome key value labels).keys) : name = key ∨ name ∈ labels.keys := by
  cases value with
  | none => exact .inr written
  | some value => exact (Table.mem_keys_insert labels key name value).mp written

theorem labels_keys (query : Query) : ∀ name ∈ query.labels.keys, name ∈ askedKeys := by
  intro name member
  simp only [labels] at member
  rcases keys_write_some _ _ _ _ member with rfl | member
  · simp [askedKeys]
  rcases keys_write_some _ _ _ _ member with rfl | member
  · simp [askedKeys]
  rcases keys_write_some _ _ _ _ member with rfl | member
  · simp [askedKeys]
  split at member
  · rcases (Table.mem_keys_insert _ _ _ _).mp member with rfl | member
    · simp [askedKeys]
    · exact absurd member List.not_mem_nil
  · exact absurd member List.not_mem_nil

private theorem asked_keys_plain : ∀ name ∈ askedKeys, '=' ∉ name.toList := by decide

private theorem entry_cuts {query : Query} {entry : String × String}
    (member : entry ∈ query.labels.entries) :
    CutsInto (entry.1 ++ "=" ++ entry.2) entry.1 entry.2 where
  whole := rfl
  first := asked_keys_plain _ (query.labels_keys entry.1 (List.mem_map_of_mem member))

theorem filters_cut (query : Query) :
    ∀ filter ∈ query.filters, ∃ key value, CutsInto filter key value := by
  intro filter member
  obtain ⟨entry, held, rfl⟩ := List.mem_map.mp member
  exact ⟨_, _, entry_cuts held⟩

/-- A daemon finds by the filters of a query what the query accepts. -/
theorem meets_filters_eq_accepts (query : Query) (labels : Option Labels) :
    meetsFilters query.filters labels = query.accepts labels := by
  rw [Bool.eq_iff_iff]
  simp only [meetsFilters, accepts, filters, List.all_map, List.all_eq_true, Function.comp_apply]
  constructor <;> intro holds entry member
  · have held := holds entry member
    rwa [(entry_cuts member).cut_filter] at held
  · rw [(entry_cuts member).cut_filter]
    exact holds entry member

theorem accepts_iff {query : Query} {labels : Option Labels} :
    query.accepts labels = true ↔
      ∀ key value, query.labels.get? key = some value →
        (labels.getD ∅).get? key = some value := by
  simp only [accepts, List.all_eq_true, beq_iff_eq]
  constructor
  · intro holds key value asked
    exact holds (key, value) (Table.mem_of_get? asked)
  · intro holds entry member
    exact holds entry.1 entry.2 (Table.get?_of_mem member)

private theorem get_write_some (key : String) (value : Option String) (labels : Labels)
    (name : String) : (writeSome key value labels).get? name =
      if name = key then value.or (labels.get? key) else labels.get? name := by
  cases value with
  | none =>
      by_cases same : name = key <;> simp [writeSome, same]
  | some value => simp [writeSome, Table.get?_insert]

/-- What a query asks of each label. -/
theorem labels_get? (query : Query) :
    query.labels.get? managedLabel = (if query.managed then some managedMark else none) ∧
    query.labels.get? namespaceLabel = query.scope ∧
    query.labels.get? blueprintLabel = query.blueprint ∧
    query.labels.get? instanceLabel = query.server := by
  have start (name : String) : Table.get?
      (if query.managed then (∅ : Labels).insert managedLabel managedMark else ∅) name =
        if query.managed = true ∧ name = managedLabel then some managedMark else none := by
    have bare : (∅ : Labels).get? name = none := rfl
    split <;> simp [Table.get?_insert, *]
  -- The four names are closed texts, which `decide` tells apart.
  simp +decide [labels, get_write_some, start]

/-- The labels have every part that the query gives, with exactly its value. An empty value is
given too: the label has to be there, and empty. -/
structure Satisfied (query : Query) (labels : Labels) : Prop where
  managed : query.managed = true → labels.get? managedLabel = some managedMark
  scope : ∀ scope, query.scope = some scope → labels.get? namespaceLabel = some scope
  blueprint : ∀ blueprint, query.blueprint = some blueprint →
    labels.get? blueprintLabel = some blueprint
  server : ∀ server, query.server = some server → labels.get? instanceLabel = some server

theorem accepts_iff_satisfied (query : Query) (labels : Option Labels) :
    query.accepts labels = true ↔ query.Satisfied (labels.getD ∅) := by
  obtain ⟨managed, scope, blueprint, server⟩ := query.labels_get?
  rw [accepts_iff]
  constructor
  · intro holds
    exact {
      managed := fun marked => holds managedLabel managedMark (by rw [managed, if_pos marked])
      scope := fun value given => holds namespaceLabel value (scope.trans given)
      blueprint := fun value given => holds blueprintLabel value (blueprint.trans given)
      server := fun value given => holds instanceLabel value (server.trans given) }
  · intro satisfied name value asked
    have known := query.labels_keys name (List.mem_map_of_mem (Table.mem_of_get? asked))
    simp only [askedKeys, List.mem_cons, List.not_mem_nil, or_false] at known
    rcases known with rfl | rfl | rfl | rfl
    · rw [managed] at asked
      split at asked
      · rename_i marked
        exact asked ▸ satisfied.managed marked
      · cases asked
    · exact satisfied.scope value (scope.symm.trans asked)
    · exact satisfied.blueprint value (blueprint.symm.trans asked)
    · exact satisfied.server value (server.symm.trans asked)

/-- Labels are accepted in memory exactly when a daemon finds them by the filters of the query, and
the daemon's own check of the filters agrees. Whichever is asked, that is when the labels have all
that the query gives. -/
theorem accepts_iff_daemon_finds (query : Query) (labels : Option Labels) :
    (query.accepts labels = true ↔ DaemonFinds query.filters labels) ∧
    (meetsFilters query.filters labels = true ↔ DaemonFinds query.filters labels) ∧
    (query.accepts labels = true ↔ query.Satisfied (labels.getD ∅)) := by
  have found := meets_filters_iff labels query.filters_cut
  refine ⟨?_, found, query.accepts_iff_satisfied labels⟩
  rw [← query.meets_filters_eq_accepts labels]
  exact found

end Query

end FixtureImages
