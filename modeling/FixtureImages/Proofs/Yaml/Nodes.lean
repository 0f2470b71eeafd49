import FixtureImages.Proofs.Yaml.Documents
import FixtureImages.Yaml.Data

/-!
# The nodes of written data

The tokens of written data make the tree of its nodes.
-/

namespace FixtureImages.Yaml

set_option autoImplicit false

mutual

def nodeOf : Plain → Node
  | .null => .scalar .null "null"
  | .bool value => .scalar .truth (if value then "true" else "false")
  | .int value => .scalar .integer (toString value)
  | .real value => .scalar .decimal (realText value)
  | .text value => .scalar .text value
  | .list items => .sequence .sequence (itemNodes items)
  | .map entries => .mapping .mapping (entryNodes entries)

def itemNodes : List Plain → List Node
  | [] => []
  | item :: rest => nodeOf item :: itemNodes rest

def entryNodes : List (String × Plain) → List (Node × Node)
  | [] => []
  | (key, item) :: rest => (.scalar .text key, nodeOf item) :: entryNodes rest

end

namespace Reader

/-! ## One token ahead -/

section

variable {handles : List (String × String)} {anchors : List (String × Node)} {fuel : Nat}
  {block bare : Bool} {rest : List Token} {after : Reader}

theorem node_scalar {text : String} {plain : Bool} {tag : Tag}
    (own : scalarTag none plain text = tag) :
    node (fuel + 1) block bare ⟨.scalar text plain :: rest, handles, anchors⟩ =
      .ok (.scalar tag text, ⟨rest, handles, anchors⟩) := by
  rw [← own]
  rfl

theorem node_empty_sequence : 
    node (fuel + 2) block bare ⟨.flowSequence :: .flowSequenceEnd :: rest, handles, anchors⟩ =
      .ok (.sequence .sequence [], ⟨rest, handles, anchors⟩) := rfl

theorem node_empty_mapping : 
    node (fuel + 2) block bare ⟨.flowMapping :: .flowMappingEnd :: rest, handles, anchors⟩ =
      .ok (.mapping .mapping [], ⟨rest, handles, anchors⟩) := rfl

theorem node_sequence {items : List Node}
    (read : blockItems fuel ⟨rest, handles, anchors⟩ = .ok (items, after)) :
    node (fuel + 1) true bare ⟨.blockSequence :: rest, handles, anchors⟩ =
      .ok (.sequence .sequence items, after) := by
  show (blockItems fuel ⟨rest, handles, anchors⟩ >>= _) = _
  rw [read]
  rfl

theorem node_bare {items : List Node}
    (read : bareItems fuel ⟨.blockEntry :: rest, handles, anchors⟩ = .ok (items, after)) :
    node (fuel + 1) block true ⟨.blockEntry :: rest, handles, anchors⟩ =
      .ok (.sequence .sequence items, after) := by
  show (bareItems fuel ⟨.blockEntry :: rest, handles, anchors⟩ >>= _) = _
  rw [read]
  rfl

theorem node_mapping {entries : List (Node × Node)}
    (read : blockEntries fuel ⟨rest, handles, anchors⟩ = .ok (entries, after)) :
    node (fuel + 1) true bare ⟨.blockMapping :: rest, handles, anchors⟩ =
      .ok (.mapping .mapping entries, after) := by
  show (blockEntries fuel ⟨rest, handles, anchors⟩ >>= _) = _
  rw [read]
  rfl

variable {middle : Reader} {item : Node} {items : List Node}

theorem block_items_round
    (first : nodeBefore fuel [.blockEntry, .blockEnd] true false ⟨rest, handles, anchors⟩ =
      .ok (item, middle))
    (others : blockItems fuel middle = .ok (items, after)) :
    blockItems (fuel + 1) ⟨.blockEntry :: rest, handles, anchors⟩ = .ok (item :: items, after) := by
  show (nodeBefore fuel _ true false ⟨rest, handles, anchors⟩ >>= _) = _
  rw [first]
  show (blockItems fuel middle >>= _) = _
  rw [others]
  rfl

theorem bare_items_round
    (first : nodeBefore fuel [.blockEntry, .key, .value, .blockEnd] true false
      ⟨rest, handles, anchors⟩ = .ok (item, middle))
    (others : bareItems fuel middle = .ok (items, after)) :
    bareItems (fuel + 1) ⟨.blockEntry :: rest, handles, anchors⟩ = .ok (item :: items, after) := by
  show (nodeBefore fuel _ true false ⟨rest, handles, anchors⟩ >>= _) = _
  rw [first]
  show (bareItems fuel middle >>= _) = _
  rw [others]
  rfl

theorem block_entries_round {key : Node} {entries : List (Node × Node)} {tokens : List Token}
    (first : nodeBefore (fuel + 1) [.key, .value, .blockEnd] true true ⟨rest, handles, anchors⟩ =
      .ok (key, ⟨.value :: tokens, handles, anchors⟩))
    (second : nodeBefore fuel [.key, .value, .blockEnd] true true ⟨tokens, handles, anchors⟩ =
      .ok (item, middle))
    (others : blockEntries (fuel + 1) middle = .ok (entries, after)) :
    blockEntries (fuel + 2) ⟨.key :: rest, handles, anchors⟩ =
      .ok ((key, item) :: entries, after) := by
  show (nodeBefore (fuel + 1) _ true true ⟨rest, handles, anchors⟩ >>= _) = _
  rw [first]
  show (nodeBefore fuel _ true true ⟨tokens, handles, anchors⟩ >>= _) = _
  rw [second]
  show (blockEntries (fuel + 1) middle >>= _) = _
  rw [others]
  rfl

theorem bare_items_end (apart : rest.head? ≠ some .blockEntry) :
    bareItems (fuel + 1) ⟨rest, handles, anchors⟩ = .ok ([], ⟨rest, handles, anchors⟩) := by
  have none : rest.headD .streamEnd ≠ .blockEntry := by
    cases rest with
    | nil => exact nofun
    | cons token rest => simpa using apart
  rw [bareItems, peek, if_neg none]

end

/-! ## All tokens -/

/-- The first token of a node is none that ends the place of a node. -/
theorem node_tokens_first (wide bare : Bool) (data : Plain) :
    ∃ first others, nodeTokens wide bare data = first :: others ∧
      first ∉ [Token.key, .value, .blockEnd] ∧ (first = .blockEntry → bare = true) := by
  cases data with
  | list items =>
      cases items with
      | nil => exact ⟨_, _, rfl, by decide, nofun⟩
      | cons item rest =>
          cases bare with
          | true => exact ⟨_, _, rfl, by decide, fun _ => rfl⟩
          | false => exact ⟨_, _, rfl, by decide, nofun⟩
  | map entries =>
      cases entries with
      | nil => exact ⟨_, _, rfl, by decide, nofun⟩
      | cons entry rest => exact ⟨_, _, rfl, by decide, nofun⟩
  | null => exact ⟨_, _, rfl, by simp, nofun⟩
  | bool value => exact ⟨_, _, rfl, by simp, nofun⟩
  | int value => exact ⟨_, _, rfl, by simp, nofun⟩
  | real value => exact ⟨_, _, rfl, by simp, nofun⟩
  | text value => exact ⟨_, _, rfl, by simp [textToken], nofun⟩

theorem text_token_tag (wide key : Bool) (text : String) :
    scalarTag none (decide (styleOf wide key text = .plain)) text = .text := by
  by_cases plain : styleOf wide key text = .plain
  · rw [decide_eq_true plain]
    exact (style_plain plain).1
  · rw [decide_eq_false plain]
    rfl

section

variable {wide bare : Bool} {handles : List (String × String)} {anchors : List (String × Node)}
  {rest : List Token}

/-- A node of written data stands before each token that may end its place. -/
theorem node_before_eq {data : Plain} {ends : List Token}
    (usual : ∀ token ∈ ends, token ∈ [Token.key, .value, .blockEnd] ∨ (token = .blockEntry ∧ bare = false))
    (fuel : Nat) (block admits : Bool) :
    nodeBefore (fuel + 1) ends block admits ⟨nodeTokens wide bare data ++ rest, handles, anchors⟩ =
      node fuel block admits ⟨nodeTokens wide bare data ++ rest, handles, anchors⟩ := by
  obtain ⟨first, others, same, apart, entry⟩ := node_tokens_first wide bare data
  have none : ends.contains first = false := by
    rw [List.contains_eq_mem, decide_eq_false_iff_not]
    intro member
    rcases usual first member with ending | ⟨mark, deep⟩
    · exact apart ending
    · exact Bool.false_ne_true (deep.symm.trans (entry mark))
  rw [nodeBefore, same]
  simp only [peek, List.cons_append, List.headD_cons, none, Bool.false_eq_true, if_false]

theorem key_read (fuel : Nat) (key : Bool) (text : String) :
    nodeBefore (fuel + 2) [.key, .value, .blockEnd] true true
        ⟨textToken wide key text :: rest, handles, anchors⟩ =
      .ok (.scalar .text text, ⟨rest, handles, anchors⟩) :=
  (show _ = node (fuel + 1) true true _ from rfl).trans (node_scalar (text_token_tag wide key text))

end

section

variable (wide : Bool) (handles : List (String × String)) (anchors : List (String × Node))

mutual

theorem node_read : ∀ (data : Plain) {fuel : Nat} {bare admits : Bool} {rest : List Token},
    Sound data → 3 * (nodeTokens wide bare data).length + 2 ≤ fuel → (bare = true → admits = true) →
      (bare = true → rest.head? ≠ some .blockEntry) →
        node fuel true admits ⟨nodeTokens wide bare data ++ rest, handles, anchors⟩ =
          .ok (nodeOf data, ⟨rest, handles, anchors⟩)
  | .null, fuel + 1, _, _, _, _, _, _, _ => node_scalar (by decide)
  | .bool value, fuel + 1, _, _, _, _, _, _, _ => node_scalar (by cases value <;> decide)
  | .int value, fuel + 1, _, _, _, _, _, _, _ => node_scalar (integer_tag value)
  | .real value, fuel + 1, _, _, _, ⟨normal, finite⟩, _, _, _ =>
      node_scalar (real_reads_back normal finite).1
  | .text value, fuel + 1, _, _, _, _, _, _, _ => node_scalar (text_token_tag wide false value)
  | .list [], fuel + 2, _, _, _, _, _, _, _ => node_empty_sequence
  | .list (item :: items), fuel + 1, bare, admits, rest, sound, enough, bears, apart => by
      cases bare with
      | true =>
          rw [bears rfl]
          exact node_bare (bare_items_read (item :: items) sound
            (by simp only [nodeTokens, if_true] at enough; omega) (apart rfl))
      | false =>
          simp only [nodeTokens, Bool.false_eq_true, if_false, List.length_cons, List.length_append,
            List.length_nil] at enough
          have read : blockItems fuel
              ⟨itemTokens wide (item :: items) ++ .blockEnd :: rest, handles, anchors⟩ = _ :=
            block_items_read (item :: items) sound (by omega)
          simpa [nodeTokens, nodeOf] using node_sequence read
  | .map [], fuel + 2, _, _, _, _, _, _, _ => node_empty_mapping
  | .map (entry :: entries), fuel + 1, bare, admits, rest, sound, enough, bears, apart => by
      simp only [nodeTokens, List.length_cons, List.length_append, List.length_nil] at enough
      have read : blockEntries fuel
          ⟨entryTokens wide (entry :: entries) ++ .blockEnd :: rest, handles, anchors⟩ = _ :=
        block_entries_read (entry :: entries) sound.2 (by omega)
      simpa [nodeTokens, nodeOf] using node_mapping read

theorem block_items_read : ∀ (items : List Plain) {fuel : Nat} {rest : List Token},
    SoundItems items → 3 * (itemTokens wide items).length + 1 ≤ fuel →
      blockItems fuel ⟨itemTokens wide items ++ .blockEnd :: rest, handles, anchors⟩ =
        .ok (itemNodes items, ⟨rest, handles, anchors⟩)
  | [], fuel + 1, rest, _, _ => rfl
  | item :: items, fuel + 2, rest, ⟨sound, sounds⟩, enough => by
      simp only [itemTokens, List.cons_append, List.length_cons, List.length_append] at enough
      have first : nodeBefore (fuel + 1) [.blockEntry, .blockEnd] true false
          ⟨nodeTokens wide false item ++ (itemTokens wide items ++ .blockEnd :: rest), handles,
            anchors⟩ = _ :=
        (node_before_eq (by simp) fuel true false).trans
          (node_read item sound (by omega) nofun nofun)
      have others : blockItems (fuel + 1) ⟨itemTokens wide items ++ .blockEnd :: rest, handles,
          anchors⟩ = _ :=
        block_items_read items sounds (by omega)
      simpa [itemTokens, itemNodes] using block_items_round first others

theorem bare_items_read : ∀ (items : List Plain) {fuel : Nat} {rest : List Token},
    SoundItems items → 3 * (itemTokens wide items).length + 1 ≤ fuel →
      rest.head? ≠ some .blockEntry →
        bareItems fuel ⟨itemTokens wide items ++ rest, handles, anchors⟩ =
          .ok (itemNodes items, ⟨rest, handles, anchors⟩)
  | [], fuel + 1, rest, _, _, apart => bare_items_end apart
  | item :: items, fuel + 2, rest, ⟨sound, sounds⟩, enough, apart => by
      simp only [itemTokens, List.cons_append, List.length_cons, List.length_append] at enough
      have first : nodeBefore (fuel + 1) [.blockEntry, .key, .value, .blockEnd] true false
          ⟨nodeTokens wide false item ++ (itemTokens wide items ++ rest), handles, anchors⟩ = _ :=
        (node_before_eq (by simp) fuel true false).trans
          (node_read item sound (by omega) nofun nofun)
      have others : bareItems (fuel + 1) ⟨itemTokens wide items ++ rest, handles, anchors⟩ = _ :=
        bare_items_read items sounds (by omega) apart
      simpa [itemTokens, itemNodes] using bare_items_round first others

theorem block_entries_read : ∀ (entries : List (String × Plain)) {fuel : Nat} {rest : List Token},
    SoundEntries entries → 3 * (entryTokens wide entries).length + 1 ≤ fuel →
      blockEntries fuel ⟨entryTokens wide entries ++ .blockEnd :: rest, handles, anchors⟩ =
        .ok (entryNodes entries, ⟨rest, handles, anchors⟩)
  | [], fuel + 1, rest, _, _ => rfl
  | (key, item) :: entries, fuel + 3, rest, ⟨sound, sounds⟩, enough => by
      simp only [entryTokens, List.cons_append, List.length_cons, List.length_append] at enough
      have second : nodeBefore (fuel + 1) [.key, .value, .blockEnd] true true
          ⟨nodeTokens wide (isShortKey key) item ++ (entryTokens wide entries ++ .blockEnd :: rest),
            handles, anchors⟩ = _ :=
        (node_before_eq (by simp) fuel true true).trans
          (node_read item sound (by omega) (fun _ => rfl) (by cases entries <;> simp [entryTokens]))
      have others : blockEntries (fuel + 2) ⟨entryTokens wide entries ++ .blockEnd :: rest, handles,
          anchors⟩ = _ :=
        block_entries_read entries sounds (by omega)
      simpa [entryTokens, entryNodes] using block_entries_round (key_read fuel _ key) second others

end

end

end Reader

/-- The tree of a written mapping. -/
theorem of_text_node {wide : Bool} {entries : List (String × Plain)} (filled : entries ≠ [])
    (sound : SoundEntries entries) (legible : LegibleEntries wide 0 entries) :
    Node.ofText (write wide entries) = .ok (some (.mapping .mapping (entryNodes entries))) := by
  have read : Reader.blockEntries
      (3 * (.blockMapping :: (entryTokens wide entries ++ [Token.blockEnd, .streamEnd])).length + 9)
      ⟨entryTokens wide entries ++ .blockEnd :: [.streamEnd], Reader.usualHandles, []⟩ = _ :=
    Reader.block_entries_read wide Reader.usualHandles [] entries sound (by simp; omega)
  rw [Node.ofText, of_text_write filled sound legible]
  show (Reader.node _ true false ⟨_, Reader.usualHandles, []⟩ >>= _) = _
  rw [Reader.node_mapping read]
  rfl

/-! ## Values -/

namespace Outcome

variable {α β : Type}

@[simp] theorem below_ok (value : α) : below (.ok value) = .ok value := rfl

@[simp] theorem both_ok (first : α) (second : β) : both (.ok first) (.ok second) = .ok (first, second) :=
  rfl

theorem all_ok (values : List α) : all (values.map .ok) = .ok values := by
  induction values with
  | nil => rfl
  | cons value rest ih => rw [List.map_cons, all, ih]; rfl

end Outcome

theorem same_text_key (first second : String) :
    Value.sameKey (.text first) (.text second) = decide (first = second) := by
  simp [Value.sameKey, Value.asInt?]

theorem put_entry_new {key : String} {value : Value} {entries : List (String × Plain)}
    (new : key ∉ entries.map Prod.fst) :
    Value.putEntry (.text key) value (Plain.entryValues entries) =
      Plain.entryValues entries ++ [(.text key, value)] := by
  induction entries with
  | nil => rfl
  | cons entry rest ih =>
      obtain ⟨other, item⟩ := entry
      simp only [List.map_cons, List.mem_cons, not_or] at new
      have apart : Value.sameKey (.text other) (.text key) = false := by
        rw [same_text_key, decide_eq_false (Ne.symm new.1)]
      simp only [Plain.entryValues, Value.putEntry, apart, Bool.false_eq_true, if_false, ih new.2,
        List.cons_append]

theorem entry_values_append (first second : List (String × Plain)) :
    Plain.entryValues (first ++ second) = Plain.entryValues first ++ Plain.entryValues second := by
  induction first with
  | nil => rfl
  | cons entry rest ih => simp [Plain.entryValues, ih]

/-- Entries with distinct keys are kept as they are. -/
theorem of_pairs_entry_values {entries : List (String × Plain)}
    (distinct : (entries.map Prod.fst).Nodup) :
    Value.ofPairs (Plain.entryValues entries) = .map (Plain.entryValues entries) := by
  have puts (done : List (String × Plain)) : ∀ rest : List (String × Plain),
      ((done ++ rest).map Prod.fst).Nodup →
        (Plain.entryValues rest).foldl (fun entries pair => Value.putEntry pair.1 pair.2 entries)
          (Plain.entryValues done) = Plain.entryValues (done ++ rest) := by
    intro rest
    induction rest generalizing done with
    | nil => simp [Plain.entryValues]
    | cons entry rest ih =>
        obtain ⟨key, item⟩ := entry
        intro nodup
        have new : key ∉ done.map Prod.fst := by
          simp only [List.map_append, List.nodup_append] at nodup
          intro member
          exact nodup.2.2 key member key (by simp) rfl
        have next := ih (done ++ [(key, item)]) (by simpa using nodup)
        rw [entry_values_append] at next
        rw [Plain.entryValues, List.foldl_cons, put_entry_new new]
        simpa [Plain.entryValues] using next
  exact congrArg Value.map (puts [] entries distinct)

/-- Written mappings have no merge marks. -/
theorem merged_entries_none (entries : List (String × Plain)) :
    mergedEntries (entryNodes entries) = some [] := by
  induction entries with
  | nil => rfl
  | cons entry rest ih =>
      have text : (Node.scalar .text entry.1).isMerge = false := rfl
      simp [entryNodes, mergedEntries, text, ih]

theorem entries_value_ok (entries : List (String × Plain)) :
    entriesValue ((Plain.entryValues entries).map fun entry => (.ok entry.1, .ok entry.2)) =
      .ok (Plain.entryValues entries) := by
  rw [← Outcome.all_ok, entriesValue, List.map_map]
  congr 1
  induction entries with
  | nil => rfl
  | cons entry rest ih => exact congrArg (List.cons _) ih

theorem mapping_value {entries : List (String × Plain)} (distinct : (entries.map Prod.fst).Nodup)
    (own : ownEntries (entryNodes entries) =
      (Plain.entryValues entries).map fun entry => (.ok entry.1, .ok entry.2)) :
    (nodeOf (.map entries)).value = .ok (Plain.map entries).value := by
  rw [nodeOf, Node.value, merged_entries_none, own]
  simp only [List.nil_append, entries_value_ok]
  show Except.ok (Value.ofPairs _) = _
  rw [of_pairs_entry_values distinct]
  rfl

section

variable (wide : Bool)

mutual

/-- The node of legible data stands for this data. -/
theorem node_value : ∀ (data : Plain) {indent : Nat} {bare : Bool}, Sound data →
    Legible wide indent bare data → (nodeOf data).value = .ok data.value
  | .null, _, _, _, _ => rfl
  | .bool value, _, _, _, _ => by cases value <;> decide
  | .int value, _, _, _, legible => integer_reads_back legible
  | .real value, _, _, ⟨normal, finite⟩, _ => (real_reads_back normal finite).2
  | .text value, _, _, _, _ => rfl
  | .list items, _, _, sound, legible => by
      rw [nodeOf, Node.value, item_values items sound legible, Outcome.all_ok]
      rfl
  | .map entries, _, _, ⟨distinct, sounds⟩, legible =>
      mapping_value distinct (own_entries entries sounds legible)

theorem item_values : ∀ (items : List Plain) {indent : Nat}, SoundItems items →
    LegibleItems wide indent items →
      itemValues (itemNodes items) = (Plain.itemValues items).map .ok
  | [], _, _, _ => rfl
  | item :: rest, _, ⟨sound, sounds⟩, ⟨legible, legibles⟩ => by
      rw [itemNodes, itemValues, node_value item sound legible, item_values rest sounds legibles]
      rfl

theorem own_entries : ∀ (entries : List (String × Plain)) {indent : Nat}, SoundEntries entries →
    LegibleEntries wide indent entries →
      ownEntries (entryNodes entries) =
        (Plain.entryValues entries).map fun entry => (.ok entry.1, .ok entry.2)
  | [], _, _, _ => rfl
  | (key, item) :: rest, _, ⟨sound, sounds⟩, ⟨_, legible, legibles⟩ => by
      rw [Plain.entryValues, List.map_cons, ← own_entries rest sounds legibles,
        ← node_value item sound legible]
      rfl

end

end

/-- Sound and legible data that is written is read back as it was. -/
theorem read_write {wide : Bool} {entries : List (String × Plain)} (filled : entries ≠ [])
    (sound : Sound (.map entries)) (legible : LegibleEntries wide 0 entries) :
    read (write wide entries) = .ok (.map (Plain.entryValues entries)) := by
  have value := mapping_value sound.1 (own_entries wide entries sound.2 legible)
  rw [read, of_text_node filled sound.2 legible]
  show ((nodeOf (.map entries)).value).mapError Flaw.fault = _
  rw [value]
  rfl

end FixtureImages.Yaml
