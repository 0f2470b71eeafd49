/-!
# Ordered tables

A table maps texts to values and remembers the order in which its keys first arrived. Writing to a
key that is present replaces its value in place; a new key goes to the end. The keys are pairwise
distinct by construction. Main statements: how `insert` changes `get?` and `keys`.
-/

namespace FixtureImages

set_option autoImplicit false

/-- Write a value under a key: in place when the key is present, at the end otherwise. -/
def insertEntry {α : Type} (key : String) (value : α) : List (String × α) → List (String × α)
  | [] => [(key, value)]
  | (other, old) :: rest =>
      if other = key then (other, value) :: rest
      else (other, old) :: insertEntry key value rest

theorem mem_keys_insertEntry {α : Type} (key name : String) (value : α)
    (entries : List (String × α)) :
    name ∈ (insertEntry key value entries).map Prod.fst ↔
      name = key ∨ name ∈ entries.map Prod.fst := by
  induction entries with
  | nil => simp [insertEntry]
  | cons entry rest induction =>
      obtain ⟨other, old⟩ := entry
      by_cases same : other = key
      · subst same
        simp [insertEntry]
      · simp only [insertEntry, if_neg same, List.map_cons, List.mem_cons, induction]
        grind

theorem nodup_keys_insertEntry {α : Type} (key : String) (value : α)
    (entries : List (String × α)) (distinct : (entries.map Prod.fst).Nodup) :
    ((insertEntry key value entries).map Prod.fst).Nodup := by
  induction entries with
  | nil => simp [insertEntry]
  | cons entry rest induction =>
      obtain ⟨other, old⟩ := entry
      simp only [List.map_cons, List.nodup_cons] at distinct
      by_cases same : other = key
      · simp only [insertEntry, if_pos same, List.map_cons, List.nodup_cons]
        exact distinct
      · simp only [insertEntry, if_neg same, List.map_cons, List.nodup_cons]
        refine ⟨?_, induction distinct.2⟩
        rw [mem_keys_insertEntry]
        exact fun either => either.elim same distinct.1

/-- A finite map from texts, in order of first insertion. -/
structure Table (α : Type) where
  entries : List (String × α)
  distinct : (entries.map Prod.fst).Nodup
deriving DecidableEq

/-- Named texts: labels of a resource, environment variables, captured secrets. -/
abbrev Labels := Table String

namespace Table

variable {α β : Type}

def empty : Table α := ⟨[], by simp⟩

instance : EmptyCollection (Table α) := ⟨empty⟩

instance : Inhabited (Table α) := ⟨empty⟩

def insert (table : Table α) (key : String) (value : α) : Table α :=
  ⟨insertEntry key value table.entries, nodup_keys_insertEntry key value _ table.distinct⟩

/-- Write all pairs in turn, so that of two pairs with one key the later value stays, at the place
of the earlier. -/
def insertAll (table : Table α) (pairs : List (String × α)) : Table α :=
  pairs.foldl (fun current pair => current.insert pair.1 pair.2) table

def ofList (pairs : List (String × α)) : Table α := empty.insertAll pairs

/-- The second table written over the first. -/
def overlay (table upper : Table α) : Table α := table.insertAll upper.entries

def get? (table : Table α) (key : String) : Option α :=
  (table.entries.find? (fun entry => entry.1 == key)).map Prod.snd

def getD (table : Table α) (key : String) (fallback : α) : α := (table.get? key).getD fallback

def contains (table : Table α) (key : String) : Bool := (table.get? key).isSome

def keys (table : Table α) : List String := table.entries.map Prod.fst

def values (table : Table α) : List α := table.entries.map Prod.snd

def size (table : Table α) : Nat := table.entries.length

def isEmpty (table : Table α) : Bool := table.entries.isEmpty

def mapValues (f : α → β) (table : Table α) : Table β :=
  ⟨table.entries.map (fun entry => (entry.1, f entry.2)), by
    simpa [List.map_map, Function.comp_def] using table.distinct⟩

/-- Put one text in front of every key. -/
def addStem (stem : String) (table : Table α) : Table α :=
  ofList (table.entries.map fun entry => (stem ++ entry.1, entry.2))

/-- The entries whose key begins with `stem`, with it cut off. -/
def cutStem (stem : String) (table : Table α) : Table α :=
  ofList (table.entries.filterMap fun entry =>
    (stem.toList.isPrefixOf? entry.1.toList).map fun rest => (String.ofList rest, entry.2))

/-- The entries whose key is listed, in the order of the list. -/
def select (table : Table α) (wanted : List String) : Table α :=
  ofList (wanted.filterMap fun key => (table.get? key).map fun value => (key, value))

@[simp] theorem get?_empty (key : String) : (empty : Table α).get? key = none := rfl

theorem find?_insertEntry (key name : String) (value : α) (entries : List (String × α)) :
    (insertEntry key value entries).find? (fun entry => entry.1 == name) =
      if name = key then some (key, value)
      else entries.find? (fun entry => entry.1 == name) := by
  induction entries with
  | nil => grind [insertEntry]
  | cons entry rest induction =>
      obtain ⟨other, old⟩ := entry
      by_cases same : other = key <;> grind [insertEntry]

theorem get?_insert (table : Table α) (key name : String) (value : α) :
    (table.insert key value).get? name = if name = key then some value else table.get? name := by
  simp only [get?, insert, find?_insertEntry]
  split <;> simp

theorem mem_keys_insert (table : Table α) (key name : String) (value : α) :
    name ∈ (table.insert key value).keys ↔ name = key ∨ name ∈ table.keys :=
  mem_keys_insertEntry key name value table.entries

end Table

end FixtureImages
