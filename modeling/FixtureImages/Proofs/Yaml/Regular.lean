import FixtureImages.Proofs.Decimal.Rounding
import FixtureImages.Yaml.Data

/-!
# Regular values

What is read from a document is regular: its numbers are in normal form, and no mapping in it has one
key twice.
-/

namespace FixtureImages

set_option autoImplicit false

namespace Value

/-- Keys of which no two are the same in a mapping. -/
def DistinctKeys (keys : List Value) : Prop :=
  keys.Pairwise fun first second => sameKey first second = false

mutual

def Regular : Value → Prop
  | .real number => number.Normal
  | .list items | .tuple items | .set items => RegularItems items
  | .map entries => DistinctKeys (entries.map Prod.fst) ∧ RegularEntries entries
  | .null | .bool _ | .int _ | .text _ | .bytes _ | .date _ | .moment _ => True

def RegularItems : List Value → Prop
  | [] => True
  | item :: rest => item.Regular ∧ RegularItems rest

def RegularEntries : List (Value × Value) → Prop
  | [] => True
  | (key, item) :: rest => (key.Regular ∧ item.Regular) ∧ RegularEntries rest

end

theorem regular_items_iff (items : List Value) : RegularItems items ↔ ∀ item ∈ items, item.Regular := by
  induction items with
  | nil => simp [RegularItems]
  | cons item rest ih => simp [RegularItems, ih]

theorem regular_entries_iff (entries : List (Value × Value)) :
    RegularEntries entries ↔ ∀ entry ∈ entries, entry.1.Regular ∧ entry.2.Regular := by
  induction entries with
  | nil => simp [RegularEntries]
  | cons entry rest ih => simp [RegularEntries, ih]

/-! ## Mappings and sets of pairs -/

/-- An entry is written under a key that is there already, or under a new key behind the others. -/
theorem put_entry_keys (key value : Value) (entries : List (Value × Value)) :
    (putEntry key value entries).map Prod.fst = entries.map Prod.fst ∨
      ((∀ other ∈ entries.map Prod.fst, sameKey other key = false) ∧
        (putEntry key value entries).map Prod.fst = entries.map Prod.fst ++ [key]) := by
  induction entries with
  | nil => exact .inr ⟨by simp, rfl⟩
  | cons first rest ih =>
      cases same : sameKey first.1 key with
      | true => exact .inl (by simp [putEntry, same])
      | false =>
          simp only [putEntry, same, Bool.false_eq_true, if_false, List.map_cons]
          rcases ih with old | ⟨apart, new⟩
          · exact .inl (by rw [old])
          · exact .inr ⟨List.forall_mem_cons.mpr ⟨same, apart⟩, by rw [new]; rfl⟩

theorem put_entry_distinct {key value : Value} {entries : List (Value × Value)}
    (distinct : DistinctKeys (entries.map Prod.fst)) :
    DistinctKeys ((putEntry key value entries).map Prod.fst) := by
  rcases put_entry_keys key value entries with old | ⟨apart, new⟩
  · rwa [old]
  · rw [new]
    refine List.pairwise_append.mpr ⟨distinct, List.pairwise_singleton _ _, ?_⟩
    intro other member last own
    rw [List.mem_singleton.mp own]
    exact apart other member

theorem put_entry_regular {key value : Value} (keyRegular : key.Regular) (regular : value.Regular)
    {entries : List (Value × Value)} (entriesRegular : RegularEntries entries) :
    RegularEntries (putEntry key value entries) := by
  induction entries with
  | nil => exact ⟨⟨keyRegular, regular⟩, trivial⟩
  | cons first rest ih =>
      obtain ⟨own, others⟩ := entriesRegular
      rw [putEntry]
      split
      · exact ⟨⟨own.1, regular⟩, others⟩
      · exact ⟨own, ih others⟩

theorem of_pairs_regular {pairs : List (Value × Value)} (regular : RegularEntries pairs) :
    (ofPairs pairs).Regular := by
  have puts (done : List (Value × Value)) (kept : (Value.map done).Regular) :
      (Value.map (pairs.foldl (fun entries pair => putEntry pair.1 pair.2 entries) done)).Regular := by
    induction pairs generalizing done with
    | nil => exact kept
    | cons pair rest ih =>
        exact ih regular.2 _
          ⟨put_entry_distinct kept.1, put_entry_regular regular.1.1 regular.1.2 kept.2⟩
  exact puts [] ⟨List.Pairwise.nil, trivial⟩

theorem of_members_regular {members : List Value} (regular : RegularItems members) :
    (ofMembers members).Regular := by
  have puts (done : List (Value × Value)) (kept : RegularEntries done) :
      RegularEntries (members.foldl (fun entries key => putEntry key .null entries) done) := by
    induction members generalizing done with
    | nil => exact kept
    | cons member rest ih =>
        exact ih regular.2 _ (put_entry_regular regular.1 (show Regular .null from trivial) kept)
  have kept := (regular_entries_iff _).mp (puts [] trivial)
  refine (regular_items_iff _).mpr fun item member => ?_
  obtain ⟨entry, own, rfl⟩ := List.mem_map.mp member
  exact (kept entry own).1

end Value

/-! ## Results that are there -/

section

variable {ε ε' α β : Type}

theorem bind_ok_iff {first : Except ε α} {next : α → Except ε β} {result : β} :
    first >>= next = .ok result ↔ ∃ value, first = .ok value ∧ next value = .ok result := by
  cases first with
  | error fault => exact ⟨nofun, nofun⟩
  | ok value => exact ⟨fun read => ⟨value, rfl, read⟩, fun ⟨_, same, read⟩ => by cases same; exact read⟩

theorem map_ok_iff {first : Except ε α} {f : α → β} {result : β} :
    first.map f = .ok result ↔ ∃ value, first = .ok value ∧ f value = result := by
  cases first <;> simp [Except.map]

theorem map_error_ok_iff {first : Except ε α} {f : ε → ε'} {result : α} :
    first.mapError f = .ok result ↔ first = .ok result := by
  cases first <;> simp [Except.mapError]

end

/-! ## Numbers -/

theorem read_named_normal {negative : Bool} {text : List Char} {number : Binary64}
    (read : readNamedNumber negative text = some number) : number.Normal := by
  simp only [readNamedNumber] at read
  split_ifs at read <;> cases read <;> trivial

theorem read_unsigned_normal {negative : Bool} {text : List Char} {number : Binary64}
    (read : readUnsignedDecimal negative text = some number) : number.Normal := by
  unfold readUnsignedDecimal at read
  dsimp only at read
  split_ifs at read
  · exact read_named_normal read
  · obtain ⟨exponent, -, rfl⟩ := Option.map_eq_some_iff.mp read
    exact Binary64.of_decimal_normal _ _ _

theorem read_decimal_normal {text : String} {number : Binary64} (read : readDecimal text = some number) :
    number.Normal := by
  obtain ⟨plain, -, read⟩ := Option.bind_eq_some_iff.mp read
  exact read_unsigned_normal read

namespace Yaml

theorem read_real_normal {digits : List Char} {number : Binary64}
    (read : readReal digits = .ok number) : number.Normal := by
  unfold readReal at read
  dsimp only at read
  split at read <;> cases read
  exact read_decimal_normal ‹_›

theorem sum_groups_normal {weight : Nat} {groups : List Binary64} {total sum : Binary64}
    (normal : total.Normal) (sums : sumGroups total weight groups = .ok sum) : sum.Normal := by
  induction groups generalizing total weight with
  | nil =>
      cases sums
      exact normal
  | cons group rest ih =>
      unfold sumGroups at sums
      split at sums
      · cases sums
      · exact ih (Binary64.add_normal _ _) sums

theorem signed_regular {negative : Bool} {number : Binary64} (normal : number.Normal) :
    (Value.real (if negative then number.negate else number)).Regular := by
  cases negative with
  | false => exact normal
  | true => exact Binary64.negate_normal normal

theorem decimal_regular {text : String} {value : Value} (read : decimal text = .ok value) :
    value.Regular := by
  obtain ⟨⟨negative, digits⟩, -, read⟩ := bind_ok_iff.mp read
  dsimp only at read
  split at read
  · cases read
    exact signed_regular (show (Binary64.infinite false).Normal from trivial)
  split at read
  · cases read
    exact signed_regular (show Binary64.nan.Normal from trivial)
  split at read
  · obtain ⟨groups, -, read⟩ := bind_ok_iff.mp read
    obtain ⟨number, sums, same⟩ := bind_ok_iff.mp read
    cases same
    exact signed_regular (sum_groups_normal (Binary64.zero_normal false) sums)
  · obtain ⟨number, own, same⟩ := bind_ok_iff.mp read
    cases same
    exact signed_regular (read_real_normal own)

theorem integer_regular {text : String} {value : Value} (read : integer text = .ok value) :
    value.Regular := by
  obtain ⟨signed, -, read⟩ := bind_ok_iff.mp read
  obtain ⟨number, -, same⟩ := bind_ok_iff.mp read
  cases same
  trivial

theorem truth_regular {text : String} {value : Value} (read : truth text = .ok value) :
    value.Regular := by
  simp only [truth] at read
  split_ifs at read <;> cases read <;> trivial

theorem binary_regular {text : String} {value : Value} (read : binary text = .ok value) :
    value.Regular := by
  unfold binary at read
  split at read
  · split at read <;> cases read
    trivial
  · cases read

theorem timestamp_regular {text : String} {value : Value} (read : timestamp text = .ok value) :
    value.Regular := by
  unfold timestamp at read
  split at read
  · cases read
  · rw [map_error_ok_iff] at read
    split at read
    · obtain ⟨date, -, rfl⟩ := map_ok_iff.mp read
      trivial
    · split at read
      · obtain ⟨date, -, read⟩ := bind_ok_iff.mp read
        obtain ⟨moment, -, same⟩ := bind_ok_iff.mp read
        cases same
        trivial
      · cases read

/-! ## Nodes -/

/-- An outcome whose value, if there is one, is regular. -/
def GivesRegular (outcome : Outcome Value) : Prop := ∀ value, outcome = .ok value → value.Regular

theorem gives_of_except {first : Except Fault Value} (regular : ∀ value, first = .ok value → value.Regular) :
    GivesRegular (.ofExcept first) := by
  intro value same
  cases first with
  | ok other => cases same; exact regular _ rfl
  | error fault => cases same

theorem scalar_gives_regular (tag : Tag) (text : String) : GivesRegular (scalarValue tag text) := by
  unfold scalarValue
  split
  · rintro value ⟨⟩
    trivial
  · exact gives_of_except fun _ => truth_regular
  · exact gives_of_except fun _ => integer_regular
  · exact gives_of_except fun _ => decimal_regular
  · exact gives_of_except fun _ => binary_regular
  · exact gives_of_except fun _ => timestamp_regular
  · rintro value ⟨⟩
    trivial
  all_goals exact nofun

theorem below_gives_regular {outcome : Outcome Value} (regular : GivesRegular outcome) :
    GivesRegular outcome.below := by
  intro value same
  cases outcome with
  | ok other => exact regular value same
  | error flaw => cases same

theorem both_ok_iff {α β : Type} {first : Outcome α} {second : Outcome β} {pair : α × β} :
    Outcome.both first second = .ok pair ↔ first = .ok pair.1 ∧ second = .ok pair.2 := by
  obtain ⟨one, other⟩ := pair
  cases first <;> cases second <;> simp [Outcome.both]

theorem all_ok_iff {α : Type} {outcomes : List (Outcome α)} {values : List α} :
    Outcome.all outcomes = .ok values ↔ outcomes = values.map .ok := by
  induction outcomes generalizing values with
  | nil => cases values <;> simp [Outcome.all]
  | cons outcome rest ih =>
      rw [Outcome.all, map_ok_iff]
      constructor
      · rintro ⟨⟨value, others⟩, given, rfl⟩
        obtain ⟨rfl, same⟩ := both_ok_iff.mp given
        rw [ih.mp same, List.map_cons]
      · intro same
        cases values with
        | nil => cases same
        | cons value others =>
            obtain ⟨own, same⟩ := List.cons.inj same
            exact ⟨(value, others), both_ok_iff.mpr ⟨own, ih.mpr same⟩, rfl⟩

theorem all_regular {outcomes : List (Outcome Value)}
    (regular : ∀ outcome ∈ outcomes, GivesRegular outcome) {items : List Value}
    (given : Outcome.all outcomes = .ok items) : Value.RegularItems items := by
  rw [all_ok_iff] at given
  refine (Value.regular_items_iff items).mpr fun item member => ?_
  exact regular (.ok item) (given ▸ List.mem_map_of_mem member) item rfl

/-- Entries whose keys and values, where there are any, are regular. -/
def GiveRegular (entries : List (Outcome Value × Outcome Value)) : Prop :=
  ∀ entry ∈ entries, GivesRegular entry.1 ∧ GivesRegular entry.2

theorem GiveRegular.nil : GiveRegular [] := fun _ member => absurd member List.not_mem_nil

theorem GiveRegular.append {first second : List (Outcome Value × Outcome Value)}
    (one : GiveRegular first) (other : GiveRegular second) : GiveRegular (first ++ second) :=
  List.forall_mem_append.mpr ⟨one, other⟩

theorem entries_regular {outcomes : List (Outcome Value × Outcome Value)}
    (regular : GiveRegular outcomes) {entries : List (Value × Value)}
    (given : entriesValue outcomes = .ok entries) : Value.RegularEntries entries := by
  rw [entriesValue, all_ok_iff] at given
  refine (Value.regular_entries_iff entries).mpr fun entry member => ?_
  have member : (.ok entry : Outcome (Value × Value)) ∈ entries.map .ok := List.mem_map_of_mem member
  rw [← given] at member
  obtain ⟨⟨key, value⟩, own, same⟩ := List.mem_map.mp member
  obtain ⟨keys, values⟩ := both_ok_iff.mp same
  obtain ⟨keyRegular, valueRegular⟩ := regular _ own
  refine ⟨keyRegular _ ?_, valueRegular _ values⟩
  dsimp only at keys ⊢
  split at keys
  · split at keys
    · exact keys
    · cases keys
  · cases keys

theorem default_gives_regular (tag : Tag) (text : Option String) :
    GivesRegular (valueOfDefault tag text) := by
  unfold valueOfDefault
  split
  · exact nofun
  · split
    · exact nofun
    · exact scalar_gives_regular _ _

mutual

theorem node_gives_regular : ∀ node : Node, GivesRegular node.value
  | .unfinished => by
      rintro value ⟨⟩
      trivial
  | .scalar tag text => scalar_gives_regular tag text
  | .sequence tag items => by
      have own := items_give_regular items
      have pairs := pairs_give_regular items
      have list {outcomes : List (Outcome Value)} (regular : ∀ outcome ∈ outcomes, GivesRegular outcome) :
          GivesRegular (.below ((Outcome.all outcomes).map .list)) := by
        refine below_gives_regular fun value given => ?_
        obtain ⟨items, all, rfl⟩ := map_ok_iff.mp given
        exact all_regular regular all
      unfold Node.value
      split
      · exact list own
      · exact list pairs
      · exact list pairs
      all_goals exact nofun
  | .mapping tag entries => by
      have contents {outcomes : List (Outcome Value × Outcome Value)}
          (merged : mergedEntries entries = some outcomes) :
          GiveRegular (outcomes ++ ownEntries entries) :=
        (merged_entries_regular entries outcomes merged).append (own_entries_regular entries)
      have regular : ∀ pairs, (match mergedEntries entries with
          | some merged => entriesValue (merged ++ ownEntries entries)
          | none => .here .malformed) = .ok pairs → Value.RegularEntries pairs := by
        intro pairs given
        cases merged : mergedEntries entries with
        | none =>
            rw [merged] at given
            cases given
        | some outcomes =>
            rw [merged] at given
            exact entries_regular (contents merged) given
      unfold Node.value
      dsimp only
      split
      · refine below_gives_regular fun value given => ?_
        obtain ⟨pairs, all, rfl⟩ := map_ok_iff.mp given
        exact Value.of_pairs_regular (regular pairs all)
      · refine below_gives_regular fun value given => ?_
        obtain ⟨pairs, all, rfl⟩ := map_ok_iff.mp given
        refine Value.of_members_regular ((Value.regular_items_iff _).mpr fun key member => ?_)
        obtain ⟨pair, own, rfl⟩ := List.mem_map.mp member
        exact ((Value.regular_entries_iff _).mp (regular pairs all) pair own).1
      case h_9 => exact default_gives_regular tag _
      all_goals exact nofun

theorem items_give_regular : ∀ items : List Node, ∀ outcome ∈ itemValues items, GivesRegular outcome
  | [] => by simp [itemValues]
  | item :: rest => by
      rw [itemValues, List.forall_mem_cons]
      exact ⟨node_gives_regular item, items_give_regular rest⟩

theorem pairs_give_regular : ∀ items : List Node, ∀ outcome ∈ pairValues items, GivesRegular outcome
  | [] => by simp [pairValues]
  | item :: rest => by
      unfold pairValues
      refine List.forall_mem_cons.mpr ⟨?_, pairs_give_regular rest⟩
      match item with
      | .mapping _ [(key, value)] =>
          have keyRegular := node_gives_regular key
          have valueRegular := node_gives_regular value
          intro pair given
          obtain ⟨both, each, rfl⟩ := map_ok_iff.mp given
          obtain ⟨one, other⟩ := both_ok_iff.mp each
          exact ⟨keyRegular _ one, valueRegular _ other, trivial⟩
      | .mapping _ [] | .mapping _ (_ :: _ :: _) | .scalar _ _ | .sequence _ _ | .unfinished =>
          exact nofun

theorem own_entries_regular : ∀ entries : List (Node × Node), GiveRegular (ownEntries entries)
  | [] => GiveRegular.nil
  | (key, value) :: rest => by
      have others := own_entries_regular rest
      have keyRegular := node_gives_regular key
      unfold ownEntries
      split
      · exact others
      · refine List.forall_mem_cons.mpr ⟨⟨?_, node_gives_regular value⟩, others⟩
        dsimp only
        split
        · exact nofun
        · split
          · exact default_gives_regular _ _
          · exact keyRegular

theorem merged_entries_regular : ∀ entries : List (Node × Node), ∀ merged,
    mergedEntries entries = some merged → GiveRegular merged
  | [], merged, same => by
      cases same
      exact GiveRegular.nil
  | (key, value) :: rest, merged, same => by
      have others := merged_entries_regular rest
      unfold mergedEntries at same
      split at same
      · match value, same with
        | .mapping _ entries, same =>
            simp only [Option.bind_eq_bind, Option.pure_def, Option.bind_some,
              Option.bind_eq_some_iff, Option.some.injEq] at same
            obtain ⟨inner, merges, more, later, rfl⟩ := same
            exact ((merged_entries_regular entries inner merges).append
              (own_entries_regular entries)).append (others more later)
        | .sequence _ items, same =>
            simp only [Option.bind_eq_bind, Option.pure_def, Option.bind_eq_some_iff,
              Option.some.injEq] at same
            obtain ⟨brought, brings, more, later, rfl⟩ := same
            exact (merged_items_regular items brought brings).append (others more later)
        | .unfinished, same =>
            simp only [Option.bind_eq_bind, Option.pure_def, Option.bind_some, List.nil_append,
              Option.bind_eq_some_iff, Option.some.injEq] at same
            obtain ⟨more, later, rfl⟩ := same
            exact others more later
      · exact others merged same

theorem merged_items_regular : ∀ items : List Node, ∀ merged,
    mergedItems items = some merged → GiveRegular merged
  | [], merged, same => by
      cases same
      exact GiveRegular.nil
  | item :: rest, merged, same => by
      have others := merged_items_regular rest
      unfold mergedItems at same
      match item, same with
      | .mapping _ entries, same =>
          simp only [Option.bind_eq_bind, Option.pure_def, Option.bind_some,
            Option.bind_eq_some_iff, Option.some.injEq] at same
          obtain ⟨inner, merges, later, lasts, rfl⟩ := same
          exact (others later lasts).append
            ((merged_entries_regular entries inner merges).append (own_entries_regular entries))
      | .unfinished, same =>
          simp only [Option.bind_eq_bind, Option.pure_def, Option.bind_some, List.append_nil,
            Option.bind_eq_some_iff, Option.some.injEq] at same
          obtain ⟨later, lasts, rfl⟩ := same
          exact others later lasts

end

/-- Whatever is read from a document is regular. -/
theorem read_regular {text : String} {value : Value} (given : read text = .ok value) :
    value.Regular := by
  obtain ⟨root, -, own⟩ := bind_ok_iff.mp given
  cases root with
  | none =>
      cases own
      trivial
  | some node => exact node_gives_regular node value (map_error_ok_iff.mp own)

end Yaml

end FixtureImages
