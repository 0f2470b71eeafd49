import FixtureImages.Archive.Reader
import FixtureImages.Proofs.Decimal.Notation
import FixtureImages.Proofs.Text.Utf8

/-!
# Records, read back

A record begins with its own length, which counts the digits of that length too. Records are read
back one after the other, each up to exactly its end.
-/

namespace FixtureImages.Archive

set_option autoImplicit false

open Text

/-! ## The length of a record -/

/-- The number of decimal digits. -/
abbrev digitCount (n : Nat) : Nat := (toString n).length

theorem digit_count_pos (n : Nat) : 0 < digitCount n := Nat.length_repr_pos

theorem digit_count_le_iff {n count : Nat} (positive : 0 < count) :
    digitCount n ≤ count ↔ n < 10 ^ count := Nat.length_repr_le_iff positive

theorem digit_count_mono {m n : Nat} (le : m ≤ n) : digitCount m ≤ digitCount n := by
  have bound := (digit_count_le_iff (digit_count_pos n)).mp (Nat.le_refl _)
  exact (digit_count_le_iff (digit_count_pos n)).mpr (Nat.lt_of_le_of_lt le bound)

/-- Adding no more than one above the number of digits makes at most one digit more. -/
theorem digit_count_add {m n : Nat} (le : n ≤ m + digitCount m) :
    digitCount n ≤ digitCount m + 1 := by
  have own := (digit_count_le_iff (digit_count_pos m)).mp (Nat.le_refl _)
  have small : digitCount m < 10 ^ digitCount m := Nat.lt_pow_self (by decide)
  rw [digit_count_le_iff (Nat.succ_pos _), Nat.pow_succ]
  omega

/-- The length of a record counts what stands beside it and its own digits. -/
theorem record_length_eq (others : Nat) :
    recordLength others = others + digitCount (recordLength others) := by
  let next (guess : Nat) : Nat := others + digitCount guess
  have mono {m n : Nat} (le : m ≤ n) : next m ≤ next n := Nat.add_le_add_left (digit_count_mono le) _
  -- Each guess is at least the one before, and after the first one the digits grow at most once.
  have up₁ : next 0 ≤ next (next 0) := mono (Nat.zero_le _)
  have up₂ := mono up₁
  have up₃ := mono up₂
  have up₄ := mono up₃
  have first : next 0 = others + 1 := rfl
  have grow {n : Nat} (le : n ≤ next 0 + digitCount (next 0)) :
      next n ≤ others + (digitCount (next 0) + 1) :=
    Nat.add_le_add_left (digit_count_add le) _
  have second : next (next 0) = others + digitCount (next 0) := rfl
  have limit₃ := grow (n := next (next 0)) (by omega)
  have limit₄ := grow (n := next (next (next 0))) (by omega)
  have limit₅ := grow (n := next (next (next (next 0)))) (by omega)
  change next (next (next (next 0))) = next (next (next (next (next 0))))
  by_cases settled : next (next (next 0)) = next (next 0)
  · rw [settled, settled, settled]
  · omega

/-! ## Decimal numbers as bytes -/

theorem decimal_bytes (n : Nat) :
    utf8 (toString n) = (Nat.toDigits 10 n).map fun c => UInt8.ofNat c.toNat := by
  obtain ⟨chars, digits⟩ := nat_digits n
  rw [← chars] at digits ⊢
  exact utf8_of_ascii fun c member => Nat.lt_of_le_of_lt (digit_range (digits c member)).2 (by decide)

theorem length_decimal_bytes (n : Nat) : (utf8 (toString n)).length = digitCount n := by
  rw [decimal_bytes, List.length_map, ← (nat_digits n).1]
  exact String.length_toList

theorem decimal_bytes_digits (n : Nat) : ∀ byte ∈ utf8 (toString n), isAsciiDigit byte = true := by
  rw [decimal_bytes, List.forall_mem_map]
  intro c member
  have range := digit_range ((nat_digits n).2 c member)
  have value := byte_value (show c.toNat < 256 by omega)
  simp only [isAsciiDigit, Bool.and_eq_true, decide_eq_true_eq, UInt8.le_iff_toNat_le, value]
  exact range

/-- A number is read back from its decimal digits. -/
theorem decimal_of_decimal_bytes (n : Nat) : decimalOf (utf8 (toString n)) = n := by
  have spell (digits : List Char) (all : AllDigits digits) (number : Nat) :
      (digits.map fun c => UInt8.ofNat c.toNat).foldl
        (fun number byte => number * 10 + (byte.toNat - 48)) number =
          Nat.ofDigitChars 10 digits number := by
    induction digits generalizing number with
    | nil => rfl
    | cons c rest ih =>
        have range := digit_range (all c List.mem_cons_self)
        have value := byte_value (show c.toNat < 256 by omega)
        rw [List.map_cons, List.foldl_cons, value, Nat.ofDigitChars_cons, Nat.mul_comm number 10]
        exact ih (fun other member => all other (List.mem_cons_of_mem _ member)) _
  rw [decimalOf, decimal_bytes, spell _ (nat_digits n).2]
  exact Nat.ofDigitChars_ten_toDigits

/-! ## One record -/

/-- What stands behind the length of a record. -/
def recordBody (key value : String) : List UInt8 := 32 :: (utf8 key ++ 61 :: (utf8 value ++ [10]))

theorem record_eq (key value : String) : record key value =
    utf8 (toString (recordLength (recordBody key value).length)) ++ recordBody key value := by
  have body : utf8 (" " ++ key ++ "=" ++ value ++ "\n") = recordBody key value := by
    simp only [utf8_append, recordBody, List.append_assoc]
    rfl
  rw [record, body]

theorem length_record (key value : String) :
    (record key value).length = recordLength (recordBody key value).length := by
  rw [record_eq, List.length_append, length_decimal_bytes]
  have counted := record_length_eq (recordBody key value).length
  omega

theorem record_ne_nil (key value : String) : record key value ≠ [] := by
  rw [record_eq, recordBody]
  simp

/-- A record that counts itself is read up to its end, and then what follows it. -/
theorem read_records_step {digits key value : List UInt8}
    (numeric : ∀ byte ∈ digits, isAsciiDigit byte = true) (plain : 61 ∉ key)
    (counts : decimalOf digits = (digits ++ 32 :: (key ++ 61 :: (value ++ [10]))).length)
    (fuel : Nat) (rest : List UInt8) :
    readRecords (fuel + 1) (digits ++ 32 :: (key ++ 61 :: (value ++ [10])) ++ rest) =
      (readRecords fuel rest).map ((key, value) :: ·) := by
  have cut : (digits ++ 32 :: (key ++ 61 :: (value ++ [10])) ++ rest).takeWhile isAsciiDigit = digits := by
    rw [List.append_assoc, List.takeWhile_append_of_pos numeric]
    exact List.append_nil digits
  have body : (digits ++ 32 :: (key ++ 61 :: (value ++ [10]))).drop (digits.length + 1) =
      key ++ 61 :: (value ++ [10]) := by
    rw [List.append_cons, List.drop_left' (by simp)]
  have keyed : (key ++ 61 :: (value ++ [10])).takeWhile (· != 61) = key := by
    have apart : ∀ byte ∈ key, (byte != 61) = true := by
      intro byte member
      exact bne_iff_ne.mpr fun same => plain (same ▸ member)
    rw [List.takeWhile_append_of_pos apart]
    exact List.append_nil key
  have valued : ((key ++ 61 :: (value ++ [10])).drop (key.length + 1)).dropLast = value := by
    rw [List.append_cons, List.drop_left' (by simp), List.dropLast_concat]
  have filled : (digits ++ 32 :: (key ++ 61 :: (value ++ [10])) ++ rest).isEmpty = false := by simp
  have long : ¬(digits ++ 32 :: (key ++ 61 :: (value ++ [10]))).length ≤ digits.length + 1 := by
    simp
  rw [readRecords, filled]
  simp only [Bool.false_eq_true, if_false, cut, counts, List.take_left, List.drop_left, body, keyed,
    valued, if_neg long]

theorem read_records_record {key : String} (plain : 61 ∉ utf8 key) (value : String) (fuel : Nat)
    (rest : List UInt8) : readRecords (fuel + 1) (record key value ++ rest) =
      (readRecords fuel rest).map ((utf8 key, utf8 value) :: ·) := by
  have length := length_record key value
  rw [record_eq] at length ⊢
  refine read_records_step (decimal_bytes_digits _) plain ?_ fuel rest
  rw [decimal_of_decimal_bytes]
  exact length.symm

/-! ## The records of a file -/

/-- The keys and values of the records that a file needs. -/
def recordEntries (member : ArchiveMember) : List (String × String) :=
  (if needsNameRecord member.name then [("path", member.name)] else []) ++
    (if member.content.length < sizeLimit then []
      else [("size", toString member.content.length)])

theorem records_eq (member : ArchiveMember) :
    records member = (recordEntries member).flatMap fun entry => record entry.1 entry.2 := by
  by_cases named : needsNameRecord member.name <;>
    by_cases small : member.content.length < sizeLimit <;>
      simp [records, recordEntries, named, small]

theorem record_entries_plain (member : ArchiveMember) :
    ∀ entry ∈ recordEntries member, 61 ∉ utf8 entry.1 := by
  have path : 61 ∉ utf8 "path" := by decide
  have size : 61 ∉ utf8 "size" := by decide
  unfold recordEntries
  split <;> split <;> simp [path, size]

theorem read_records_entries {entries : List (String × String)}
    (plain : ∀ entry ∈ entries, 61 ∉ utf8 entry.1) {fuel : Nat} (enough : entries.length ≤ fuel) :
    readRecords fuel (entries.flatMap fun entry => record entry.1 entry.2) =
      some (entries.map fun entry => (utf8 entry.1, utf8 entry.2)) := by
  induction entries generalizing fuel with
  | nil =>
      cases fuel with
      | zero => rfl
      | succ fuel => rfl
  | cons entry rest ih =>
      cases fuel with
      | zero => exact absurd enough (by simp)
      | succ fuel =>
          rw [List.forall_mem_cons] at plain
          rw [List.flatMap_cons, read_records_record plain.1,
            ih plain.2 (Nat.le_of_succ_le_succ enough)]
          rfl

/-- The records of a file are read back whole. -/
theorem read_records_of_member (member : ArchiveMember) :
    readRecords (records member).length (records member) =
      some ((recordEntries member).map fun entry => (utf8 entry.1, utf8 entry.2)) := by
  rw [records_eq]
  apply read_records_entries (record_entries_plain member)
  generalize recordEntries member = entries
  induction entries with
  | nil => exact Nat.le_refl 0
  | cons entry rest ih =>
      have positive := List.length_pos_iff.mpr (record_ne_nil entry.1 entry.2)
      rw [List.flatMap_cons, List.length_append, List.length_cons]
      omega

end FixtureImages.Archive
