import FixtureImages.Archive.Reader
import FixtureImages.Proofs.Text.Utf8

/-!
# Header blocks, read back

A header block is one block of 512 bytes. Reading it gives the name, mode, size and kind that it was
written with, if they fit their fields.
-/

namespace FixtureImages.Archive

set_option autoImplicit false

open Text

theorem length_zeros (count : Nat) : (zeros count).length = count := List.length_replicate

/-! ## Numbers in fields -/

theorem length_octal (width n : Nat) : (octal width n).length = width := by
  induction width generalizing n with
  | zero => rfl
  | succ width ih => rw [octal, List.length_append, ih]; rfl

theorem octal_digits (width n : Nat) : ∀ byte ∈ octal width n, isOctalDigit byte = true := by
  induction width generalizing n with
  | zero => simp [octal]
  | succ width ih =>
      rw [octal, List.forall_mem_append]
      refine ⟨ih (n / 8), fun byte member => ?_⟩
      have value := byte_value (show 48 + n % 8 < 256 by omega)
      rw [List.mem_singleton.mp member]
      simp only [isOctalDigit, Bool.and_eq_true, decide_eq_true_eq, UInt8.le_iff_toNat_le, value]
      exact ⟨Nat.le_add_right _ _, show 48 + n % 8 ≤ 55 by omega⟩

/-- The digits of a field spell a number as far as they reach. -/
theorem octal_value (width n : Nat) :
    (octal width n).foldl (fun number byte => number * 8 + (byte.toNat - 48)) 0 =
      n % Nat.pow 8 width := by
  induction width generalizing n with
  | zero => exact (Nat.mod_one n).symm
  | succ width ih =>
      have value := byte_value (show 48 + n % 8 < 256 by omega)
      have split : n % Nat.pow 8 (width + 1) = n % 8 + 8 * (n / 8 % Nat.pow 8 width) := by
        rw [← Nat.mod_mul, Nat.mul_comm]
        rfl
      rw [octal, List.foldl_append, ih, split]
      simp only [List.foldl_cons, List.foldl_nil, value]
      omega

theorem field_at_append {front field back : List UInt8} {offset width : Nat}
    (starts : front.length = offset) (ends : field.length = width) :
    fieldAt offset width (front ++ (field ++ back)) = field := by
  rw [fieldAt, List.drop_left' starts, List.take_left' ends]

/-- A number that fits its field is read back. -/
theorem number_at_append {front back rest : List UInt8} {offset width digits n : Nat}
    (starts : front.length = offset) (ends : digits + 1 + rest.length = width)
    (fits : n < Nat.pow 8 digits) :
    numberAt offset width (front ++ (octal digits n ++ 0 :: rest ++ back)) = n := by
  have here : fieldAt offset width (front ++ (octal digits n ++ 0 :: rest ++ back)) =
      octal digits n ++ 0 :: rest := by
    refine field_at_append starts ?_
    rw [List.length_append, length_octal, List.length_cons]
    omega
  rw [numberAt, here, List.takeWhile_append_of_pos (octal_digits digits n),
    List.takeWhile_cons_of_neg (by decide), List.append_nil, octal_value, Nat.mod_eq_of_lt fits]

/-! ## Texts in fields -/

theorem length_text_field (width : Nat) (text : String) : (textField width text).length = width := by
  simp only [textField, List.length_append, length_zeros, List.length_map, List.length_take]
  omega

theorem up_to_zero_zeros (count : Nat) : upToZero (zeros count) = [] := by
  cases count with
  | zero => rfl
  | succ count => rfl

/-- A short text in ASCII is read back from its field. -/
theorem up_to_zero_text_field {width : Nat} {text : String}
    (ascii : ∀ c ∈ text.toList, 0 < c.toNat ∧ c.toNat < 0x80) (short : text.toList.length ≤ width) :
    upToZero (textField width text) = utf8 text := by
  have bytes : (text.toList.take width).map (fun c =>
      if c.toNat < 0x80 then UInt8.ofNat c.toNat else UInt8.ofNat 63) = utf8 text := by
    rw [List.take_of_length_le short, utf8_of_ascii fun c member => (ascii c member).2]
    exact List.map_congr_left fun c member => if_pos (ascii c member).2
  have filled : ∀ byte ∈ utf8 text, (byte != 0) = true := by
    rw [utf8_of_ascii fun c member => (ascii c member).2]
    intro byte member
    obtain ⟨c, own, rfl⟩ := List.mem_map.mp member
    rw [bne_iff_ne]
    intro none
    have value := byte_value (show c.toNat < 256 by have := ascii c own; omega)
    rw [none] at value
    exact absurd value (Nat.ne_of_lt (ascii c own).1)
  rw [textField, bytes, upToZero, List.takeWhile_append_of_pos filled]
  exact (congrArg _ (up_to_zero_zeros _)).trans (List.append_nil _)

/-! ## Check sums -/

theorem byte_sum_le (bytes : List UInt8) : byteSum bytes ≤ 255 * bytes.length := by
  induction bytes with
  | nil => exact Nat.le_refl 0
  | cons byte rest ih =>
      have small : byte.toNat < 256 := byte.toNat_lt
      have step : byteSum (byte :: rest) = byte.toNat + byteSum rest := rfl
      rw [step, List.length_cons]
      omega

/-! ## Blocks -/

/-- The fields in front of the check sum. -/
def headerFront (name : String) (mode size : Nat) : List UInt8 :=
  textField nameSize name ++ numberField 8 mode ++ numberField 8 0 ++ numberField 8 0 ++
    numberField 12 size ++ numberField 12 0

/-- The fields behind the check sum. -/
def headerBack (kind : Char) : List UInt8 :=
  textField 1 (String.singleton kind) ++ zeros 100 ++ textField 6 "ustar" ++ textField 2 "00" ++
    zeros 247

def headerSum (name : String) (mode size : Nat) (kind : Char) : Nat :=
  byteSum (headerFront name mode size) + 8 * 32 + byteSum (headerBack kind)

variable (name : String) (mode size : Nat) (kind : Char)

theorem header_eq : header name mode size kind = headerFront name mode size ++
    (octal 6 (headerSum name mode size kind) ++ 0 :: [32] ++ headerBack kind) := by
  simp [header, headerFront, headerBack, headerSum, numberField]

theorem length_number_field {width : Nat} (positive : 0 < width) (n : Nat) :
    (numberField width n).length = width := by
  rw [numberField, List.length_append, length_octal]
  exact Nat.sub_add_cancel positive

theorem length_header_front : (headerFront name mode size).length = 148 := by
  simp [headerFront, length_text_field, length_number_field, nameSize]

theorem length_header_back : (headerBack kind).length = 356 := by
  simp [headerBack, length_text_field, length_zeros]

theorem length_header : (header name mode size kind).length = blockSize := by
  rw [header_eq]
  simp [length_header_front, length_header_back, length_octal, blockSize]

theorem header_sum_fits : headerSum name mode size kind < Nat.pow 8 6 := by
  have front := byte_sum_le (headerFront name mode size)
  have back := byte_sum_le (headerBack kind)
  rw [length_header_front] at front
  rw [length_header_back] at back
  have limit : Nat.pow 8 6 = 262144 := rfl
  rw [headerSum, limit]
  omega

/-- The fields up to the check sum in order, and the rest. -/
theorem header_parts : header name mode size kind = textField nameSize name ++
    (octal 7 mode ++ 0 :: [] ++ (numberField 8 0 ++ (numberField 8 0 ++
      (octal 11 size ++ 0 :: [] ++ (numberField 12 0 ++
        (octal 6 (headerSum name mode size kind) ++ 0 :: [32] ++ headerBack kind)))))) := by
  simp [header_eq, headerFront, numberField]

/-- The field for what stands in front of a name is empty. -/
theorem field_at_stem : fieldAt 345 155 (header name mode size kind) = zeros 155 := by
  have split : zeros 247 = zeros 80 ++ (zeros 155 ++ zeros 12) := by
    simp [zeros]
  have parts : header name mode size kind = (headerFront name mode size ++
      octal 6 (headerSum name mode size kind) ++ 0 :: [32] ++ textField 1 (String.singleton kind) ++
        zeros 100 ++ textField 6 "ustar" ++ textField 2 "00" ++ zeros 80) ++
          (zeros 155 ++ zeros 12) := by
    simp [header_eq, headerBack, split]
  rw [parts]
  apply field_at_append
  · simp [length_header_front, length_octal, length_text_field, length_zeros]
  · exact length_zeros 155

theorem header_name : headerName (header name mode size kind) = upToZero (textField nameSize name) := by
  have own : fieldAt 0 nameSize (header name mode size kind) = textField nameSize name := by
    rw [header_parts]
    exact List.take_left' (length_text_field nameSize name)
  rw [headerName, own, field_at_stem, up_to_zero_zeros]
  rfl

/-- The numbers that a header has room for. -/
structure HeaderFits (mode size : Nat) : Prop where
  mode : mode < Nat.pow 8 7
  size : size < sizeLimit

variable {name mode size kind}

/-- A header block is read back, with its name as far as its field holds it. -/
theorem read_header (fits : HeaderFits mode size) :
    readHeader (header name mode size kind) = some
      { name := upToZero (textField nameSize name), mode, size
        kind := (headerBack kind)[0]?.getD 0 } := by
  have block := header_eq name mode size kind
  have front : (header name mode size kind).take 148 = headerFront name mode size := by
    rw [block, List.take_left' (length_header_front name mode size)]
  have summed : (headerFront name mode size ++
      (octal 6 (headerSum name mode size kind) ++ 0 :: [32])).length = 156 := by
    simp [length_header_front, length_octal]
  have back : (header name mode size kind).drop 156 = headerBack kind := by
    rw [block, ← List.append_assoc, List.drop_left' summed]
  have kindByte : (header name mode size kind)[156]? = (headerBack kind)[0]? := by
    rw [← back, List.getElem?_drop]
  have sum : numberAt 148 8 (header name mode size kind) = headerSum name mode size kind := by
    rw [block]
    exact number_at_append (length_header_front name mode size) rfl (header_sum_fits name mode size kind)
  have modeRead : numberAt 100 8 (header name mode size kind) = mode := by
    rw [header_parts]
    exact number_at_append (length_text_field nameSize name) rfl fits.mode
  have sizeRead : numberAt 124 12 (header name mode size kind) = size := by
    rw [header_parts, ← List.append_assoc, ← List.append_assoc, ← List.append_assoc]
    apply number_at_append
    · simp [length_text_field, length_octal, length_number_field, nameSize]
    · rfl
    · exact fits.size
  rw [readHeader, front, back, sum, modeRead, sizeRead, kindByte, header_name]
  exact if_pos ⟨length_header name mode size kind, rfl⟩

theorem header_not_empty : isEmptyBlock (header name mode size kind) = false := by
  rw [isEmptyBlock, List.all_eq_false, header_eq]
  exact ⟨32, by simp, by decide⟩

end FixtureImages.Archive
