import FixtureImages.Proofs.Archive.Header
import FixtureImages.Proofs.Archive.Records

/-!
# Archives, read back

Reading an archive gives the files it was made of, one by one and in order: what precedes a file, its
records and the padding behind it never reach into the next one. An archive fills whole records.
-/

namespace FixtureImages.Archive

set_option autoImplicit false

open Text

/-! ## Padding -/

theorem length_pad_to {unit : Nat} (positive : 0 < unit) (bytes : List UInt8) :
    unit ∣ (padTo unit bytes).length := by
  apply Nat.dvd_of_mod_eq_zero
  have below := Nat.mod_lt bytes.length positive
  have whole := Nat.div_add_mod bytes.length unit
  have up : bytes.length + (unit - bytes.length % unit) = unit * (bytes.length / unit + 1) := by
    rw [Nat.mul_succ]
    omega
  rw [padTo, List.length_append, padding, length_zeros, Nat.add_mod_mod, up, Nat.mul_mod_right]

theorem take_pad_to (unit : Nat) (bytes rest : List UInt8) :
    (padTo unit bytes ++ rest).take bytes.length = bytes := by
  rw [padTo, List.append_assoc, List.take_left]

theorem drop_pad_to (unit : Nat) (bytes rest : List UInt8) :
    (padTo unit bytes ++ rest).drop (bytes.length + (padding unit bytes.length).length) = rest := by
  apply List.drop_left'
  rw [padTo, List.length_append]

/-! ## One header with what belongs to it -/

section

variable {known : List (List UInt8 × List UInt8)} {fuel : Nat} {rest : List UInt8}

theorem members_from_end (ended : isEmptyBlock (rest.take blockSize) = true) :
    membersFrom known (fuel + 1) rest = some [] := by
  rw [membersFrom]
  simp only [ended, if_true]
  rfl

/-- Records count for the header behind them. -/
theorem members_from_records {extra : List UInt8} {entries : List (List UInt8 × List UInt8)}
    (fits : extra.length < sizeLimit) (given : readRecords extra.length extra = some entries) :
    membersFrom known (fuel + 1)
      (header "././@PaxHeader" 0 extra.length 'x' ++ (padTo blockSize extra ++ rest)) =
        membersFrom entries fuel rest := by
  have block := length_header "././@PaxHeader" 0 extra.length 'x'
  have kind : (headerBack 'x')[0]?.getD 0 = 120 := rfl
  rw [membersFrom]
  simp only [List.take_left' block, List.drop_left' block, header_not_empty, Bool.false_eq_true,
    if_false, read_header ⟨show 0 < Nat.pow 8 7 by decide, fits⟩, kind, take_pad_to, given,
    drop_pad_to, Option.bind_eq_bind, Option.bind_some, if_true]

/-- A file, of which the records before it tell what its header does not. -/
theorem members_from_file {member : ArchiveMember} {size : Nat}
    (fits : HeaderFits member.mode size)
    (sized : ((recordFor "size" known).map decimalOf).getD size = member.content.length)
    (named : (recordFor "path" known).getD (upToZero (textField nameSize member.name)) =
      utf8 member.name) :
    membersFrom known (fuel + 1)
      (header member.name member.mode size '0' ++ (padTo blockSize member.content ++ rest)) =
        (membersFrom [] fuel rest).map (member :: ·) := by
  have block := length_header member.name member.mode size '0'
  have kind : (headerBack '0')[0]?.getD 0 = 48 := rfl
  have other : ¬(48 : UInt8) = 120 := by decide
  rw [membersFrom]
  simp only [List.take_left' block, List.drop_left' block, header_not_empty, Bool.false_eq_true,
    if_false, read_header fits, kind, other, sized, named, take_pad_to, drop_pad_to, of_utf8_utf8,
    Except.toOption, Option.bind_eq_bind, Option.bind_some, if_true]
  cases membersFrom [] fuel rest with
  | none => rfl
  | some later => rfl

end

/-! ## One file with all that belongs to it -/

/-- What the fields of an archive hold: names without an end mark, modes of seven octal digits, and
records whose length has eleven. -/
structure Archivable (member : ArchiveMember) : Prop where
  noEnd : '\x00' ∉ member.name.toList
  mode : member.mode < Nat.pow 8 7
  records : (records member).length < sizeLimit

/-- The records of a file as they are read. -/
def recordsRead (member : ArchiveMember) : List (List UInt8 × List UInt8) :=
  (recordEntries member).map fun entry => (utf8 entry.1, utf8 entry.2)

theorem record_for_name (member : ArchiveMember) : recordFor "path" (recordsRead member) =
    if needsNameRecord member.name then some (utf8 member.name) else none := by
  have apart : (utf8 "path" == utf8 "size") = false := by decide
  by_cases named : needsNameRecord member.name <;>
    by_cases small : member.content.length < sizeLimit <;>
      simp [recordFor, recordsRead, recordEntries, named, small, List.lookup_cons, apart]

theorem record_for_size (member : ArchiveMember) : recordFor "size" (recordsRead member) =
    if member.content.length < sizeLimit then none
    else some (utf8 (toString member.content.length)) := by
  have apart : (utf8 "size" == utf8 "path") = false := by decide
  by_cases named : needsNameRecord member.name <;>
    by_cases small : member.content.length < sizeLimit <;>
      simp [recordFor, recordsRead, recordEntries, named, small, apart]

/-- A name without a record is short, and in ASCII. -/
theorem needs_no_record {name : String} (without : needsNameRecord name = false) :
    (∀ c ∈ name.toList, c.toNat < 0x80) ∧ name.toList.length ≤ nameSize := by
  simpa [needsNameRecord] using without

theorem name_read {member : ArchiveMember} (noEnd : '\x00' ∉ member.name.toList) :
    (recordFor "path" (recordsRead member)).getD (upToZero (textField nameSize member.name)) =
      utf8 member.name := by
  rw [record_for_name]
  cases named : needsNameRecord member.name with
  | true => rfl
  | false =>
      obtain ⟨ascii, short⟩ := needs_no_record named
      refine up_to_zero_text_field (fun c own => ⟨?_, ascii c own⟩) short
      apply Nat.pos_of_ne_zero
      intro none
      have same : c = '\x00' := Char.toNat_inj.mp none
      exact noEnd (same ▸ own)

/-- The size of a file as its header has it. -/
def headerSize (member : ArchiveMember) : Nat :=
  if member.content.length < sizeLimit then member.content.length else 0

theorem size_read (member : ArchiveMember) :
    ((recordFor "size" (recordsRead member)).map decimalOf).getD (headerSize member) =
      member.content.length := by
  rw [record_for_size, headerSize]
  split
  · rfl
  · exact decimal_of_decimal_bytes member.content.length

theorem header_fits {member : ArchiveMember} (archivable : Archivable member) :
    HeaderFits member.mode (headerSize member) := by
  refine ⟨archivable.mode, ?_⟩
  unfold headerSize
  split
  · assumption
  · exact Nat.pow_pos (by decide)

/-- The header of a file, and its content. -/
def fileBytes (member : ArchiveMember) : List UInt8 :=
  header member.name member.mode (headerSize member) '0' ++ padTo blockSize member.content

theorem member_bytes_eq (member : ArchiveMember) : memberBytes member =
    (if (records member).isEmpty then []
      else header "././@PaxHeader" 0 (records member).length 'x' ++
        padTo blockSize (records member)) ++ fileBytes member := by
  rw [memberBytes, fileBytes, headerSize]
  simp only [List.append_assoc]

theorem length_file_bytes (member : ArchiveMember) : blockSize ≤ (fileBytes member).length := by
  rw [fileBytes, List.length_append, length_header]
  exact Nat.le_add_right _ _

/-- A file is read behind its records. -/
theorem file_bytes_read {member : ArchiveMember} (archivable : Archivable member) (fuel : Nat)
    (rest : List UInt8) : membersFrom (recordsRead member) (fuel + 1) (fileBytes member ++ rest) =
      (membersFrom [] fuel rest).map (member :: ·) := by
  rw [fileBytes, List.append_assoc]
  exact members_from_file (header_fits archivable) (size_read member) (name_read archivable.noEnd)

theorem records_read_of_none {member : ArchiveMember} (none : records member = []) :
    recordsRead member = [] := by
  have given := read_records_of_member member
  rw [none] at given
  exact (Option.some.inj given).symm

/-- A file is read with all that belongs to it, and what follows is left as it is. The number of
blocks to come bounds the headers to come. -/
theorem member_bytes_read {member : ArchiveMember} (archivable : Archivable member) {fuel : Nat}
    {rest : List UInt8} (enough : (memberBytes member ++ rest).length < blockSize * fuel) :
    ∃ left, rest.length < blockSize * left ∧
      membersFrom [] fuel (memberBytes member ++ rest) =
        (membersFrom [] left rest).map (member :: ·) := by
  have size : blockSize = 512 := rfl
  have file := length_file_bytes member
  by_cases none : records member = []
  · have bytes : memberBytes member = fileBytes member := by
      rw [member_bytes_eq, if_pos (List.isEmpty_iff.mpr none), List.nil_append]
    rw [bytes] at enough ⊢
    rw [List.length_append] at enough
    cases fuel with
    | zero => omega
    | succ fuel =>
        have step := file_bytes_read archivable fuel rest
        rw [records_read_of_none none] at step
        refine ⟨fuel, ?_, step⟩
        rw [size] at enough file ⊢
        omega
  · have bytes : memberBytes member ++ rest =
        header "././@PaxHeader" 0 (records member).length 'x' ++
          (padTo blockSize (records member) ++ (fileBytes member ++ rest)) := by
      rw [member_bytes_eq, if_neg (by simpa using none)]
      simp only [List.append_assoc]
    rw [bytes] at enough ⊢
    rw [List.length_append, length_header, List.length_append, List.length_append] at enough
    cases fuel with
    | zero => omega
    | succ fuel =>
        rw [members_from_records archivable.records (read_records_of_member member)]
        cases fuel with
        | zero => omega
        | succ fuel =>
            refine ⟨fuel, ?_, file_bytes_read archivable fuel rest⟩
            rw [size] at enough file ⊢
            omega

/-- Files are read one after the other up to an empty block. -/
theorem members_bytes_read {members : List ArchiveMember}
    (each : ∀ member ∈ members, Archivable member) {fuel : Nat} {rest : List UInt8}
    (ended : isEmptyBlock (rest.take blockSize) = true)
    (enough : (members.flatMap memberBytes ++ rest).length < blockSize * fuel) :
    membersFrom [] fuel (members.flatMap memberBytes ++ rest) = some members := by
  induction members generalizing fuel with
  | nil =>
      cases fuel with
      | zero => exact absurd enough (Nat.not_lt_zero _)
      | succ fuel => exact members_from_end ended
  | cons member others ih =>
      rw [List.forall_mem_cons] at each
      rw [List.flatMap_cons, List.append_assoc] at enough ⊢
      obtain ⟨left, further, step⟩ := member_bytes_read each.1 enough
      rw [step, ih each.2 further]
      rfl

/-! ## Whole archives -/

/-- An archive is a positive number of whole records. -/
theorem write_fills_records (members : List ArchiveMember) :
    0 < (write members).length ∧ recordSize ∣ (write members).length := by
  refine ⟨?_, length_pad_to (by decide) _⟩
  rw [write, padTo, List.length_append, List.length_append, length_zeros]
  exact Nat.lt_of_lt_of_le (by decide : 0 < 2 * blockSize)
    (Nat.le_trans (Nat.le_add_left _ _) (Nat.le_add_right _ _))

theorem read_write {members : List ArchiveMember} (each : ∀ member ∈ members, Archivable member) :
    read (write members) = some members := by
  have ended : isEmptyBlock ((zeros (2 * blockSize) ++ padding recordSize
      (members.flatMap memberBytes ++ zeros (2 * blockSize)).length).take blockSize) = true := by
    rw [List.take_append_of_le_length (by rw [length_zeros]; decide), zeros, List.take_replicate]
    simp [isEmptyBlock]
  rw [read]
  have blocks := Nat.lt_mul_div_succ (write members).length (show 0 < blockSize by decide)
  rw [write, padTo, List.append_assoc] at blocks ⊢
  exact members_bytes_read each ended blocks

/-! ## Registrations -/

/-- The file of one registration. -/
def registrationFile (registration : String × String) : ArchiveMember where
  name := "commander/appservice/" ++ registration.1 ++ ".yaml"
  mode := 0o644
  content := utf8 registration.2

theorem of_registrations_eq (registrations : List (String × String)) :
    ofRegistrations registrations = write (registrations.map registrationFile) := rfl

theorem not_mem_joined {c : Char} {front middle back : String} (first : c ∉ front.toList)
    (second : c ∉ middle.toList) (third : c ∉ back.toList) : c ∉ (front ++ middle ++ back).toList := by
  rw [String.toList_append, String.toList_append, List.mem_append, List.mem_append, not_or, not_or]
  exact ⟨⟨first, second⟩, third⟩

theorem registration_archivable {registration : String × String}
    (noEnd : '\x00' ∉ registration.1.toList)
    (counted : (records (registrationFile registration)).length < sizeLimit) :
    Archivable (registrationFile registration) := by
  have folder : '\x00' ∉ "commander/appservice/".toList := by decide
  have ending : '\x00' ∉ ".yaml".toList := by decide
  exact ⟨not_mem_joined folder noEnd ending, show 0o644 < Nat.pow 8 7 by decide, counted⟩

/-- The archive of registrations fills whole records, and holds exactly one file for each of them, in
order. All that has to fit is the length of what is put in front of a file when its name is long or
not in ASCII, or its text very long: the format counts it with eleven octal digits. -/
theorem registrations_read_back {registrations : List (String × String)}
    (noEnd : ∀ registration ∈ registrations, '\x00' ∉ registration.1.toList)
    (counted : ∀ registration ∈ registrations,
      (records (registrationFile registration)).length < Nat.pow 8 11) :
    (0 < (ofRegistrations registrations).length ∧ 10240 ∣ (ofRegistrations registrations).length) ∧
      read (ofRegistrations registrations) = some (registrations.map fun registration =>
        { name := "commander/appservice/" ++ registration.1 ++ ".yaml"
          mode := 0o644
          content := utf8 registration.2 }) := by
  rw [of_registrations_eq]
  refine ⟨write_fills_records _, read_write (List.forall_mem_map.mpr fun registration member => ?_)⟩
  exact registration_archivable (noEnd registration member) (counted registration member)

/-- An identifier and a text outside ASCII, an identifier that makes its name longer than its field,
and a plain one with an empty text. -/
def mixedRegistrations : List (String × String) :=
  [("brücke", "id: brücke\n"),
    ("bridge-with-a-name-that-does-not-fit-into-the-hundred-bytes-of-its-field-of-a-header", "id: b\n"),
    ("c", "")]

theorem registrations_read_back_of_mixed :
    ((∀ registration ∈ mixedRegistrations, '\x00' ∉ registration.1.toList) ∧
      ∀ registration ∈ mixedRegistrations,
        (records (registrationFile registration)).length < Nat.pow 8 11) ∧
    (0 < (ofRegistrations mixedRegistrations).length ∧
      10240 ∣ (ofRegistrations mixedRegistrations).length) ∧
      read (ofRegistrations mixedRegistrations) = some (mixedRegistrations.map fun registration =>
        { name := "commander/appservice/" ++ registration.1 ++ ".yaml"
          mode := 0o644
          content := utf8 registration.2 }) := by
  have noEnd : ∀ registration ∈ mixedRegistrations, '\x00' ∉ registration.1.toList := by
    decide +kernel
  have counted : ∀ registration ∈ mixedRegistrations,
      (records (registrationFile registration)).length < Nat.pow 8 11 := by
    decide +kernel
  exact ⟨⟨noEnd, counted⟩, registrations_read_back noEnd counted⟩

end FixtureImages.Archive
