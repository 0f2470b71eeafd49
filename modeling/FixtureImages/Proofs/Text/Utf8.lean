import FixtureImages.Text.Utf8

/-!
# Texts in UTF-8, read back

The bytes of a text spell exactly that text: each character is cut off in front of whatever follows
it, and no defect is found.
-/

namespace FixtureImages.Text

set_option autoImplicit false

/-- The bytes of a character, by its code point. -/
theorem char_bytes_eq (c : Char) : String.utf8EncodeChar c =
    if c.toNat ≤ 0x7f then [UInt8.ofNat c.toNat]
    else if c.toNat ≤ 0x7ff then
      [UInt8.ofNat (c.toNat / 64 % 32 + 0xc0), UInt8.ofNat (c.toNat % 64 + 0x80)]
    else if c.toNat ≤ 0xffff then
      [UInt8.ofNat (c.toNat / 4096 % 16 + 0xe0), UInt8.ofNat (c.toNat / 64 % 64 + 0x80),
        UInt8.ofNat (c.toNat % 64 + 0x80)]
    else
      [UInt8.ofNat (c.toNat / 262144 % 8 + 0xf0), UInt8.ofNat (c.toNat / 4096 % 64 + 0x80),
        UInt8.ofNat (c.toNat / 64 % 64 + 0x80), UInt8.ofNat (c.toNat % 64 + 0x80)] := rfl

/-- Code points leave out the surrogates. -/
theorem code_point_range (c : Char) :
    c.toNat < 0xd800 ∨ (0xdfff < c.toNat ∧ c.toNat < 0x110000) := c.valid

theorem byte_value {n : Nat} (small : n < 256) : (UInt8.ofNat n).toNat = n :=
  Nat.mod_eq_of_lt small

theorem is_continuation_iff (byte : UInt8) :
    isContinuation byte = true ↔ 0x80 ≤ byte.toNat ∧ byte.toNat ≤ 0xbf := by
  simp [isContinuation, UInt8.le_iff_toNat_le]

theorem allows_second_of {lead second : UInt8} (continues : isContinuation second = true)
    (noOverlong₃ : lead.toNat = 0xe0 → 0xa0 ≤ second.toNat)
    (noSurrogate : lead.toNat = 0xed → second.toNat ≤ 0x9f)
    (noOverlong₄ : lead.toNat = 0xf0 → 0x90 ≤ second.toNat)
    (inRange : lead.toNat = 0xf4 → second.toNat ≤ 0x8f) : allowsSecond lead second = true := by
  have range := (is_continuation_iff second).mp continues
  have same {value : UInt8} (is : (lead == value) = true) : lead.toNat = value.toNat :=
    congrArg UInt8.toNat (beq_iff_eq.mp is)
  unfold allowsSecond
  split
  · have bound := noOverlong₃ (same ‹(lead == 0xe0) = true›)
    simp [UInt8.le_iff_toNat_le, bound, range.2]
  split
  · have bound := noSurrogate (same ‹(lead == 0xed) = true›)
    simp [UInt8.le_iff_toNat_le, bound, range.1]
  split
  · have bound := noOverlong₄ (same ‹(lead == 0xf0) = true›)
    simp [UInt8.le_iff_toNat_le, bound, range.2]
  split
  · have bound := inRange (same ‹(lead == 0xf4) = true›)
    simp [UInt8.le_iff_toNat_le, bound, range.1]
  · exact continues

/-! ## Pieces by the number of their bytes -/

theorem pieces_one {a : UInt8} (rest : List UInt8) (lead : a.toNat < 0x80) :
    utf8Pieces (a :: rest) = .char (Char.ofNat a.toNat) :: utf8Pieces rest := by
  rw [utf8Pieces.eq_def]
  exact if_pos (UInt8.lt_iff_toNat_lt.mpr lead)

theorem not_below {a : UInt8} (bound : UInt8) (lead : bound.toNat ≤ a.toNat) : ¬a < bound := by
  rw [UInt8.lt_iff_toNat_lt]
  exact Nat.not_lt.mpr lead

theorem lead_in_range {a : UInt8} (lead : 0xc2 ≤ a.toNat ∧ a.toNat ≤ 0xf4) :
    ¬(a < 0xc2 || 0xf4 < a) = true := by
  simp [UInt8.lt_iff_toNat_lt, Nat.not_lt.mpr lead.1, Nat.not_lt.mpr lead.2]

theorem pieces_two {a b : UInt8} (rest : List UInt8) (lead : 0xc2 ≤ a.toNat ∧ a.toNat < 0xe0)
    (second : allowsSecond a b = true) : utf8Pieces (a :: b :: rest) =
      .char (Char.ofNat (a.toNat % 32 * 64 + low6 b)) :: utf8Pieces rest := by
  rw [utf8Pieces.eq_def]
  dsimp only
  rw [if_neg (not_below 0x80 (show 0x80 ≤ a.toNat by omega)),
    if_neg (lead_in_range (by omega))]
  rw [second, if_neg (by decide), if_pos (UInt8.lt_iff_toNat_lt.mpr lead.2)]

theorem pieces_three {a b c : UInt8} (rest : List UInt8) (lead : 0xe0 ≤ a.toNat ∧ a.toNat < 0xf0)
    (second : allowsSecond a b = true) (third : isContinuation c = true) :
    utf8Pieces (a :: b :: c :: rest) =
      .char (Char.ofNat (a.toNat % 16 * 4096 + low6 b * 64 + low6 c)) :: utf8Pieces rest := by
  rw [utf8Pieces.eq_def]
  dsimp only
  rw [if_neg (not_below 0x80 (show 0x80 ≤ a.toNat by omega)),
    if_neg (lead_in_range (by omega))]
  rw [second, third, if_neg (by decide), if_neg (not_below 0xe0 (show 0xe0 ≤ a.toNat from lead.1)),
    if_neg (by decide), if_pos (UInt8.lt_iff_toNat_lt.mpr lead.2)]

theorem pieces_four {a b c d : UInt8} (rest : List UInt8) (lead : 0xf0 ≤ a.toNat ∧ a.toNat ≤ 0xf4)
    (second : allowsSecond a b = true) (third : isContinuation c = true)
    (fourth : isContinuation d = true) : utf8Pieces (a :: b :: c :: d :: rest) =
      .char (Char.ofNat (a.toNat % 8 * 262144 + low6 b * 4096 + low6 c * 64 + low6 d)) ::
        utf8Pieces rest := by
  rw [utf8Pieces.eq_def]
  dsimp only
  rw [if_neg (not_below 0x80 (show 0x80 ≤ a.toNat by omega)),
    if_neg (lead_in_range (by omega))]
  rw [second, third, fourth, if_neg (by decide), if_neg (not_below 0xe0 (show 0xe0 ≤ a.toNat by omega)),
    if_neg (by decide), if_neg (not_below 0xf0 (show 0xf0 ≤ a.toNat from lead.1)), if_neg (by decide)]

/-- The bytes of a character are one piece. -/
theorem pieces_of_char (c : Char) (rest : List UInt8) :
    utf8Pieces (String.utf8EncodeChar c ++ rest) = .char c :: utf8Pieces rest := by
  have range := code_point_range c
  have back {n : Nat} (same : n = c.toNat) : Char.ofNat n = c := by rw [same, Char.ofNat_toNat]
  have continues (n : Nat) : isContinuation (UInt8.ofNat (n % 64 + 0x80)) = true := by
    rw [is_continuation_iff, byte_value (by omega)]
    omega
  have low (n : Nat) : low6 (UInt8.ofNat (n % 64 + 0x80)) = n % 64 := by
    rw [low6, byte_value (by omega)]
    omega
  have tail (n : Nat) := byte_value (show n % 64 + 0x80 < 256 by omega)
  rw [char_bytes_eq]
  split
  · have value := byte_value (show c.toNat < 256 by omega)
    refine (pieces_one rest (by omega)).trans ?_
    rw [back value]
  split
  · have lead := byte_value (show c.toNat / 64 % 32 + 0xc0 < 256 by omega)
    refine (pieces_two rest (by omega) (allows_second_of (continues _) ?_ ?_ ?_ ?_)).trans ?_
    · omega
    · omega
    · omega
    · omega
    · rw [back (by rw [lead, low]; omega)]
  split
  · have lead := byte_value (show c.toNat / 4096 % 16 + 0xe0 < 256 by omega)
    have next := tail (c.toNat / 64)
    refine (pieces_three rest (by omega) (allows_second_of (continues _) ?_ ?_ ?_ ?_)
      (continues _)).trans ?_
    · omega
    · omega
    · omega
    · omega
    · rw [back (by rw [lead, low, low]; omega)]
  · have lead := byte_value (show c.toNat / 262144 % 8 + 0xf0 < 256 by omega)
    have next := tail (c.toNat / 4096)
    refine (pieces_four rest (by omega) (allows_second_of (continues _) ?_ ?_ ?_ ?_)
      (continues _) (continues _)).trans ?_
    · omega
    · omega
    · omega
    · omega
    · rw [back (by rw [lead, low, low, low]; omega)]

theorem pieces_of_chars (chars : List Char) :
    utf8Pieces (chars.flatMap String.utf8EncodeChar) = chars.map .char := by
  induction chars with
  | nil => rfl
  | cons c rest ih => rw [List.flatMap_cons, pieces_of_char, ih, List.map_cons]

theorem read_pieces_chars (offset : Nat) (chars : List Char) :
    readPieces offset (chars.map .char) = .ok chars := by
  induction chars generalizing offset with
  | nil => rfl
  | cons c rest ih => rw [List.map_cons, readPieces, ih]; rfl

/-- A text comes back from its bytes. -/
theorem of_utf8_utf8 (text : String) : ofUtf8 (utf8 text) = .ok text := by
  rw [ofUtf8, utf8, pieces_of_chars, read_pieces_chars]
  exact congrArg Except.ok String.ofList_toList

/-! ## Texts in ASCII -/

theorem ascii_char_bytes {c : Char} (ascii : c.toNat < 0x80) :
    String.utf8EncodeChar c = [UInt8.ofNat c.toNat] := by
  rw [char_bytes_eq, if_pos (Nat.le_of_lt_succ ascii)]

theorem utf8_of_ascii {text : String} (ascii : ∀ c ∈ text.toList, c.toNat < 0x80) :
    utf8 text = text.toList.map fun c => UInt8.ofNat c.toNat := by
  unfold utf8
  generalize text.toList = chars at ascii
  induction chars with
  | nil => rfl
  | cons c rest ih =>
      rw [List.forall_mem_cons] at ascii
      rw [List.flatMap_cons, ascii_char_bytes ascii.1, ih ascii.2]
      rfl

theorem utf8_append (front back : String) : utf8 (front ++ back) = utf8 front ++ utf8 back := by
  rw [utf8, String.toList_append, List.flatMap_append]
  rfl

end FixtureImages.Text
