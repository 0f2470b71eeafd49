import FixtureImages.Proofs.Yaml.SingleQuotes

/-!
# Texts in double quotes read back

Between double quotes, characters are escaped by a letter or by their number, and lines are ended by
a backslash, after which a space needs a backslash of its own. All of it reads as the text that was
written.
-/

namespace FixtureImages.Yaml

set_option autoImplicit false

/-! ## Escapes -/

theorem capital_hex_digits_succ (width number : Nat) :
    capitalHexDigits (width + 1) number =
      capitalHexDigits width (number / 16) ++ [(Text.hexDigit (number % 16)).toUpper] := by
  simp [capitalHexDigits, Text.hexDigits]

theorem hex_value_append (digits : List Char) (c : Char) :
    hexValue (digits ++ [c]) = hexValue digits * 16 + (baseDigit? 16 c).getD 0 := by
  rw [hexValue, List.foldl_append]
  rfl

/-- Digits enough for a number have its value. -/
theorem capital_hex_digits_spec (width : Nat) {number : Nat} (fits : number < Nat.pow 16 width) :
    (capitalHexDigits width number).length = width ∧
      (∀ c ∈ capitalHexDigits width number, isHexDigit c = true ∧ isAsciiText c = true) ∧
      hexValue (capitalHexDigits width number) = number := by
  have digits : ∀ digit < 16, isHexDigit (Text.hexDigit digit).toUpper = true ∧
      isAsciiText (Text.hexDigit digit).toUpper = true ∧
      baseDigit? 16 (Text.hexDigit digit).toUpper = some digit := by decide
  induction width generalizing number with
  | zero =>
      have none : number = 0 := Nat.lt_one_iff.mp fits
      subst none
      exact ⟨rfl, by simp [capitalHexDigits, Text.hexDigits], rfl⟩
  | succ width ih =>
      have fewer : number / 16 < Nat.pow 16 width := Nat.div_lt_of_lt_mul (by
        rwa [Nat.mul_comm])
      obtain ⟨length, all, value⟩ := ih fewer
      obtain ⟨hex, ascii, digit⟩ := digits (number % 16) (Nat.mod_lt _ (by decide))
      rw [capital_hex_digits_succ]
      refine ⟨by rw [List.length_append, length]; rfl, ?_, ?_⟩
      · intro c member
        rcases List.mem_append.mp member with early | last
        · exact all c early
        · rw [List.mem_singleton.mp last]
          exact ⟨hex, ascii⟩
      · rw [hex_value_append, value, digit, Option.getD_some]
        omega

/-- The number of a character lies below that of the last one, and outside of the surrogates. -/
theorem char_range (c : Char) : (c.toNat < 0xd800 ∨ 0xdfff < c.toNat) ∧ c.toNat < 0x110000 := by
  have valid := c.valid
  simp only [UInt32.isValidChar, Nat.isValidChar] at valid
  simp only [Char.toNat]
  omega

theorem char_of_code_eq (c : Char) : charOfCode c.toNat = c := by
  have noSurrogate : ¬(0xd800 ≤ c.toNat ∧ c.toNat ≤ 0xdfff) := by
    have := (char_range c).1
    omega
  rw [charOfCode, if_neg (by simpa using noSurrogate), Char.ofNat_toNat]

/-- An escape by number reads as the character. -/
theorem numbered_escape_read {sign c : Char} {width : Nat} (wide : escapeWidth? sign = some width)
    (unnamed : simpleEscape? sign = none) (fits : c.toNat < Nat.pow 16 width) {cursor : Cursor}
    {rest : List Char} (here : cursor.rest = sign :: (capitalHexDigits width c.toNat ++ rest)) :
    escape cursor = .ok ([c], cursor.skip (width + 1)) := by
  obtain ⟨length, all, value⟩ := capital_hex_digits_spec width fits
  have digits : cursor.next.rest.take width = capitalHexDigits width c.toNat := by
    rw [Cursor.next_rest, here, List.tail_cons, List.take_left' length]
  have hex : (capitalHexDigits width c.toNat).all isHexDigit = true :=
    List.all_eq_true.mpr fun d member => (all d member).1
  have bound := (char_range c).2
  simp only [escape, Cursor.peek_cons here, unnamed, wide, digits, length, hex, value,
    char_of_code_eq]
  rw [if_neg (by simp), if_neg (by omega), if_neg (by omega)]

/-- How a character is escaped: by a letter, or by its number. -/
theorem escaped_form (c : Char) :
    (∃ sign, escaped c = ['\\', sign] ∧ simpleEscape? sign = some c ∧ isAsciiText sign = true) ∨
    (∃ sign width, escaped c = '\\' :: sign :: capitalHexDigits width c.toNat ∧
      escapeWidth? sign = some width ∧ simpleEscape? sign = none ∧ isAsciiText sign = true ∧
      c.toNat < Nat.pow 16 width) := by
  have range := (char_range c).2
  unfold escaped
  split
  all_goals first
    | exact .inl ⟨_, rfl, rfl, rfl⟩
    | skip
  split
  · rename_i byte
    exact .inr ⟨'x', 2, rfl, rfl, rfl, rfl, Nat.lt_of_le_of_lt byte (by decide)⟩
  · split
    · rename_i short
      exact .inr ⟨'u', 4, rfl, rfl, rfl, rfl, Nat.lt_of_le_of_lt short (by decide)⟩
    · exact .inr ⟨'U', 8, rfl, rfl, rfl, rfl, Nat.lt_trans range (by decide)⟩

theorem escaped_ascii (c : Char) : ∀ d ∈ escaped c, isAsciiText d = true := by
  rcases escaped_form c with ⟨sign, form, -, ascii⟩ | ⟨sign, width, form, -, -, ascii, fits⟩
  · rw [form]
    simp only [List.forall_mem_cons]
    exact ⟨rfl, ascii, by simp⟩
  · rw [form]
    simp only [List.forall_mem_cons]
    exact ⟨rfl, ascii, fun d member => ((capital_hex_digits_spec width fits).2.1 d member).2⟩

/-- An escaped character is read from behind its backslash. -/
theorem escaped_read {c : Char} {cursor : Cursor} {rest : List Char}
    (here : cursor.rest = escaped c ++ rest) :
    escape cursor.next = .ok ([c], cursor.skip (escaped c).length) := by
  rcases escaped_form c with ⟨sign, form, named, -⟩ | ⟨sign, width, form, wide, unnamed, -, fits⟩
  · rw [form] at here ⊢
    have behind : cursor.next.rest = sign :: rest := by
      rw [Cursor.next_rest, here]
      rfl
    simp only [escape, Cursor.peek_cons behind, named]
    rfl
  · rw [form] at here ⊢
    have behind : cursor.next.rest = sign :: (capitalHexDigits width c.toNat ++ rest) := by
      rw [Cursor.next_rest, here]
      rfl
    rw [numbered_escape_read wide unnamed fits behind, List.length_cons, List.length_cons,
      (capital_hex_digits_spec width fits).1]
    rfl

/-! ## Pieces of a text -/

/-- What is written for the characters of a text: it is read as the text, and it begins with
something visible, or with spaces when the text does. -/
structure DoubleQuoted (text piece : List Char) extends QuotedPiece true text piece where
  opens : ∀ rest, ∃ count c others,
    piece ++ '"' :: rest = List.replicate count ' ' ++ c :: others ∧ isGapOrEnd c = false ∧
      (text.head? ≠ some ' ' → count = 0)

variable {text piece : List Char}

theorem DoubleQuoted.nil : DoubleQuoted [] [] := by
  refine ⟨⟨by simp, fun cursor rest here single => ?_⟩, fun rest => ⟨0, '"', rest, rfl, rfl, fun _ => rfl⟩⟩
  exact QuotedReads.close here single

/-- Something visible in front of what is written for the rest of a text. -/
theorem DoubleQuoted.append {front lead : List Char} (more : DoubleQuoted text piece) {c : Char}
    {others : List Char} (form : front = c :: others) (visible : isGapOrEnd c = false)
    (allowed : ∀ d ∈ front, isAllowed d = true)
    (reads : ∀ (cursor after : Cursor) (tail : List Char),
      cursor.rest = front ++ (piece ++ '"' :: tail) →
        QuotedReads true (cursor.skip front.length) text after →
          QuotedReads true cursor (lead ++ text) after) :
    DoubleQuoted (lead ++ text) (front ++ piece) := by
  refine ⟨⟨?_, ?_⟩, fun rest => ⟨0, c, others ++ (piece ++ '"' :: rest), ?_, visible, fun _ => rfl⟩⟩
  · intro d member
    rcases List.mem_append.mp member with first | behind
    · exact allowed d first
    · exact more.allowed d behind
  · intro cursor tail here single
    rw [List.append_assoc] at here
    refine reads cursor _ tail here ?_
    have behind := more.reads _ tail (Cursor.skip_past here) single
    rwa [← Cursor.skip_add, ← Nat.add_assoc, ← List.length_append] at behind
  · rw [form, List.append_assoc]
    rfl

theorem ascii_allowed {c : Char} (ascii : isAsciiText c = true) : isAllowed c = true := by
  rw [isAsciiText] at ascii
  simp [isAllowed, ascii]

/-- A character that stands between double quotes as it is. -/
theorem unescaped_parts {wide : Bool} {c : Char} (stands : standsUnescaped wide c = true)
    (noSpace : c ≠ ' ') :
    isGapOrEnd c = false ∧ isAllowed c = true ∧ c ≠ '"' ∧ c ≠ '\\' ∧ Solid c := by
  unfold standsUnescaped at stands
  split at stands
  · cases stands
  rename_i marks
  simp only [Bool.or_eq_true, beq_iff_eq, not_or] at marks
  obtain ⟨⟨⟨⟨quote, escape⟩, line⟩, paragraph⟩, order⟩ := marks
  have range : (32 ≤ c.toNat ∧ c.toNat ≤ 126) ∨ 160 ≤ c.toNat := by
    simp only [Bool.or_eq_true, Bool.and_eq_true, decide_eq_true_eq] at stands
    rcases stands with ascii | ⟨-, low | high⟩
    · exact .inl (ascii_text_range ascii)
    · exact .inr low.1
    · exact .inr (Nat.le_trans (by decide) high.1)
  have apart (d : Char) (outside : d.toNat < 32 ∨ (126 < d.toNat ∧ d.toNat < 160)) : c ≠ d := by
    rintro rfl
    omega
  have noBreak : isBreak c = false := by
    simp [isBreak, apart '\n' (by decide), apart '\r' (by decide), apart '\u0085' (by decide), line,
      paragraph]
  refine ⟨?_, ?_, quote, escape, noBreak, order⟩
  · simp [isGapOrEnd, isSpaceOrEnd, isBreakOrEnd, isEnd, noBreak, noSpace, apart '\t' (by decide),
      apart '\x00' (by decide)]
  · simp only [Bool.or_eq_true, Bool.and_eq_true, decide_eq_true_eq] at stands
    rcases stands with ascii | ⟨-, wide⟩
    · exact ascii_allowed ascii
    · simp only [isAllowed, Bool.or_eq_true, Bool.and_eq_true, decide_eq_true_eq]
      tauto

theorem DoubleQuoted.char {wide : Bool} {c : Char} (more : DoubleQuoted text piece)
    (stands : standsUnescaped wide c = true) (noSpace : c ≠ ' ') :
    DoubleQuoted (c :: text) (c :: piece) := by
  obtain ⟨visible, allowed, noQuote, noEscape, -⟩ := unescaped_parts stands noSpace
  refine @DoubleQuoted.append _ _ [c] [c] more c [] rfl visible (by simpa using allowed) ?_
  intro cursor after tail here reads
  exact QuotedReads.char here visible noQuote (fun _ => noEscape) reads

theorem DoubleQuoted.escaped (more : DoubleQuoted text piece) (c : Char) :
    DoubleQuoted (c :: text) (Yaml.escaped c ++ piece) := by
  obtain ⟨sign, others, form⟩ : ∃ sign others, Yaml.escaped c = '\\' :: sign :: others := by
    rcases escaped_form c with ⟨sign, form, -⟩ | ⟨sign, width, form, -⟩
    · exact ⟨sign, [], form⟩
    · exact ⟨sign, _, form⟩
  refine @DoubleQuoted.append _ _ _ [c] more _ _ form rfl (fun d member => ascii_allowed (escaped_ascii c d member)) ?_
  intro cursor after tail here reads
  have read := escaped_read here
  have shorter := Cursor.skip_shorter here (by rw [form]; exact List.cons_ne_nil _ _)
  rw [form, List.cons_append] at here
  exact QuotedReads.escape here read shorter reads

theorem DoubleQuoted.space (more : DoubleQuoted text piece) :
    DoubleQuoted (' ' :: text) (' ' :: piece) := by
  refine ⟨⟨?_, ?_⟩, ?_⟩
  · simp only [List.forall_mem_cons]
    exact ⟨rfl, more.allowed⟩
  · intro cursor rest here single
    obtain ⟨count, c, others, next, visible, -⟩ := more.opens rest
    have behind := more.reads cursor.next rest (by rw [Cursor.next_rest, here]; rfl) single
    have form : cursor.rest = ' ' :: (List.replicate count ' ' ++ c :: others) := by
      rw [here, ← next]
      rfl
    exact QuotedReads.space visible form behind
  · intro rest
    obtain ⟨count, c, others, next, visible, -⟩ := more.opens rest
    exact ⟨count + 1, c, others, by rw [List.cons_append, next]; rfl, visible,
      fun apart => absurd rfl apart⟩

theorem DoubleQuoted.unescaped {wide : Bool} {c : Char} (more : DoubleQuoted text piece)
    (stands : standsUnescaped wide c = true) : DoubleQuoted (c :: text) (c :: piece) := by
  by_cases space : c = ' '
  · rw [space]
    exact more.space
  · exact more.char stands space

/-- A space with a backslash of its own. -/
theorem DoubleQuoted.keptSpace (more : DoubleQuoted text piece) :
    DoubleQuoted (' ' :: text) (['\\', ' '] ++ piece) := by
  refine @DoubleQuoted.append _ _ _ [' '] more _ _ rfl rfl (by simp; decide) ?_
  intro cursor after tail here reads
  have behind : cursor.next.peek = ' ' := by
    apply Cursor.peek_cons
    rw [Cursor.next_rest, here]
    rfl
  have read : escape cursor.next = .ok ([' '], cursor.skip 2) := by
    simp only [Yaml.escape, behind]
    rfl
  exact QuotedReads.escape here read (Cursor.skip_shorter here (List.cons_ne_nil _ _)) reads

/-- What begins with something visible, whatever comes behind it. -/
def Opens (piece : List Char) : Prop :=
  ∀ rest, ∃ c others, piece ++ '"' :: rest = c :: others ∧ isGapOrEnd c = false

theorem DoubleQuoted.visible (quoted : DoubleQuoted text piece) (apart : text.head? ≠ some ' ') :
    Opens piece := by
  intro rest
  obtain ⟨count, c, others, next, visible, none⟩ := quoted.opens rest
  rw [none apart] at next
  exact ⟨c, others, next, visible⟩

/-- A line that is ended by a backslash, in front of something visible. -/
theorem DoubleQuoted.fold (more : DoubleQuoted text piece) {indent : Nat} (inner : 0 < indent)
    (opens : Opens piece) : DoubleQuoted text ('\\' :: newLine indent ++ piece) := by
  refine @DoubleQuoted.append _ _ _ [] more _ _ rfl rfl ?_ ?_
  · simp only [List.forall_mem_cons]
    exact ⟨rfl, new_line_allowed indent⟩
  · intro cursor after tail here reads
    obtain ⟨c, others, form, visible⟩ := opens tail
    have feed : cursor.next.rest = '\n' :: (List.replicate indent ' ' ++ (piece ++ '"' :: tail)) := by
      rw [Cursor.next_rest, here]
      simp [newLine]
    have indentation : cursor.next.next.rest = [] ++ (List.replicate indent ' ' ++ c :: others) := by
      rw [Cursor.next_rest, feed, form]
      rfl
    have gap := quoted_breaks_read (by simp) inner visible _ indentation (Nat.lt_succ_self _)
    have read : escape cursor.next = .ok ([], cursor.skip (indent + 2)) := by
      have broke := Cursor.line_break_eq feed rfl (by decide)
      simp only [Yaml.escape, Cursor.peek_cons feed, broke, gap]
      rw [List.length_nil, Nat.zero_add]
      rfl
    have shorter := Cursor.skip_shorter here (List.cons_ne_nil _ _)
    have length : ('\\' :: newLine indent).length = indent + 2 := by
      rw [List.length_cons, new_line_length]
    rw [length] at reads shorter
    exact QuotedReads.escape here read shorter reads

/-! ## Whole texts -/

/-- What a text is between double quotes on one line. -/
def escapedText (wide : Bool) (text : List Char) : List Char :=
  text.flatMap fun c => if standsUnescaped wide c then [c] else escaped c

theorem escaped_text_cons (wide : Bool) (c : Char) (rest : List Char) :
    escapedText wide (c :: rest) =
      (if standsUnescaped wide c then [c] else escaped c) ++ escapedText wide rest :=
  List.flatMap_cons

/-- The rest of a text that is folded well at a column: where lines begin too far to the right for a
space to be kept at their start, no space but the last character comes behind an escaped one. -/
def FoldsWell (wide : Bool) (indent : Nat) (text : List Char) : Prop :=
  lineWidth ≤ indent → hasPair (fun c => !standsUnescaped wide c) isSpace text.dropLast = false

instance (wide : Bool) (indent : Nat) (text : List Char) : Decidable (FoldsWell wide indent text) :=
  inferInstanceAs (Decidable (_ → _))

theorem FoldsWell.rest {wide : Bool} {indent : Nat} {c : Char} {rest : List Char}
    (well : FoldsWell wide indent (c :: rest)) : FoldsWell wide indent rest := by
  intro far
  have none := well far
  match rest with
  | [] | [_] => rfl
  | d :: e :: others =>
      simp only [List.dropLast_cons_cons, hasPair, Bool.or_eq_false_iff] at none
      exact none.2

theorem FoldsWell.near {wide : Bool} {indent : Nat} {c : Char} {rest : List Char}
    (well : FoldsWell wide indent (c :: ' ' :: rest)) (escapes : standsUnescaped wide c = false) :
    indent < lineWidth ∨ rest = [] := by
  cases rest with
  | nil => exact .inr rfl
  | cons d others =>
      refine .inl (Nat.lt_of_not_le fun far => ?_)
      have none := well far
      simp [hasPair, escapes, isSpace] at none

theorem fold_escaped_eq {pen : Pen} (used : pen.fresh = false) (indent : Nat) (beforeSpace : Bool) :
    foldEscaped indent beforeSpace pen =
      (⟨List.replicate indent ' ' ++ '\n' :: '\\' :: pen.written, indent, false, false⟩ : Pen).put
        (if beforeSpace then ['\\'] else []) := by
  unfold foldEscaped
  rw [Pen.continue_at_eq (by exact used)]
  cases beforeSpace <;> rfl

theorem fold_escaped_used {pen : Pen} (used : pen.fresh = false) (indent : Nat) (beforeSpace : Bool) :
    (foldEscaped indent beforeSpace pen).fresh = false := by
  rw [fold_escaped_eq used]
  rfl

theorem fold_escaped_wrote {pen : Pen} (used : pen.fresh = false) (indent : Nat) (beforeSpace : Bool) :
    pen.Wrote ('\\' :: newLine indent ++ if beforeSpace then ['\\'] else [])
      (foldEscaped indent beforeSpace pen) := by
  rw [fold_escaped_eq used]
  cases beforeSpace <;> simp [Pen.Wrote, Pen.put, newLine]

/-- A space at the start of a line is written as it is when the line does not begin too far to the
right, and at the end of the text. -/
theorem escaped_chars_space {wide split after : Bool} {indent : Nat} {rest : List Char} {pen : Pen}
    (near : pen.column ≤ lineWidth ∨ rest = []) :
    escapedChars wide indent split false after (' ' :: rest) pen =
      escapedChars wide indent split false false rest (pen.put [' ']) := by
  have stands : standsUnescaped wide ' ' = true := by cases wide <;> decide
  have stays : (split && !false && !rest.isEmpty && (isSpace ' ' || after) &&
      decide (lineWidth < pen.column)) = false := by
    rcases near with near | rfl
    · rw [decide_eq_false (Nat.not_lt.mpr near), Bool.and_false]
    · simp
  rw [escapedChars, if_pos stands, stays, if_neg Bool.false_ne_true]

/-- What is written between two pens is read as the text, and is the text at once when lines are not
to be folded. -/
def WritesEscaped (wide split : Bool) (text : List Char) (before after : Pen) : Prop :=
  ∃ piece, DoubleQuoted text piece ∧ before.Wrote piece after ∧
    (split = false → piece = escapedText wide text)

section Steps

variable {wide split : Bool} {indent : Nat} {c : Char} {rest : List Char} {pen after : Pen}

theorem WritesEscaped.unescaped (stands : standsUnescaped wide c = true)
    (more : WritesEscaped wide split rest (pen.put [c]) after) :
    WritesEscaped wide split (c :: rest) pen after := by
  obtain ⟨piece, quoted, wrote, whole⟩ := more
  refine ⟨[c] ++ piece, quoted.unescaped stands, (Pen.put_wrote [c] pen).trans wrote, fun none => ?_⟩
  rw [whole none, escaped_text_cons, if_pos stands]

theorem WritesEscaped.escaped (escapes : standsUnescaped wide c = false)
    (more : WritesEscaped wide split rest (pen.put (Yaml.escaped c)) after) :
    WritesEscaped wide split (c :: rest) pen after := by
  obtain ⟨piece, quoted, wrote, whole⟩ := more
  refine ⟨Yaml.escaped c ++ piece, quoted.escaped c, (Pen.put_wrote _ pen).trans wrote, fun none => ?_⟩
  rw [whole none, escaped_text_cons, escapes, if_neg Bool.false_ne_true]

/-- A line is folded in front of a character that stands unescaped. -/
theorem WritesEscaped.foldUnescaped (inner : 0 < indent) (used : pen.fresh = false)
    (stands : standsUnescaped wide c = true)
    (more : WritesEscaped wide true rest ((foldEscaped indent (isSpace c) pen).put [c]) after) :
    WritesEscaped wide true (c :: rest) pen after := by
  obtain ⟨piece, quoted, wrote, -⟩ := more
  refine ⟨_, ?_, ((fold_escaped_wrote used indent (isSpace c)).trans (Pen.put_wrote [c] _)).trans wrote,
    fun none => by cases none⟩
  by_cases space : c = ' '
  · subst space
    have kept := quoted.keptSpace.fold inner fun rest => ⟨_, _, rfl, rfl⟩
    simpa [isSpace] using kept
  · have visible := (unescaped_parts stands space).1
    have kept := (quoted.char stands space).fold inner fun rest => ⟨_, _, rfl, visible⟩
    simpa [isSpace, space] using kept

/-- A line is folded behind an escaped character, with something else than a space behind it. -/
theorem WritesEscaped.foldEscaped (inner : 0 < indent) (used : pen.fresh = false)
    (apart : rest.head? ≠ some ' ')
    (more : WritesEscaped wide true rest
      (Yaml.foldEscaped indent false (pen.put (Yaml.escaped c))) after) :
    WritesEscaped wide true (c :: rest) pen after := by
  obtain ⟨piece, quoted, wrote, -⟩ := more
  have put : (pen.put (Yaml.escaped c)).fresh = false := used
  refine ⟨_, ?_, ((Pen.put_wrote (Yaml.escaped c) pen).trans
    (fold_escaped_wrote put indent false)).trans wrote, fun none => by cases none⟩
  simpa using (quoted.fold inner (quoted.visible apart)).escaped c

/-- A line is folded between an escaped character and a space, which then has a backslash. -/
theorem WritesEscaped.foldSpace (inner : 0 < indent) (used : pen.fresh = false)
    (more : WritesEscaped wide true rest
      ((Yaml.foldEscaped indent true (pen.put (Yaml.escaped c))).put [' ']) after) :
    WritesEscaped wide true (c :: ' ' :: rest) pen after := by
  obtain ⟨piece, quoted, wrote, -⟩ := more
  have put : (pen.put (Yaml.escaped c)).fresh = false := used
  refine ⟨_, ?_, (((Pen.put_wrote (Yaml.escaped c) pen).trans
    (fold_escaped_wrote put indent true)).trans (Pen.put_wrote [' '] _)).trans wrote,
    fun none => by cases none⟩
  have kept := (quoted.keptSpace.fold inner fun rest => ⟨_, _, rfl, rfl⟩).escaped c
  simpa using kept

end Steps

/-- The characters of a text are written so that they are read as the text, and at once when they are
not to be folded. -/
theorem escaped_chars_wrote {wide : Bool} {indent : Nat} (inner : 0 < indent) (split : Bool)
    (text : List Char) (first afterEscape : Bool) {pen : Pen} (used : pen.fresh = false)
    (well : split = true → FoldsWell wide indent (if first then text.tail else text)) :
    WritesEscaped wide split text pen (escapedChars wide indent split first afterEscape text pen) := by
  generalize size : text.length = length
  -- A fold in front of a space writes two characters of the text at once.
  induction length using Nat.strongRecOn generalizing text first afterEscape pen with
  | ind length ih =>
      cases text with
      | nil => exact ⟨[], .nil, .refl pen, fun _ => rfl⟩
      | cons c rest =>
          rw [List.length_cons] at size
          have next : split = true → FoldsWell wide indent rest := fun on => by
            cases first with
            | true => exact well on
            | false => exact (well on).rest
          unfold escapedChars
          dsimp only
          split
          · rename_i stands
            split
            · rename_i folds
              simp only [Bool.and_eq_true] at folds
              obtain rfl : split = true := folds.1.1.1.1
              exact .foldUnescaped inner used stands
                (ih rest.length (by omega) rest false false (fold_escaped_used used indent _) next rfl)
            · exact .unescaped stands (ih rest.length (by omega) rest false false used next rfl)
          · rename_i escapes
            rw [Bool.not_eq_true] at escapes
            have put : (pen.put (escaped c)).fresh = false := used
            split
            · rename_i folds
              simp only [Bool.and_eq_true] at folds
              obtain rfl : split = true := folds.1.1.1
              by_cases space : rest.head? = some ' '
              · obtain ⟨others, rfl⟩ := List.head?_eq_some_iff.mp space
                rw [List.length_cons] at size
                obtain rfl : first = false := by simpa using folds.1.1.2
                have near := (well rfl).near escapes
                have folded : (foldEscaped indent true (pen.put (escaped c))).column ≤ lineWidth ∨
                    others = [] := by
                  rw [fold_escaped_eq put]
                  exact near
                change WritesEscaped wide true (c :: ' ' :: others) pen (escapedChars wide indent true
                  false true (' ' :: others) (foldEscaped indent true (pen.put (escaped c))))
                rw [escaped_chars_space folded]
                exact .foldSpace inner used (ih others.length (by omega) others false false
                  (fold_escaped_used put indent true) (fun on => (next on).rest) rfl)
              · have plain : rest.head?.any isSpace = false := by
                  cases rest with
                  | nil => rfl
                  | cons d others => simpa [isSpace] using space
                rw [plain]
                exact .foldEscaped inner used space (ih rest.length (by omega) rest false true
                  (fold_escaped_used put indent false) next rfl)
            · exact .escaped escapes (ih rest.length (by omega) rest false true put next rfl)

theorem double_quoted_wrote {wide : Bool} {text : List Char} {indent : Nat} (inner : 0 < indent)
    (split : Bool) (well : split = true → FoldsWell wide indent text.tail) (pen : Pen) :
    ∃ piece, QuotedPiece true text piece ∧
      pen.Wrote (pen.spacing ++ '"' :: (piece ++ ['"'])) (writeDoubleQuoted wide indent split text pen) ∧
      (split = false → piece = escapedText wide text) := by
  obtain ⟨piece, quoted, wrote, whole⟩ := escaped_chars_wrote inner split text true false
    (show (pen.mark ['"']).fresh = false from rfl) well
  refine ⟨piece, quoted.toQuotedPiece, ?_, whole⟩
  have all := ((Pen.mark_wrote ['"'] pen).trans wrote).trans (Pen.close_mark_wrote ['"'] _)
  simpa [writeDoubleQuoted] using all

end FixtureImages.Yaml
