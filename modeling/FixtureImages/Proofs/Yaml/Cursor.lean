import FixtureImages.Yaml.Cursor
import FixtureImages.Yaml.Printer.Scalar

/-!
# Moving through a document

What a cursor stands at after it has moved over known characters: behind characters that end no line
it stands further on in the same line, and behind a line break at the start of the next one.
-/

namespace FixtureImages.Yaml

set_option autoImplicit false

/-- What is to hold of some characters is decided for one after the other. -/
theorem each_of_chars {holds : Char → Prop} [DecidablePred holds] {chars : List Char}
    (each : chars.all (fun c => decide (holds c)) = true) : ∀ c ∈ chars, holds c := by
  simpa using each

/-- A character that takes one column and ends no line. -/
def Solid (c : Char) : Prop := isBreak c = false ∧ c ≠ byteOrderMark

theorem solid_space : Solid ' ' := ⟨rfl, by decide⟩

theorem solid_spaces (count : Nat) : ∀ c ∈ List.replicate count ' ', Solid c := by
  intro c member
  rw [List.eq_of_mem_replicate member]
  exact solid_space

/-- A line break with indentation behind it. -/
def newLine (column : Nat) : List Char := '\n' :: List.replicate column ' '

theorem new_line_length (column : Nat) : (newLine column).length = column + 1 := by
  rw [newLine, List.length_cons, List.length_replicate]

theorem is_break_of_text_break {c : Char} (breaks : isTextBreak c = true) : isBreak c = true := by
  simp only [isTextBreak, Bool.or_eq_true, beq_iff_eq] at breaks
  rcases breaks with ((rfl | rfl) | rfl) | rfl <;> rfl

/-- A visible character is no white space and not the end. -/
theorem visible_parts {c : Char} (visible : isGapOrEnd c = false) :
    c ≠ '\t' ∧ c ≠ ' ' ∧ isBreak c = false ∧ isEnd c = false := by
  simpa [isGapOrEnd, isSpaceOrEnd, isBreakOrEnd] using visible

namespace Cursor

/-! ## Steps -/

theorem next_rest (cursor : Cursor) : cursor.next.rest = cursor.rest.tail := by
  unfold next
  split
  · rename_i none
    rw [none]
    rfl
  · rename_i c rest some
    rw [some]
    split <;> rfl

theorem next_line_le (cursor : Cursor) : cursor.line ≤ cursor.next.line := by
  unfold next
  split
  · exact Nat.le_refl _
  · split
    · exact Nat.le_succ _
    · exact Nat.le_refl _

theorem skip_zero (cursor : Cursor) : cursor.skip 0 = cursor := rfl

theorem skip_succ (count : Nat) (cursor : Cursor) :
    cursor.skip (count + 1) = cursor.next.skip count := rfl

theorem skip_one (cursor : Cursor) : cursor.skip 1 = cursor.next := rfl

theorem skip_add (first second : Nat) (cursor : Cursor) :
    cursor.skip (first + second) = (cursor.skip first).skip second := by
  induction first generalizing cursor with
  | zero => rw [Nat.zero_add, skip_zero]
  | succ first ih => rw [Nat.succ_add, skip_succ, ih, skip_succ]

@[simp] theorem skip_rest (count : Nat) (cursor : Cursor) :
    (cursor.skip count).rest = cursor.rest.drop count := by
  induction count generalizing cursor with
  | zero => rfl
  | succ count ih => rw [skip_succ, ih, next_rest, List.drop_tail]

theorem skip_line_le (count : Nat) (cursor : Cursor) :
    cursor.line ≤ (cursor.skip count).line := by
  induction count generalizing cursor with
  | zero => exact Nat.le_refl _
  | succ count ih => exact Nat.le_trans (next_line_le cursor) (ih cursor.next)

/-- Behind a part of the text the rest of it remains. -/
theorem skip_past {cursor : Cursor} {word rest : List Char} (text : cursor.rest = word ++ rest) :
    (cursor.skip word.length).rest = rest := by
  rw [skip_rest, text, List.drop_left]

/-- Behind a part of the text less remains. -/
theorem skip_shorter {cursor : Cursor} {word rest : List Char} (text : cursor.rest = word ++ rest)
    (some : word ≠ []) : (cursor.skip word.length).rest.length < cursor.rest.length := by
  have length := List.length_pos_iff.mpr some
  rw [skip_past text, text, List.length_append]
  omega

theorem next_solid {cursor : Cursor} {c : Char} {rest : List Char} (text : cursor.rest = c :: rest)
    (solid : Solid c) :
    cursor.next = ⟨rest, cursor.index + 1, cursor.line, cursor.column + 1⟩ := by
  obtain ⟨breaks, mark⟩ := solid
  simp only [isBreak, Bool.or_eq_false_iff] at breaks
  unfold next
  rw [text]
  simp [breaks, mark]

theorem skip_solid {cursor : Cursor} {word rest : List Char} (text : cursor.rest = word ++ rest)
    (solid : ∀ c ∈ word, Solid c) :
    cursor.skip word.length =
      ⟨rest, cursor.index + word.length, cursor.line, cursor.column + word.length⟩ := by
  induction word generalizing cursor with
  | nil =>
      cases cursor
      cases text
      rfl
  | cons c word ih =>
      rw [List.cons_append] at text
      have first := next_solid text (solid c List.mem_cons_self)
      rw [List.length_cons, skip_succ, first,
        ih rfl fun d member => solid d (List.mem_cons_of_mem _ member)]
      simp only [mk.injEq, true_and]
      omega

theorem next_break {cursor : Cursor} {c : Char} {rest : List Char} (text : cursor.rest = c :: rest)
    (breaks : isTextBreak c = true) : cursor.next = ⟨rest, cursor.index + 1, cursor.line + 1, 0⟩ := by
  simp only [isTextBreak, Bool.or_eq_true, beq_iff_eq] at breaks
  unfold next
  rw [text]
  rcases breaks with ((rfl | rfl) | rfl) | rfl <;> rfl

theorem skip_new_line {cursor : Cursor} {indent : Nat} {rest : List Char}
    (text : cursor.rest = newLine indent ++ rest) :
    cursor.skip (indent + 1) = ⟨rest, cursor.index + 1 + indent, cursor.line + 1, indent⟩ := by
  rw [newLine, List.cons_append] at text
  have first := next_break text rfl
  have behind : cursor.next.rest = List.replicate indent ' ' ++ rest := by rw [first]
  have spaces := skip_solid behind (solid_spaces indent)
  rw [List.length_replicate, first] at spaces
  rw [skip_succ, first, spaces]
  simp

/-! ## Looking ahead -/

theorem peek_eq {cursor : Cursor} {rest : List Char} (text : cursor.rest = rest) :
    cursor.peek = rest.headD '\x00' := by rw [peek, text]

theorem peek_cons {cursor : Cursor} {c : Char} {rest : List Char} (text : cursor.rest = c :: rest) :
    cursor.peek = c := by rw [peek, text, List.headD_cons]

theorem run_eq {cursor : Cursor} {accepts : Char → Bool} {word rest : List Char}
    (text : cursor.rest = word ++ rest) (all : ∀ c ∈ word, accepts c = true)
    (stops : ∀ c, rest.head? = some c → accepts c = false) :
    cursor.run accepts = (word, cursor.skip word.length) := by
  have taken : cursor.rest.takeWhile accepts = word := by
    rw [text, List.takeWhile_append_of_pos all]
    cases rest with
    | nil => simp
    | cons c rest => simp [stops c rfl]
  rw [run, taken]

/-- A run of indentation in front of something else. -/
theorem run_spaces {cursor : Cursor} {count : Nat} {rest : List Char} {accepts : Char → Bool}
    (space : accepts ' ' = true) (text : cursor.rest = List.replicate count ' ' ++ rest)
    (stops : ∀ c, rest.head? = some c → accepts c = false) :
    cursor.run accepts = (List.replicate count ' ', cursor.skip count) := by
  have all : ∀ c ∈ List.replicate count ' ', accepts c = true := by
    intro c member
    rwa [List.eq_of_mem_replicate member]
  have run := run_eq text all stops
  rwa [List.length_replicate] at run

theorem line_break_eq {cursor : Cursor} {c : Char} {rest : List Char}
    (text : cursor.rest = c :: rest) (breaks : isTextBreak c = true) (known : c ≠ '\u0085') :
    cursor.lineBreak = ([c], cursor.next) := by
  simp only [isTextBreak, Bool.or_eq_true, beq_iff_eq] at breaks
  unfold lineBreak
  rw [text]
  rcases breaks with ((rfl | rfl) | rfl) | rfl
  · rfl
  · exact absurd rfl known
  · rfl
  · rfl

theorem at_mark_eq_false {cursor : Cursor} {mark : Char}
    (apart : ∀ c, cursor.rest.head? = some c → c ≠ mark) : cursor.atMark mark = false := by
  have differs : (cursor.rest.take 3 == [mark, mark, mark]) = false := by
    cases text : cursor.rest with
    | nil => rfl
    | cons c rest =>
        have own := apart c (by rw [text]; rfl)
        simp [own]
  rw [atMark, differs, Bool.false_and]

theorem at_document_mark_eq_false {cursor : Cursor} {c : Char} {rest : List Char}
    (text : cursor.rest = c :: rest) (hyphen : c ≠ '-') (point : c ≠ '.') :
    cursor.atDocumentMark = false := by
  have head (mark : Char) (apart : c ≠ mark) : cursor.atMark mark = false := by
    apply at_mark_eq_false
    intro d first
    rw [text] at first
    cases first
    exact apart
  rw [atDocumentMark, head '-' hyphen, head '.' point]
  rfl

/-! ## Lines -/

/-- A text that goes on with something other than white space and comments, or ends. -/
def GoesOn (text : List Char) : Prop :=
  ∀ c, text.head? = some c → c ≠ ' ' ∧ c ≠ '#' ∧ Solid c

theorem GoesOn.peek {text : List Char} (goes : GoesOn text) {cursor : Cursor}
    (rest : cursor.rest = text) : cursor.peek ≠ ' ' ∧ cursor.peek ≠ '#' ∧ Solid cursor.peek := by
  cases text with
  | nil =>
      rw [peek_eq rest]
      exact ⟨by decide, by decide, by decide, by decide⟩
  | cons c others =>
      rw [peek_cons rest]
      exact goes c rfl

/-- A text with which a line may go on at a column: at the first column it does not begin with the
mark of a document. -/
structure LineStart (column : Nat) (text : List Char) : Prop where
  goesOn : GoesOn text
  noMark : column = 0 → ∀ cursor : Cursor, cursor.rest = text → cursor.atDocumentMark = false

/-- Behind the break of a new line there is no mark of a document. -/
theorem LineStart.no_mark {column : Nat} {text : List Char} (start : LineStart column text)
    {cursor : Cursor} (rest : cursor.rest = List.replicate column ' ' ++ text) :
    cursor.atDocumentMark = false := by
  cases column with
  | zero => exact start.noMark rfl cursor rest
  | succ column =>
      rw [List.replicate_succ, List.cons_append] at rest
      exact at_document_mark_eq_false rest (by decide) (by decide)

end Cursor

end FixtureImages.Yaml
