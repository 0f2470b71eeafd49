import FixtureImages.Proofs.Yaml.Cursor

/-!
# What a pen adds

Every move of a pen adds characters behind those written before. A pen on a used line goes to a
column by a line break and spaces, one on a fresh line by spaces alone.
-/

namespace FixtureImages.Yaml

set_option autoImplicit false

namespace Pen

/-- The pen behind a piece of text is one that has written this piece further. -/
def Wrote (before : Pen) (piece : List Char) (after : Pen) : Prop :=
  after.written = piece.reverse ++ before.written

theorem Wrote.refl (pen : Pen) : pen.Wrote [] pen := rfl

theorem Wrote.trans {first second third : Pen} {piece more : List Char}
    (one : first.Wrote piece second) (other : second.Wrote more third) :
    first.Wrote (piece ++ more) third := by
  unfold Wrote at *
  rw [other, one, List.reverse_append, List.append_assoc]

theorem put_wrote (chars : List Char) (pen : Pen) : pen.Wrote chars (pen.put chars) := rfl

theorem close_mark_wrote (chars : List Char) (pen : Pen) :
    pen.Wrote chars (pen.closeMark chars) := rfl

/-- White space is put before a mark unless some was written last. -/
def spacing (pen : Pen) : List Char := if pen.gap then [] else [' ']

theorem mark_wrote (chars : List Char) (pen : Pen) :
    pen.Wrote (pen.spacing ++ chars) (pen.mark chars) := by
  unfold Wrote mark spacing put
  cases pen.gap <;> simp

theorem entry_mark_wrote (c : Char) (pen : Pen) :
    pen.Wrote (pen.spacing ++ [c]) (pen.entryMark c) := by
  unfold Wrote entryMark spacing put
  cases pen.gap <;> simp

theorem entry_mark_eq {pen : Pen} (gap : pen.gap = true) (c : Char) :
    pen.entryMark c = ⟨c :: pen.written, pen.column + 1, false, pen.fresh⟩ := by
  unfold entryMark put
  rw [gap]
  rfl

/-! ## Columns -/

theorem to_column_break {pen : Pen} {column : Nat}
    (used : pen.fresh = false ∨ column < pen.column) :
    pen.toColumn column =
      ⟨List.replicate column ' ' ++ '\n' :: pen.written, column, true, true⟩ := by
  have breaks : (!pen.fresh || decide (column < pen.column) ||
      (pen.column == column && !pen.gap)) = true := by
    rcases used with used | far
    · simp [used]
    · simp [far]
  unfold toColumn
  simp only [breaks, if_true, breakLine]
  cases column with
  | zero => rfl
  | succ column => simp [put]

theorem to_column_pad {pen : Pen} {column : Nat} (fresh : pen.fresh = true)
    (near : pen.column < column) :
    pen.toColumn column =
      ⟨List.replicate (column - pen.column) ' ' ++ pen.written, column, true, true⟩ := by
  have stays : (!pen.fresh || decide (column < pen.column) ||
      (pen.column == column && !pen.gap)) = false := by
    rw [fresh, decide_eq_false (by omega), show (pen.column == column) = false by simp; omega]
    rfl
  unfold toColumn
  simp only [stays, Bool.false_eq_true, if_false, near, if_true, put]
  rw [List.reverse_replicate, fresh]
  simp only [List.length_replicate, mk.injEq, true_and, and_true]
  omega

theorem continue_at_eq {pen : Pen} {column : Nat} (used : pen.fresh = false) :
    pen.continueAt column =
      ⟨List.replicate column ' ' ++ '\n' :: pen.written, column, false, false⟩ := by
  unfold continueAt
  rw [to_column_break (.inl used)]

theorem wrote_new_line {before after : Pen} {column : Nat}
    (written : after.written = List.replicate column ' ' ++ '\n' :: before.written) :
    before.Wrote (newLine column) after := by
  unfold Wrote newLine
  rw [written, List.reverse_cons, List.reverse_replicate, List.append_assoc]
  rfl

theorem to_column_wrote {pen : Pen} {column : Nat}
    (used : pen.fresh = false ∨ column < pen.column) :
    pen.Wrote (newLine column) (pen.toColumn column) :=
  wrote_new_line (by rw [to_column_break used])

theorem continue_at_wrote {pen : Pen} {column : Nat} (used : pen.fresh = false) :
    pen.Wrote (newLine column) (pen.continueAt column) :=
  wrote_new_line (by rw [continue_at_eq used])

end Pen

end FixtureImages.Yaml
