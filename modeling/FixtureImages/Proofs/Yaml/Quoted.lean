import FixtureImages.Proofs.Yaml.Runs
import FixtureImages.Yaml.Token.Scalar

/-!
# Reading between quotes

What is read between quotes, one piece after the other: characters, doubled quotes, spaces, line
breaks with the indentation behind them, and escapes.
-/

namespace FixtureImages.Yaml

set_option autoImplicit false

variable {double : Bool} {cursor next after : Cursor} {text : List Char}

/-- From a cursor between quotes a text is read up to and including the closing quote. -/
def QuotedReads (double : Bool) (cursor : Cursor) (text : List Char) (after : Cursor) : Prop :=
  ∀ fuel, cursor.rest.length < fuel → quotedRest double fuel cursor = .ok (text, after)

/-! ## White space -/

/-- A line break that is read as it is written, or as a line feed. -/
def KeptBreak (c : Char) : Prop := isTextBreak c = true ∧ c ≠ '\u0085'

theorem KeptBreak.apart {c : Char} (kept : KeptBreak c) (d : Char) (other : isBreak d = false) :
    c ≠ d := by
  rintro rfl
  rw [is_break_of_text_break kept.1] at other
  cases other

theorem KeptBreak.allowed {c : Char} (kept : KeptBreak c) : isAllowed c = true := by
  obtain ⟨breaks, -⟩ := kept
  simp only [isTextBreak, Bool.or_eq_true, beq_iff_eq] at breaks
  rcases breaks with ((rfl | rfl) | rfl) | rfl <;> rfl

/-- Line breaks between quotes and the indentation behind them, in front of something visible. -/
theorem quoted_breaks_read {breaks : List Char} (kept : ∀ c ∈ breaks, KeptBreak c) {indent : Nat}
    (inner : 0 < indent) {c : Char} (visible : isGapOrEnd c = false) {rest : List Char} (fuel : Nat)
    (here : cursor.rest = breaks ++ (List.replicate indent ' ' ++ c :: rest))
    (enough : cursor.rest.length < fuel) :
    quotedBreaks fuel cursor = .ok (breaks, cursor.skip (breaks.length + indent)) := by
  obtain ⟨tab, space, noBreak, -⟩ := visible_parts visible
  induction breaks generalizing fuel cursor with
  | nil =>
      obtain ⟨fuel, rfl⟩ := Nat.exists_eq_succ_of_ne_zero (by omega : fuel ≠ 0)
      obtain ⟨count, rfl⟩ := Nat.exists_eq_succ_of_ne_zero (by omega : indent ≠ 0)
      rw [List.nil_append] at here
      have mark := Cursor.at_document_mark_eq_false here (by decide) (by decide)
      have run : cursor.run (fun c => c == ' ' || c == '\t') = _ :=
        Cursor.run_spaces rfl here (fun d first => by
          cases first
          simp [space, tab])
      have peek : (cursor.skip (count + 1)).peek = c := by
        apply Cursor.peek_cons
        rw [Cursor.skip_rest, here, List.drop_left' (by rw [List.length_replicate])]
      simp only [quotedBreaks, mark, Cursor.skipWhile, run, peek, noBreak, Bool.false_eq_true,
        if_false, List.length_nil, Nat.zero_add]
  | cons b breaks ih =>
      obtain ⟨fuel, rfl⟩ := Nat.exists_eq_succ_of_ne_zero (by omega : fuel ≠ 0)
      have first := kept b List.mem_cons_self
      rw [List.cons_append] at here
      have mark := Cursor.at_document_mark_eq_false here (first.apart _ rfl) (first.apart _ rfl)
      have stays : cursor.skipWhile (fun c => c == ' ' || c == '\t') = cursor := by
        have run : cursor.run (fun c => c == ' ' || c == '\t') = (List.replicate 0 ' ', _) :=
          Cursor.run_spaces rfl here (fun d first' => by
            cases first'
            simp [first.apart ' ' rfl, first.apart '\t' rfl])
        rw [Cursor.skipWhile, run]
        rfl
      have behind : cursor.next.rest = breaks ++ (List.replicate indent ' ' ++ c :: rest) := by
        rw [Cursor.next_rest, here, List.tail_cons]
      have shorter : cursor.next.rest.length < fuel := by
        rw [here, List.length_cons] at enough
        rw [behind]
        omega
      have more := ih (fun d member => kept d (List.mem_cons_of_mem _ member)) fuel behind shorter
      simp only [quotedBreaks, mark, stays, Cursor.peek_cons here,
        is_break_of_text_break first.1, Cursor.line_break_eq here first.1 first.2, more,
        Bool.false_eq_true, if_false, if_true]
      rw [List.length_cons, Nat.add_right_comm, Cursor.skip_succ]
      rfl

/-- Spaces between quotes, in front of something visible. -/
theorem quoted_gap_spaces {count : Nat} {c : Char} (visible : isGapOrEnd c = false)
    {rest : List Char} (here : cursor.rest = List.replicate count ' ' ++ c :: rest) :
    quotedGap cursor = .ok (List.replicate count ' ', cursor.skip count) := by
  obtain ⟨tab, space, noBreak, noEnd⟩ := visible_parts visible
  have run : cursor.run (fun c => c == ' ' || c == '\t') = _ :=
    Cursor.run_spaces rfl here (fun d first => by
      cases first
      simp [space, tab])
  have peek : (cursor.skip count).peek = c := by
    apply Cursor.peek_cons
    rw [Cursor.skip_rest, here, List.drop_left' (by rw [List.length_replicate])]
  simp only [quotedGap, run, peek, noBreak, noEnd, Bool.false_eq_true, if_false]

/-- What line breaks between quotes stand for: a line feed alone for a space, one in front of others
for nothing. -/
def unfolded (first : Char) (breaks : List Char) : List Char :=
  if first ≠ '\n' then first :: breaks else if breaks.isEmpty then [' '] else breaks

theorem quoted_gap_breaks {first : Char} {breaks : List Char} (kept : ∀ c ∈ first :: breaks, KeptBreak c)
    {indent : Nat} (inner : 0 < indent) {c : Char} (visible : isGapOrEnd c = false)
    {rest : List Char}
    (here : cursor.rest = first :: (breaks ++ (List.replicate indent ' ' ++ c :: rest))) :
    quotedGap cursor =
      .ok (unfolded first breaks, cursor.skip (breaks.length + indent + 1)) := by
  have own := kept first List.mem_cons_self
  have run : cursor.run (fun c => c == ' ' || c == '\t') = (List.replicate 0 ' ', cursor) :=
    Cursor.run_spaces rfl here (fun d head => by
      cases head
      simp [own.apart ' ' rfl, own.apart '\t' rfl])
  have noEnd : isEnd first = false := by
    rw [isEnd, beq_eq_false_iff_ne]
    exact own.apart _ rfl
  have behind : cursor.next.rest = breaks ++ (List.replicate indent ' ' ++ c :: rest) := by
    rw [Cursor.next_rest, here, List.tail_cons]
  have more := quoted_breaks_read (fun d member => kept d (List.mem_cons_of_mem _ member)) inner
    visible _ behind (Nat.lt_succ_self _)
  simp only [quotedGap, run, Cursor.peek_cons here, noEnd, is_break_of_text_break own.1,
    Cursor.line_break_eq here own.1 own.2, more, Bool.false_eq_true, if_false, if_true]
  rw [Cursor.skip_succ]
  by_cases feed : first = '\n'
  · subst feed
    rw [unfolded, if_neg (not_not_intro rfl)]
    cases breaks <;> rfl
  · have apart : ([first] != ['\n']) = true := by simpa using feed
    rw [unfolded, if_pos feed, apart]
    rfl

/-! ## One piece after the other -/

/-- A piece is read in front of the rest of the text when one round of reading reads it. -/
theorem QuotedReads.piece {piece more : List Char} (shorter : next.rest.length < cursor.rest.length)
    (round : ∀ fuel, quotedRest double (fuel + 1) cursor = do
      let (more, last) ← quotedRest double fuel next
      return (piece ++ more, last))
    (reads : QuotedReads double next more after) :
    QuotedReads double cursor (piece ++ more) after := by
  intro fuel enough
  obtain ⟨fuel, rfl⟩ := Nat.exists_eq_succ_of_ne_zero (by omega : fuel ≠ 0)
  rw [round, reads fuel (by omega)]
  rfl

/-- The quote that delimits a text. -/
def quoteMark (double : Bool) : Char := if double then '"' else '\''

theorem QuotedReads.close {rest : List Char} (here : cursor.rest = quoteMark double :: rest)
    (single : rest.head? ≠ some '\'') : QuotedReads double cursor [] cursor.next := by
  intro fuel enough
  obtain ⟨fuel, rfl⟩ := Nat.exists_eq_succ_of_ne_zero (by omega : fuel ≠ 0)
  cases double with
  | true => simp [quotedRest, Cursor.peek_cons here, quoteMark]
  | false =>
      have peek : (cursor.peekAt 1 == '\'') = false := by
        rw [Cursor.peekAt, here, beq_eq_false_iff_ne]
        cases rest with
        | nil => exact (by decide : '\x00' ≠ '\'')
        | cons c others =>
            rintro rfl
            exact single rfl
      simp [quotedRest, Cursor.peek_cons here, quoteMark, peek]

theorem QuotedReads.char {c : Char} {rest : List Char} (here : cursor.rest = c :: rest)
    (visible : isGapOrEnd c = false) (noQuote : c ≠ quoteMark double)
    (noEscape : double = true → c ≠ '\\') (reads : QuotedReads double cursor.next text after) :
    QuotedReads double cursor (c :: text) after := by
  have shorter : cursor.next.rest.length < cursor.rest.length := by
    rw [Cursor.next_rest, here]
    exact Nat.lt_succ_self _
  refine @QuotedReads.piece _ _ _ _ [c] _ shorter (fun fuel => ?_) reads
  cases double with
  | true =>
      have quote : (c == '"') = false := beq_eq_false_iff_ne.mpr noQuote
      have escape : (c == '\\') = false := beq_eq_false_iff_ne.mpr (noEscape rfl)
      simp only [quotedRest, Cursor.peek_cons here, visible, quote, escape]
      rfl
  | false =>
      have quote : (c == '\'') = false := beq_eq_false_iff_ne.mpr noQuote
      simp only [quotedRest, Cursor.peek_cons here, visible, quote]
      rfl

theorem QuotedReads.pair {rest : List Char} (here : cursor.rest = '\'' :: '\'' :: rest)
    (reads : QuotedReads false (cursor.skip 2) text after) :
    QuotedReads false cursor ('\'' :: text) after := by
  have shorter : (cursor.skip 2).rest.length < cursor.rest.length := by
    simp only [Cursor.skip_rest, here, List.drop_succ_cons, List.drop_zero, List.length_cons]
    omega
  refine @QuotedReads.piece _ _ _ _ ['\''] _ shorter (fun fuel => ?_) reads
  have peek : cursor.peekAt 1 = '\'' := by
    rw [Cursor.peekAt, here]
    rfl
  simp only [quotedRest, Cursor.peek_cons here, peek]
  rfl

theorem quoted_rest_gap {c : Char} {rest piece : List Char} (here : cursor.rest = c :: rest)
    (blank : isGapOrEnd c = true) (read : quotedGap cursor = .ok (piece, next)) (fuel : Nat) :
    quotedRest double (fuel + 1) cursor = do
      let (more, last) ← quotedRest double fuel next
      return (piece ++ more, last) := by
  have apart (d : Char) (visible : isGapOrEnd d = false) : (c == d) = false := by
    rw [beq_eq_false_iff_ne]
    rintro rfl
    rw [visible] at blank
    cases blank
  simp only [quotedRest, Cursor.peek_cons here, blank, read, apart '"' rfl, apart '\'' rfl,
    apart '\\' rfl, Bool.and_false, Bool.false_eq_true, if_false, if_true]
  rfl

theorem QuotedReads.gap {c : Char} {rest piece : List Char} (here : cursor.rest = c :: rest)
    (blank : isGapOrEnd c = true) (read : quotedGap cursor = .ok (piece, next))
    (shorter : next.rest.length < cursor.rest.length) (reads : QuotedReads double next text after) :
    QuotedReads double cursor (piece ++ text) after :=
  QuotedReads.piece shorter (quoted_rest_gap here blank read) reads

/-- One more space in front of spaces is read with them. -/
theorem QuotedReads.space {count : Nat} {c : Char} {rest : List Char} (visible : isGapOrEnd c = false)
    (here : cursor.rest = ' ' :: (List.replicate count ' ' ++ c :: rest))
    (reads : QuotedReads double cursor.next text after) :
    QuotedReads double cursor (' ' :: text) after := by
  have all : cursor.rest = List.replicate (count + 1) ' ' ++ c :: rest := here
  have gap := quoted_gap_spaces visible all
  have behind : cursor.next.rest = List.replicate count ' ' ++ c :: rest := by
    rw [Cursor.next_rest, here, List.tail_cons]
  cases count with
  | zero =>
      have shorter : (cursor.skip 1).rest.length < cursor.rest.length := by
        rw [Cursor.skip_one, behind, here]
        exact Nat.lt_succ_self _
      exact QuotedReads.gap here rfl gap shorter reads
  | succ count =>
      intro fuel enough
      obtain ⟨fuel, rfl⟩ := Nat.exists_eq_succ_of_ne_zero (by omega : fuel ≠ 0)
      have later := reads (fuel + 1) (by
        rw [behind]
        rw [here, List.length_cons] at enough
        omega)
      rw [quoted_rest_gap behind rfl (quoted_gap_spaces visible behind)] at later
      rw [quoted_rest_gap here rfl gap, Cursor.skip_succ]
      cases read : quotedRest double fuel (cursor.next.skip (count + 1)) with
      | error fault =>
          rw [read] at later
          cases later
      | ok result =>
          rw [read] at later
          cases later
          rfl

theorem QuotedReads.escape {rest piece : List Char} (here : cursor.rest = '\\' :: rest)
    (read : Yaml.escape cursor.next = .ok (piece, next))
    (shorter : next.rest.length < cursor.rest.length) (reads : QuotedReads true next text after) :
    QuotedReads true cursor (piece ++ text) after := by
  refine QuotedReads.piece shorter (fun fuel => ?_) reads
  simp only [quotedRest, Cursor.peek_cons here, read]
  rfl

theorem quoted_scalar_read {rest : List Char} (here : cursor.rest = quoteMark double :: rest)
    (reads : QuotedReads double cursor.next text after) :
    quotedScalar double cursor = .ok (String.ofList text, after) := by
  have enough : cursor.next.rest.length < cursor.rest.length + 1 := by
    rw [Cursor.next_rest, here, List.tail_cons, List.length_cons]
    omega
  rw [quotedScalar, reads _ enough]
  rfl

end FixtureImages.Yaml
