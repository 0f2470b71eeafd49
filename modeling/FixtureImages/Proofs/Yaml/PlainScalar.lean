import FixtureImages.Proofs.Yaml.Pen
import FixtureImages.Proofs.Yaml.Runs
import FixtureImages.Yaml.Token.Scalar

/-!
# Plain scalars read back

A plain text consists of words with spaces between them. A single space may be written as a line
break with indentation, which reads as a space again, and no word has a mark in it at which reading
would end too early.
-/

namespace FixtureImages.Yaml

set_option autoImplicit false

/-! ## Words -/

/-- A word of a plain text: characters without gaps, not like the start of a comment, and not ending
like a key. -/
structure PlainWord (word : List Char) : Prop where
  some : word ≠ []
  solid : ∀ c ∈ word, Solid c ∧ isGapOrEnd c = false
  noComment : word.head? ≠ .some '#'
  noKey : word.getLast? ≠ .some ':'

/-- Words with spaces between them. -/
inductive PlainRuns : List (List Char) → Prop
  | last {word : List Char} : PlainWord word → PlainRuns [word]
  | more {word : List Char} {rest : List (List Char)} (count : Nat) : PlainWord word →
      PlainRuns rest → PlainRuns (word :: List.replicate (count + 1) ' ' :: rest)

/-- A part without marks has none in its back either. -/
theorem has_mark_inside_append {spaced : Bool} {front back : List Char} {last : Char}
    (none : hasMarkInside spaced (front ++ last :: back) = false) :
    hasMarkInside (isGapOrEnd last) back = false ∧
      (last = ':' → back.head?.all isGapOrEnd = false) := by
  induction front generalizing spaced with
  | nil =>
      simp only [List.nil_append, hasMarkInside, Bool.or_eq_false_iff] at none
      refine ⟨none.2, ?_⟩
      rintro rfl
      simpa using none.1.1
  | cons c front ih =>
      simp only [List.cons_append, hasMarkInside, Bool.or_eq_false_iff] at none
      exact ih none.2

theorem plain_word_of {run rest : List Char} (some : run ≠ [])
    (solid : ∀ c ∈ run, Solid c ∧ isGapOrEnd c = false)
    (stops : ∀ c, rest.head? = .some c → isGapOrEnd c = true)
    (marks : hasMarkInside true (run ++ rest) = false) : PlainWord run := by
  refine ⟨some, solid, ?_, ?_⟩
  · intro first
    cases run with
    | nil => cases first
    | cons c others =>
        cases first
        simp [hasMarkInside] at marks
  · intro last
    obtain ⟨front, rfl⟩ := List.getLast?_eq_some_iff.mp last
    rw [List.append_assoc, List.singleton_append] at marks
    have follows := (has_mark_inside_append marks).2 rfl
    cases rest with
    | nil => cases follows
    | cons c others => simp [stops c rfl] at follows

/-- What a text that stands plain is made of, between its ends. -/
structure PlainText (text : List Char) : Prop where
  some : text ≠ []
  chars : ∀ c ∈ text, c = ' ' ∨ (Solid c ∧ isGapOrEnd c = false)
  last : text.getLast? ≠ .some ' '

theorem PlainText.rest {run rest : List Char} (plain : PlainText (run ++ rest))
    (some : rest ≠ []) : PlainText rest :=
  ⟨some, fun c member => plain.chars c (List.mem_append_right _ member), by
    have last := plain.last
    rwa [List.getLast?_append_of_ne_nil _ some] at last⟩

theorem kind_of_plain {c : Char} (chars : c = ' ' ∨ (Solid c ∧ isGapOrEnd c = false)) :
    runKind c = if c = ' ' then .spaces else .word := by
  rcases chars with rfl | ⟨⟨solid, -⟩, gap⟩
  · rfl
  · have space : c ≠ ' ' := by
      rintro rfl
      cases gap
    have breaks : isTextBreak c = false := by
      by_contra breaks
      rw [is_break_of_text_break (by simpa using breaks)] at solid
      cases solid
    rw [runKind, if_neg space, breaks, isSpace, beq_eq_false_iff_ne.mpr space]
    rfl

/-- A plain text consists of words with spaces between them. Comments may begin only behind spaces,
so what matters about a text that begins with spaces is only what is behind them. -/
theorem plain_runs_split (text : List Char) (plain : PlainText text) (spaced : Bool)
    (start : text.head? ≠ some ' ' → spaced = true) (marks : hasMarkInside spaced text = false) :
    (text.head? = some ' ' → ∃ count rest,
      runsOf text = List.replicate (count + 1) ' ' :: rest ∧ PlainRuns rest) ∧
    (text.head? ≠ some ' ' → PlainRuns (runsOf text)) := by
  revert plain spaced
  refine runs_induction (motive := fun text runs => PlainText text → ∀ spaced : Bool,
    (text.head? ≠ some ' ' → spaced = true) → hasMarkInside spaced text = false →
      (text.head? = some ' ' → ∃ count rest,
        runs = List.replicate (count + 1) ' ' :: rest ∧ PlainRuns rest) ∧
      (text.head? ≠ some ' ' → PlainRuns runs)) ?_ ?_ text
  · intro plain
    exact absurd rfl plain.some
  intro kind run rest runSome uniform differs ih plain spaced start marks
  obtain ⟨c, tail, same⟩ := List.exists_cons_of_ne_nil runSome
  obtain ⟨front, final, parts⟩ := (List.eq_nil_or_concat' run).resolve_left runSome
  have first : (run ++ rest).head? = .some c := by rw [same]; rfl
  have own (d : Char) (member : d ∈ run) := plain.chars d (List.mem_append_left _ member)
  have kindOf := uniform c (by simp [same])
  rw [kind_of_plain (own c (by simp [same]))] at kindOf
  have inner : hasMarkInside (isGapOrEnd final) rest = false := by
    rw [parts, List.append_assoc, List.singleton_append] at marks
    exact (has_mark_inside_append marks).1
  rw [first]
  by_cases space : c = ' '
  · -- A run of spaces, with a word behind it.
    rw [if_pos space] at kindOf
    subst kindOf
    have blank : ∀ d ∈ run, d = ' ' := fun d member => by
      simpa [isSpace] using space_of_kind (uniform d member)
    have some : rest ≠ [] := by
      rintro rfl
      refine plain.last ?_
      rw [List.append_nil, parts, List.getLast?_concat, blank final (by simp [parts])]
    have word : rest.head? ≠ .some ' ' := fun next => differs ' ' next rfl
    rw [blank final (by simp [parts])] at inner
    have runs := (ih (plain.rest some) true (fun _ => rfl) inner).2 word
    obtain ⟨count, length⟩ : ∃ count, run.length = count + 1 :=
      Nat.exists_eq_succ_of_ne_zero (by simpa using runSome)
    rw [List.eq_replicate_of_mem blank, length, space]
    exact ⟨fun _ => ⟨count, _, rfl, runs⟩, fun other => absurd rfl other⟩
  · -- A word, with nothing or spaces behind it.
    rw [if_neg space] at kindOf
    subst kindOf
    have solid : ∀ d ∈ run, Solid d ∧ isGapOrEnd d = false := by
      intro d member
      refine (own d member).resolve_left ?_
      rintro rfl
      have := uniform ' ' member
      cases this
    have gap (d : Char) (next : rest.head? = .some d) : d = ' ' := by
      have chars := plain.chars d (List.mem_append_right _ (List.mem_of_head? next))
      by_contra other
      have := differs d next
      rw [kind_of_plain chars, if_neg other] at this
      exact this rfl
    have apart : Option.some c ≠ Option.some ' ' := by simpa using space
    rw [start (by rwa [first])] at marks
    have word := plain_word_of runSome solid (fun d next => by rw [gap d next]; rfl) marks
    refine ⟨fun same => absurd same apart, fun _ => ?_⟩
    by_cases none : rest = []
    · subst none
      exact .last word
    · obtain ⟨d, behind, next⟩ := List.exists_cons_of_ne_nil none
      have blank : rest.head? = .some ' ' := by rw [next, ← gap d (by rw [next]; rfl)]; rfl
      obtain ⟨count, others, runs, form⟩ :=
        (ih (plain.rest none) _ (fun other => absurd blank other) inner).1 blank
      rw [runs]
      exact .more count word form

theorem plain_runs_of {wide : Bool} {text : List Char} (plain : allowsPlain wide text = true)
    (some : text ≠ []) : PlainRuns (runsOf text) := by
  simp only [allowsPlain, Bool.not_eq_true', Bool.or_eq_false_iff] at plain
  obtain ⟨⟨⟨⟨⟨first, last⟩, breaks⟩, special⟩, -⟩, inside⟩ := plain
  rw [List.any_eq_false] at breaks special
  have chars : ∀ c ∈ text, c = ' ' ∨ (Solid c ∧ isGapOrEnd c = false) := by
    intro c member
    have written := written_of_not_special (by simpa using special c member)
    have noBreak : isTextBreak c = false := by simpa using breaks c member
    by_cases space : c = ' '
    · exact .inl space
    · refine .inr ⟨written.solid noBreak, written.not_gap ?_⟩
      rw [isSpaceOrBreak, noBreak, isSpace, beq_eq_false_iff_ne.mpr space]
      rfl
  have apart {edge : Option Char} (none : edge.any isSpaceOrBreak = false) : edge ≠ .some ' ' := by
    rintro rfl
    cases none
  exact (plain_runs_split text ⟨some, chars, apart last⟩ true (fun _ => rfl) inside).2 (apart first)

/-! ## What is written -/

/-- The runs of a plain text as they are written: a single space may be the break of a line. -/
inductive PlainPiece (indent : Nat) : List (List Char) → List Char → Prop
  | nil : PlainPiece indent [] []
  | keep {run : List Char} {rest : List (List Char)} {piece : List Char} :
      PlainPiece indent rest piece → PlainPiece indent (run :: rest) (run ++ piece)
  | fold {rest : List (List Char)} {piece : List Char} :
      PlainPiece indent rest piece → PlainPiece indent ([' '] :: rest) (newLine indent ++ piece)

/-- Runs that are written on one line are written as they are. -/
theorem plain_runs_wrote (indent : Nat) (split : Bool) (runs : List (List Char)) {pen : Pen}
    (used : pen.fresh = false) (inked : pen.gap = false) :
    ∃ piece, PlainPiece indent runs piece ∧ pen.Wrote piece (plainRuns indent split runs pen) ∧
      (split = false → piece = runs.flatten) ∧ (plainRuns indent split runs pen).fresh = false ∧
      (plainRuns indent split runs pen).gap = false := by
  induction runs generalizing pen with
  | nil => exact ⟨[], .nil, .refl pen, fun _ => rfl, used, inked⟩
  | cons run rest ih =>
      unfold plainRuns
      split
      · rename_i folds
        simp only [Bool.and_eq_true] at folds
        obtain ⟨⟨space, width⟩, splits⟩ := folds
        obtain rfl := folded_run space width
        have there : pen.continueAt indent = _ := Pen.continue_at_eq used
        obtain ⟨piece, form, wrote, -, after⟩ :=
          @ih (pen.continueAt indent) (by rw [there]) (by rw [there])
        refine ⟨newLine indent ++ piece, .fold form, (Pen.continue_at_wrote used).trans wrote, ?_,
          after⟩
        rw [splits]
        intro none
        cases none
      · obtain ⟨piece, form, wrote, whole, after⟩ := @ih (pen.put run) used inked
        refine ⟨run ++ piece, .keep form, (Pen.put_wrote run pen).trans wrote, ?_, after⟩
        intro none
        rw [whole none, List.flatten_cons]

/-! ## What is read -/

/-- What may come behind a plain scalar that is indented further than a column: the mark of its
value, or a line at that column or before it. The flag and the number tell whether the scalar is read
up to the start of that line, and how many characters further. -/
inductive PlainEnd (indent : Int) : List Char → Bool → Nat → Prop
  | key {rest : List Char} : isGapOrEnd (rest.headD '\x00') = true →
      PlainEnd indent (':' :: rest) false 0
  | line {column : Nat} {rest : List Char} : (column : Int) < indent → Cursor.LineStart column rest →
      PlainEnd indent (newLine column ++ rest) true (column + 1)

theorem plain_word_length {word rest : List Char}
    (solid : ∀ c ∈ word, isGapOrEnd c = false) (noKey : word.getLast? ≠ some ':')
    (stops : endsPlain false (rest.headD '\x00') (rest.tail.headD '\x00') = true) :
    plainWordLength false (word ++ rest) = word.length := by
  induction word with
  | nil =>
      cases rest with
      | nil => rfl
      | cons c others =>
          rw [List.nil_append, plainWordLength, if_pos (by simpa using stops)]
          rfl
  | cons c others ih =>
      have gap := solid c List.mem_cons_self
      have next : (c == ':' && isGapOrEnd ((others ++ rest).headD '\x00')) = false := by
        by_cases colon : c = ':'
        · cases others with
          | nil => exact absurd (by rw [colon]; rfl) noKey
          | cons d more =>
              simp [solid d (by simp)]
        · rw [beq_eq_false_iff_ne.mpr colon, Bool.false_and]
      have goes : endsPlain false c ((others ++ rest).headD '\x00') = false := by
        unfold endsPlain
        rw [gap, Bool.false_and, Bool.or_false, Bool.false_and, Bool.or_false, next, Bool.or_false]
      rw [List.cons_append, plainWordLength, goes, if_neg Bool.false_ne_true,
        ih (fun d member => solid d (List.mem_cons_of_mem _ member)) ?_, List.length_cons]
      cases others with
      | nil => exact fun last => by cases last
      | cons d more => simpa using noKey

/-- Indentation in front of a word is no blank line. -/
theorem plain_breaks_indentation {column : Nat} {rest : List Char}
    (start : Cursor.LineStart column rest) (fuel count : Nat) (enough : count < fuel)
    {cursor : Cursor} (text : cursor.rest = List.replicate count ' ' ++ rest) :
    plainBreaks fuel cursor = ([], false, cursor.skip count) := by
  induction count generalizing fuel cursor with
  | zero =>
      obtain ⟨fuel, rfl⟩ := Nat.exists_eq_succ_of_ne_zero (by omega : fuel ≠ 0)
      obtain ⟨space, -, breaks, -⟩ := start.goesOn.peek text
      rw [plainBreaks, if_neg (by simpa using space), breaks, if_neg Bool.false_ne_true,
        Cursor.skip_zero]
  | succ count ih =>
      obtain ⟨fuel, rfl⟩ := Nat.exists_eq_succ_of_ne_zero (by omega : fuel ≠ 0)
      rw [List.replicate_succ, List.cons_append] at text
      have behind : cursor.next.rest = List.replicate count ' ' ++ rest := by
        rw [Cursor.next_rest, text, List.tail_cons]
      rw [plainBreaks, Cursor.peek_cons text, if_pos (beq_self_eq_true ' '),
        ih fuel (by omega) behind, Cursor.skip_succ]

/-- A line break with indentation behind a word reads as one space. -/
theorem plain_gap_line {cursor : Cursor} {column : Nat} {rest : List Char}
    (text : cursor.rest = newLine column ++ rest) (start : Cursor.LineStart column rest) :
    plainGap cursor = ([' '], true, cursor.skip (column + 1)) := by
  rw [newLine, List.cons_append] at text
  have spaces : cursor.run (· == ' ') = (List.replicate 0 ' ', cursor.skip 0) :=
    Cursor.run_spaces rfl text (fun d first => by
      cases first
      rfl)
  have behind : cursor.next.rest = List.replicate column ' ' ++ rest := by
    rw [Cursor.next_rest, text, List.tail_cons]
  have enough : column < cursor.next.rest.length + 1 := by
    rw [behind, List.length_append, List.length_replicate]
    omega
  unfold plainGap
  simp only [spaces, Cursor.skip_zero, Cursor.peek_cons text,
    Cursor.line_break_eq text rfl (by decide), start.no_mark behind,
    plain_breaks_indentation start _ column enough behind, Cursor.skip_succ]
  rfl

/-- Spaces behind a word, with another word behind them. -/
theorem plain_gap_spaces {cursor : Cursor} {count : Nat} {rest : List Char}
    (text : cursor.rest = List.replicate count ' ' ++ rest)
    (solid : ∀ c, rest.head? = some c → isGapOrEnd c = false) (some : rest ≠ []) :
    plainGap cursor = (List.replicate count ' ', false, cursor.skip count) := by
  obtain ⟨c, others, rfl⟩ := List.exists_cons_of_ne_nil some
  obtain ⟨-, space, breaks, -⟩ := visible_parts (solid c rfl)
  have run : cursor.run (· == ' ') = (List.replicate count ' ', cursor.skip count) :=
    Cursor.run_spaces rfl text (fun d first => by
      cases first
      exact beq_eq_false_iff_ne.mpr space)
  have after : (cursor.skip count).peek = c := by
    apply Cursor.peek_cons
    rw [Cursor.skip_rest, text, List.drop_left' (by rw [List.length_replicate])]
  unfold plainGap
  simp only [run, after, breaks, Bool.false_eq_true, if_false]

theorem plain_end_gap {indent : Int} {rest : List Char} {ended : Bool} {count : Nat}
    (stops : PlainEnd indent rest ended count) {cursor : Cursor} (text : cursor.rest = rest) :
    ∃ gap, plainGap cursor = (gap, ended, cursor.skip count) ∧
      (gap = [] ∨ ((cursor.skip count).column : Int) < indent) := by
  cases stops with
  | key gap =>
      refine ⟨[], ?_, .inl rfl⟩
      have run : cursor.run (· == ' ') = (List.replicate 0 ' ', cursor.skip 0) :=
        Cursor.run_spaces rfl text (fun d first => by
          cases first
          rfl)
      unfold plainGap
      simp only [run, Cursor.skip_zero, Cursor.peek_cons text]
      rfl
  | line near start =>
      refine ⟨[' '], plain_gap_line text start, .inr ?_⟩
      rwa [Cursor.skip_new_line text]

/-- What stops a word: the end of the scalar, or the white space that stands for a gap. -/
theorem plain_end_stops {indent : Int} {rest : List Char} {ended : Bool} {count : Nat}
    (stops : PlainEnd indent rest ended count) :
    endsPlain false (rest.headD '\x00') (rest.tail.headD '\x00') = true := by
  cases stops with
  | key gap =>
      rw [List.headD_cons, List.tail_cons, endsPlain, gap]
      rfl
  | line near start => rfl

theorem PlainPiece.word {indent : Nat} {word : List Char} {rest : List (List Char)}
    {piece : List Char} (written : PlainPiece indent (word :: rest) piece) (form : PlainWord word) :
    ∃ more, piece = word ++ more ∧ PlainPiece indent rest more := by
  cases written with
  | keep more => exact ⟨_, rfl, more⟩
  | fold more =>
      have gap := (form.solid ' ' List.mem_cons_self).2
      cases gap

theorem PlainRuns.visible {runs : List (List Char)} (form : PlainRuns runs) {indent : Nat}
    {piece : List Char} (written : PlainPiece indent runs piece) (rest : List Char) :
    ∃ c, (piece ++ rest).head? = some c ∧ Solid c ∧ isGapOrEnd c = false ∧ c ≠ '#' := by
  obtain ⟨word, others, rfl, first⟩ : ∃ word others, runs = word :: others ∧ PlainWord word := by
    cases form with
    | last word => exact ⟨_, _, rfl, word⟩
    | more count word others => exact ⟨_, _, rfl, word⟩
  obtain ⟨more, rfl, -⟩ := written.word first
  obtain ⟨c, tail, rfl⟩ := List.exists_cons_of_ne_nil first.some
  obtain ⟨solid, gap⟩ := first.solid c List.mem_cons_self
  exact ⟨c, rfl, solid, gap, fun comment => first.noComment (by rw [comment]; rfl)⟩

/-- A gap between words reads as its spaces, whether it is written as they are or as a line break. -/
theorem plain_gap_read {indent count : Nat} {least : Int} (deep : least ≤ indent) (inner : 0 < indent)
    {runs : List (List Char)} (form : PlainRuns runs) {piece rest : List Char}
    (written : PlainPiece indent (List.replicate (count + 1) ' ' :: runs) piece) {cursor : Cursor}
    (text : cursor.rest = piece ++ rest) (column : least ≤ (cursor.column : Int)) :
    ∃ ended gap more, piece = gap ++ more ∧ PlainPiece indent runs more ∧
      (∃ c others, gap = c :: others ∧ isGapOrEnd c = true) ∧
      plainGap cursor = (List.replicate (count + 1) ' ', ended, cursor.skip gap.length) ∧
      least ≤ ((cursor.skip gap.length).column : Int) := by
  generalize same : List.replicate (count + 1) ' ' = spaces at written ⊢
  cases written with
  | keep behind =>
      subst same
      rename_i more
      obtain ⟨c, first, -, gap, -⟩ := form.visible behind rest
      rw [List.append_assoc] at text
      have read := plain_gap_spaces text (fun d next => by
        rw [first] at next
        cases next
        exact gap) (fun none => by
          rw [none] at first
          cases first)
      have place := Cursor.skip_solid text (solid_spaces (count + 1))
      refine ⟨false, _, _, rfl, behind, ⟨_, _, rfl, rfl⟩, ?_, ?_⟩
      · rw [read, List.length_replicate]
      · rw [place]
        push_cast
        omega
  | fold behind =>
      rename_i more
      obtain ⟨c, first, solid, gap, comment⟩ := form.visible behind rest
      rw [List.append_assoc] at text
      have start : Cursor.LineStart indent (more ++ rest) := by
        constructor
        · intro d next
          rw [first] at next
          cases next
          refine ⟨?_, comment, solid⟩
          rintro rfl
          cases gap
        · omega
      refine ⟨true, _, _, rfl, behind, ⟨_, _, rfl, rfl⟩, ?_, ?_⟩
      · rw [plain_gap_line text start, new_line_length]
      · rw [new_line_length, Cursor.skip_new_line text]
        exact deep

/-- A word and the white space behind it, in front of a cursor on the word. -/
theorem plain_words_step {least : Int} {word rest : List Char} (form : PlainWord word)
    (stops : endsPlain false (rest.headD '\x00') (rest.tail.headD '\x00') = true) {cursor : Cursor}
    (text : cursor.rest = word ++ rest) (fuel : Nat) (gap : List Char) (started : Bool) :
    plainWords false least (fuel + 1) gap started cursor =
      (let (nextGap, ended, after) := plainGap (cursor.skip word.length)
      if nextGap.isEmpty || after.peek == '#' || (after.column : Int) < least then
        (gap ++ word, ended, after)
      else
        let (more, endedLast, last) := plainWords false least fuel nextGap ended after
        (gap ++ word ++ more, endedLast, last)) := by
  have length := plain_word_length (fun c member => (form.solid c member).2) form.noKey stops
  obtain ⟨c, others, rfl⟩ := List.exists_cons_of_ne_nil form.some
  have comment : (cursor.peek == '#') = false := by
    rw [Cursor.peek_cons (show cursor.rest = c :: (others ++ rest) from text), beq_eq_false_iff_ne]
    rintro rfl
    exact form.noComment rfl
  rw [plainWords, text, length, comment, List.length_cons, List.take_left' (List.length_cons ..)]
  rfl

/-- The words of a plain text read as the text, with the gap in front of them. -/
theorem plain_words_read {indent : Nat} {least : Int} (deep : least ≤ indent) (inner : 0 < indent)
    {rest : List Char} {ended : Bool} {count : Nat} (stops : PlainEnd least rest ended count)
    {runs : List (List Char)} (form : PlainRuns runs) {piece : List Char}
    (written : PlainPiece indent runs piece) {cursor : Cursor} (text : cursor.rest = piece ++ rest)
    (column : least ≤ (cursor.column : Int) + 1) {fuel : Nat} (enough : cursor.rest.length < fuel)
    (gap : List Char) (started : Bool) :
    plainWords false least fuel gap started cursor =
      (gap ++ runs.flatten, ended, cursor.skip (piece.length + count)) := by
  induction form generalizing piece cursor fuel gap started with
  | @last word single =>
      obtain ⟨fuel, rfl⟩ := Nat.exists_eq_succ_of_ne_zero (by omega : fuel ≠ 0)
      obtain ⟨more, rfl, none⟩ := written.word single
      cases none
      rw [List.append_nil] at text ⊢
      obtain ⟨nextGap, read, edge⟩ := plain_end_gap stops (Cursor.skip_past text)
      rw [plain_words_step single (plain_end_stops stops) text, read]
      have last : (nextGap.isEmpty || ((cursor.skip word.length).skip count).peek == '#' ||
          decide ((((cursor.skip word.length).skip count).column : Int) < least)) = true := by
        rcases edge with rfl | near
        · rfl
        · rw [decide_eq_true near, Bool.or_true]
      simp only [last, if_true, Cursor.skip_add, List.flatten_singleton]
  | @more word runs spaces single others ih =>
      obtain ⟨fuel, rfl⟩ := Nat.exists_eq_succ_of_ne_zero (by omega : fuel ≠ 0)
      obtain ⟨tail, rfl, behind⟩ := written.word single
      rw [List.append_assoc] at text
      have place := Cursor.skip_solid text (fun c member => (single.solid c member).1)
      obtain ⟨broke, nextGap, more, rfl, behind, blank, read, deeper⟩ :=
        plain_gap_read deep inner others behind (Cursor.skip_past text) (by
          have length := List.length_pos_of_ne_nil single.some
          rw [place]
          push_cast
          omega)
      rw [List.append_assoc] at text
      have after := Cursor.skip_past (Cursor.skip_past text)
      have stop (rest : List Char) : endsPlain false ((nextGap ++ rest).headD '\x00')
          ((nextGap ++ rest).tail.headD '\x00') = true := by
        obtain ⟨c, others, rfl, gapped⟩ := blank
        rw [List.cons_append, List.headD_cons, endsPlain, gapped]
        rfl
      have shorter : ((cursor.skip word.length).skip nextGap.length).rest.length < fuel := by
        obtain ⟨c, others, rfl, -⟩ := blank
        have behindWord := Cursor.skip_shorter text single.some
        have behindGap := Cursor.skip_shorter (Cursor.skip_past text) (List.cons_ne_nil c others)
        omega
      obtain ⟨c, first, -, -, comment⟩ := others.visible behind rest
      obtain ⟨others', same⟩ := List.head?_eq_some_iff.mp first
      have goes : ((List.replicate (spaces + 1) ' ').isEmpty ||
          ((cursor.skip word.length).skip nextGap.length).peek == '#' ||
          decide ((((cursor.skip word.length).skip nextGap.length).column : Int) < least)) =
            false := by
        rw [Cursor.peek_cons (after.trans same), beq_eq_false_iff_ne.mpr comment,
          decide_eq_false (by omega)]
        rfl
      rw [plain_words_step single (stop _) text, read]
      simp only [goes, Bool.false_eq_true, if_false,
        ih behind after (by omega) shorter (List.replicate (spaces + 1) ' ') broke]
      rw [← Cursor.skip_add, ← Cursor.skip_add, List.flatten_cons, List.flatten_cons,
        List.length_append, List.length_append, List.append_assoc]
      simp only [Nat.add_assoc]

/-- A plain text is read as it was, whether it is folded or not. -/
theorem plain_scalar_read {wide : Bool} {indent : Nat} {outer : Int} (deep : outer < indent)
    (inner : 0 < indent) {rest : List Char} {ended : Bool} {count : Nat}
    (stops : PlainEnd (outer + 1) rest ended count) {text : List Char}
    (plain : allowsPlain wide text = true) (some : text ≠ []) {piece : List Char}
    (written : PlainPiece indent (runsOf text) piece) {cursor : Cursor}
    (here : cursor.rest = piece ++ rest) (column : outer ≤ (cursor.column : Int)) :
    plainScalar false outer cursor =
      (String.ofList text, ended, cursor.skip (piece.length + count)) := by
  have read := plain_words_read (by omega) inner stops (plain_runs_of plain some) written here
    (by omega) (Nat.lt_succ_self _) [] false
  rw [plainScalar, read, runs_of_flatten, List.nil_append]

end FixtureImages.Yaml
