import FixtureImages.Proofs.Yaml.Pen
import FixtureImages.Proofs.Yaml.Quoted

/-!
# Texts in single quotes read back

Between single quotes, quotes are doubled, single spaces may be written as the break of a line, and
line breaks are followed by indentation. All of it reads as the text that was written.
-/

namespace FixtureImages.Yaml

set_option autoImplicit false

/-- What is written between quotes for a text. -/
structure QuotedPiece (double : Bool) (text piece : List Char) : Prop where
  allowed : ∀ c ∈ piece, isAllowed c = true
  reads : ∀ (cursor : Cursor) (rest : List Char), cursor.rest = piece ++ quoteMark double :: rest →
    rest.head? ≠ some '\'' → QuotedReads double cursor text (cursor.skip (piece.length + 1))

/-- A text that stands between single quotes: no spaces beside its line breaks, and only characters
that are kept there. -/
structure SingleQuotable (text : List Char) : Prop where
  written : ∀ c ∈ text, Written c ∧ c ≠ '\u0085'
  breaksApart : text.IsChain fun a b => ¬(isTextBreak a = true ∧ isSpace b = true)
  spacesApart : text.IsChain fun a b => ¬(isSpace a = true ∧ isTextBreak b = true)

theorem has_pair_eq_false {first second : Char → Bool} {text : List Char}
    (none : hasPair first second text = false) :
    text.IsChain fun a b => ¬(first a = true ∧ second b = true) := by
  induction text with
  | nil => exact .nil
  | cons a rest ih =>
      cases rest with
      | nil => exact .singleton a
      | cons b rest =>
          simp only [hasPair, Bool.or_eq_false_iff, Bool.and_eq_false_iff] at none
          refine .cons_cons ?_ (ih none.2)
          rintro ⟨one, other⟩
          rw [one, other] at none
          simp at none

theorem single_quotable {wide : Bool} {text : List Char} (allows : allowsSingleQuotes wide text = true)
    (known : '\u0085' ∉ text) : SingleQuotable text := by
  simp only [allowsSingleQuotes, Bool.not_eq_true', Bool.or_eq_false_iff] at allows
  obtain ⟨⟨breakFirst, spaceFirst⟩, special⟩ := allows
  rw [List.any_eq_false] at special
  refine ⟨fun c member => ⟨written_of_not_special (by simpa using special c member), ?_⟩,
    has_pair_eq_false breakFirst, has_pair_eq_false spaceFirst⟩
  rintro rfl
  exact known member

theorem SingleQuotable.rest {run rest : List Char} (quotable : SingleQuotable (run ++ rest)) :
    SingleQuotable rest :=
  ⟨fun c member => quotable.written c (List.mem_append_right _ member),
    quotable.breaksApart.right_of_append, quotable.spacesApart.right_of_append⟩

/-- A text that does not go on with white space. -/
def Firm (text : List Char) : Prop := ∀ c, text.head? = some c → runKind c = .word

/-- Behind a run of spaces or of line breaks there is nothing or a word. -/
theorem SingleQuotable.firm {run rest : List Char} (quotable : SingleQuotable (run ++ rest))
    {kind : RunKind} (some : run ≠ []) (uniform : ∀ c ∈ run, runKind c = kind)
    (blank : kind ≠ .word) (differs : ∀ c, rest.head? = .some c → runKind c ≠ kind) : Firm rest := by
  intro c first
  obtain ⟨front, last, rfl⟩ := (List.eq_nil_or_concat' run).resolve_left some
  have own := uniform last (by simp)
  have breaks := (List.isChain_append.mp quotable.breaksApart).2.2 last (by simp) c first
  have spaces := (List.isChain_append.mp quotable.spacesApart).2.2 last (by simp) c first
  have other := differs c first
  subst own
  unfold runKind at blank other ⊢
  grind

/-- What is written for the runs of a text, and what it is read as. -/
structure SingleQuoted (text piece : List Char) extends QuotedPiece false text piece where
  firm : Firm text → ∀ rest, ∃ c others, piece ++ '\'' :: rest = c :: others ∧ isGapOrEnd c = false

/-! ## Words -/

theorem word_of_kind {c : Char} (kind : runKind c = .word) (written : Written c) :
    Solid c ∧ isGapOrEnd c = false := by
  unfold runKind at kind
  split at kind
  · cases kind
  · rename_i space
    split at kind
    · cases kind
    · rename_i breaks
      have noBreak : isTextBreak c = false := by simpa using breaks
      refine ⟨written.solid noBreak, written.not_gap ?_⟩
      rw [isSpaceOrBreak, noBreak, Bool.or_false]
      simpa using space

theorem doubled_quotes_cons (c : Char) (word : List Char) :
    doubledQuotes (c :: word) = (if c = '\'' then ['\'', '\''] else [c]) ++ doubledQuotes word :=
  List.flatMap_cons

theorem doubled_quotes_mem {word : List Char} {c : Char} (member : c ∈ doubledQuotes word) :
    c ∈ word := by
  obtain ⟨d, own, written⟩ := List.mem_flatMap.mp member
  split at written
  · rename_i quote
    simp only [List.mem_cons, List.not_mem_nil, or_false, or_self] at written
    rwa [written, ← quote]
  · rw [List.mem_singleton] at written
    rwa [written]

/-- Characters other than white space are read as they are, two quotes as one. -/
theorem doubled_quotes_read {word : List Char} (visible : ∀ c ∈ word, isGapOrEnd c = false)
    {cursor after : Cursor} {text rest : List Char} (here : cursor.rest = doubledQuotes word ++ rest)
    (reads : QuotedReads false (cursor.skip (doubledQuotes word).length) text after) :
    QuotedReads false cursor (word ++ text) after := by
  induction word generalizing cursor with
  | nil => exact reads
  | cons c word ih =>
      have others := fun d member => visible d (List.mem_cons_of_mem _ member)
      rw [doubled_quotes_cons, List.append_assoc] at here
      rw [doubled_quotes_cons, List.length_append, Cursor.skip_add] at reads
      have behind := ih others (Cursor.skip_past here) reads
      by_cases quote : c = '\''
      · subst quote
        exact QuotedReads.pair here behind
      · rw [if_neg quote] at here behind
        exact QuotedReads.char here (visible c List.mem_cons_self) quote (by intro none; cases none)
          behind

/-! ## Line breaks -/

/-- What is written for line breaks, without the indentation behind them. -/
def writtenFeeds (breaks : List Char) : List Char :=
  if breaks.head? = some '\n' then '\n' :: breaks else breaks

theorem written_breaks_eq {breaks : List Char} (some : breaks ≠ []) {indent : Nat} (inner : 0 < indent)
    (pen : Pen) :
    writtenBreaks indent breaks pen =
      ⟨List.replicate indent ' ' ++ ((writtenFeeds breaks).reverse ++ pen.written), indent, true,
        true⟩ := by
  have fold (breaks : List Char) (pen : Pen) : breaks ≠ [] →
      breaks.foldl (fun pen c => pen.breakLine c) pen =
        ⟨breaks.reverse ++ pen.written, 0, true, true⟩ := by
    induction breaks generalizing pen with
    | nil => exact absurd rfl
    | cons c rest ih =>
        intro _
        cases rest with
        | nil => rfl
        | cons d others =>
            rw [List.foldl_cons, ih (pen.breakLine c) (List.cons_ne_nil d others)]
            simp [Pen.breakLine]
  unfold writtenBreaks writtenFeeds
  simp only [fold breaks _ some]
  rw [Pen.to_column_pad rfl inner]
  split <;> simp [Pen.breakLine]

theorem unfolded_written {breaks : List Char} (some : breaks ≠ []) :
    ∃ first others, writtenFeeds breaks = first :: others ∧ unfolded first others = breaks := by
  obtain ⟨c, rest, rfl⟩ := List.exists_cons_of_ne_nil some
  by_cases feed : c = '\n'
  · exact ⟨'\n', c :: rest, by simp [writtenFeeds, feed], by simp [unfolded]⟩
  · exact ⟨c, rest, by simp [writtenFeeds, feed], by simp [unfolded, feed]⟩

/-! ## Whole texts -/

theorem space_run_eq {run : List Char} (uniform : ∀ c ∈ run, runKind c = .spaces) :
    run = List.replicate run.length ' ' :=
  List.eq_replicate_of_mem fun c member => by
    simpa [isSpace] using space_of_kind (uniform c member)

theorem doubled_quotes_spaces (count : Nat) :
    doubledQuotes (List.replicate count ' ') = List.replicate count ' ' := by
  induction count with
  | zero => rfl
  | succ count ih =>
      rw [List.replicate_succ, doubled_quotes_cons, ih]
      rfl

theorem new_line_allowed (column : Nat) : ∀ c ∈ newLine column, isAllowed c = true := by
  intro c member
  rcases List.mem_cons.mp member with rfl | space
  · rfl
  · rw [List.eq_of_mem_replicate space]
    rfl

theorem spaces_allowed (count : Nat) : ∀ c ∈ List.replicate count ' ', isAllowed c = true := by
  intro c member
  rw [List.eq_of_mem_replicate member]
  rfl

/-- Allowed characters in front of what is written for the rest of a text. -/
theorem SingleQuoted.append {run front rest piece : List Char} (more : SingleQuoted rest piece)
    (allowed : ∀ c ∈ front, isAllowed c = true)
    (reads : ∀ (cursor after : Cursor) (tail : List Char), cursor.rest = front ++ (piece ++ '\'' :: tail) →
      QuotedReads false (cursor.skip front.length) rest after →
        QuotedReads false cursor (run ++ rest) after)
    (firm : Firm (run ++ rest) → ∃ c others, front = c :: others ∧ isGapOrEnd c = false) :
    SingleQuoted (run ++ rest) (front ++ piece) := by
  refine ⟨⟨?_, ?_⟩, ?_⟩
  · intro c member
    rcases List.mem_append.mp member with first | behind
    · exact allowed c first
    · exact more.allowed c behind
  · intro cursor tail here single
    rw [List.append_assoc] at here
    refine reads cursor _ tail here ?_
    have behind := more.reads _ tail (Cursor.skip_past here) single
    rwa [← Cursor.skip_add, ← Nat.add_assoc, ← List.length_append] at behind
  · intro solid tail
    obtain ⟨c, others, rfl, visible⟩ := firm solid
    exact ⟨c, _, rfl, visible⟩

/-- White space in front of what is written for the rest of a text is read on its own. -/
theorem SingleQuoted.append_gap {run front rest piece : List Char} (more : SingleQuoted rest piece)
    (firm : Firm rest) {c : Char} {others : List Char} (form : front = c :: others)
    (blank : isGapOrEnd c = true) (allowed : ∀ d ∈ front, isAllowed d = true)
    (soft : ¬Firm (run ++ rest))
    (gap : ∀ (cursor : Cursor) (d : Char) (tail : List Char), isGapOrEnd d = false →
      cursor.rest = front ++ d :: tail → quotedGap cursor = .ok (run, cursor.skip front.length)) :
    SingleQuoted (run ++ rest) (front ++ piece) := by
  refine more.append allowed ?_ (fun solid => absurd solid soft)
  intro cursor after tail here reads
  obtain ⟨d, behind, next, visible⟩ := more.firm firm tail
  have read := gap cursor d behind visible (by rw [here, next])
  have shorter := Cursor.skip_shorter here (by rw [form]; exact List.cons_ne_nil c others)
  rw [form, List.cons_append] at here
  exact QuotedReads.gap here blank read shorter reads

theorem soft_of_kind {run rest : List Char} {kind : RunKind} (some : run ≠ [])
    (uniform : ∀ c ∈ run, runKind c = kind) (blank : kind ≠ .word) : ¬Firm (run ++ rest) := by
  intro solid
  obtain ⟨c, tail, rfl⟩ := List.exists_cons_of_ne_nil some
  have own := solid c rfl
  rw [uniform c List.mem_cons_self] at own
  exact blank own

theorem SingleQuoted.word {run rest piece : List Char} (more : SingleQuoted rest piece)
    (some : run ≠ []) (visible : ∀ c ∈ run, isGapOrEnd c = false)
    (allowed : ∀ c ∈ run, isAllowed c = true) :
    SingleQuoted (run ++ rest) (doubledQuotes run ++ piece) := by
  refine more.append (fun c member => allowed c (doubled_quotes_mem member))
    (fun cursor after tail here reads => doubled_quotes_read visible here reads) (fun _ => ?_)
  obtain ⟨c, tail, rfl⟩ := List.exists_cons_of_ne_nil some
  rw [doubled_quotes_cons]
  split
  · exact ⟨_, _, rfl, rfl⟩
  · exact ⟨_, _, rfl, visible c List.mem_cons_self⟩

theorem SingleQuoted.spaces {rest piece : List Char} (more : SingleQuoted rest piece)
    (firm : Firm rest) (count : Nat) :
    SingleQuoted (List.replicate (count + 1) ' ' ++ rest)
      (List.replicate (count + 1) ' ' ++ piece) := by
  refine more.append_gap firm rfl rfl (spaces_allowed _) (fun solid => ?_) ?_
  · exact absurd (solid ' ' rfl) (by decide)
  · intro cursor d tail visible here
    rw [quoted_gap_spaces visible here, List.length_replicate]

theorem SingleQuoted.fold {rest piece : List Char} (more : SingleQuoted rest piece)
    (firm : Firm rest) {indent : Nat} (inner : 0 < indent) :
    SingleQuoted ([' '] ++ rest) (newLine indent ++ piece) := by
  refine more.append_gap firm rfl rfl (new_line_allowed indent) (fun solid => ?_) ?_
  · exact absurd (solid ' ' rfl) (by decide)
  · intro cursor d tail visible here
    have feed : ∀ c ∈ ['\n'], KeptBreak c := by simp [KeptBreak, isTextBreak]
    have gap := quoted_gap_breaks feed inner visible here
    rw [List.length_nil, Nat.zero_add] at gap
    rw [gap, new_line_length]
    rfl

theorem SingleQuoted.breaks {run rest piece : List Char} (more : SingleQuoted rest piece)
    (firm : Firm rest) (some : run ≠ []) (uniform : ∀ c ∈ run, runKind c = .breaks)
    (known : ∀ c ∈ run, c ≠ '\u0085') {indent : Nat} (inner : 0 < indent) :
    SingleQuoted (run ++ rest) (writtenFeeds run ++ List.replicate indent ' ' ++ piece) := by
  have kept : ∀ c ∈ writtenFeeds run, KeptBreak c := by
    have own : ∀ c ∈ run, KeptBreak c := fun c member =>
      ⟨break_of_kind (uniform c member), known c member⟩
    intro c member
    unfold writtenFeeds at member
    split at member
    · rcases List.mem_cons.mp member with rfl | member
      · exact ⟨rfl, by decide⟩
      · exact own c member
    · exact own c member
  obtain ⟨lead, others, feeds, unfold⟩ := unfolded_written some
  have blank : isGapOrEnd lead = true := by
    have breaks := is_break_of_text_break (kept lead (by rw [feeds]; exact List.mem_cons_self)).1
    simp [isGapOrEnd, isSpaceOrEnd, isBreakOrEnd, breaks]
  refine more.append_gap firm (by rw [feeds]; rfl) blank ?_ (soft_of_kind some uniform (by decide)) ?_
  · intro c member
    rcases List.mem_append.mp member with feed | space
    · exact (kept c feed).allowed
    · exact spaces_allowed indent c space
  · intro cursor d tail visible here
    rw [feeds] at kept here
    rw [List.append_assoc] at here
    rw [quoted_gap_breaks kept inner visible here, unfold, feeds, List.length_append,
      List.length_cons, List.length_replicate, Nat.add_right_comm]

/-- A pen from which a line can be broken in front of the text: not on fresh indentation, where the
line would not be broken. -/
def Breakable (indent : Nat) (first : Bool) (text : List Char) (pen : Pen) : Prop :=
  pen.fresh = true → indent ≤ pen.column ∧
    (first = false → text.head? = some ' ' → indent < pen.column)

theorem Breakable.put {indent : Nat} {first : Bool} {text : List Char} {pen : Pen}
    (breakable : Breakable indent first text pen) {chars : List Char} (some : 0 < chars.length)
    (rest : List Char) : Breakable indent false rest (pen.put chars) := by
  intro fresh
  have := (breakable fresh).1
  simp only [Pen.put]
  omega

theorem Breakable.at_indent {indent : Nat} {rest : List Char} (firm : Firm rest) {pen : Pen}
    (column : pen.column = indent) : Breakable indent false rest pen := by
  intro _
  rw [column]
  exact ⟨Nat.le_refl _, fun _ space => absurd (firm ' ' space) (by decide)⟩

/-- What is written between two pens is read as the text, and is the text at once when it has no
breaks and is not to be folded. -/
def WritesQuoted (split : Bool) (text : List Char) (before after : Pen) : Prop :=
  ∃ piece, SingleQuoted text piece ∧ before.Wrote piece after ∧
    (split = false → (∀ c ∈ text, isTextBreak c = false) → piece = doubledQuotes text)

section Steps

variable {split : Bool} {indent : Nat} {run rest : List Char} {pen after : Pen}

theorem WritesQuoted.nil (pen : Pen) : WritesQuoted split [] pen pen := by
  refine ⟨[], ⟨⟨by simp, ?_⟩, ?_⟩, .refl pen, fun _ _ => rfl⟩
  · exact fun cursor rest here single => QuotedReads.close here single
  · exact fun _ rest => ⟨'\'', rest, rfl, rfl⟩

/-- What is written as it is on one line stands in front of the rest. -/
theorem WritesQuoted.put (more : WritesQuoted split rest (pen.put (doubledQuotes run)) after)
    (quoted : ∀ {piece}, SingleQuoted rest piece →
      SingleQuoted (run ++ rest) (doubledQuotes run ++ piece)) :
    WritesQuoted split (run ++ rest) pen after := by
  obtain ⟨piece, reads, wrote, whole⟩ := more
  refine ⟨_, quoted reads, (Pen.put_wrote _ pen).trans wrote, fun none plain => ?_⟩
  rw [whole none fun c member => plain c (List.mem_append_right _ member)]
  exact List.flatMap_append.symm

theorem WritesQuoted.fold (inner : 0 < indent) (firm : Firm rest)
    (used : pen.fresh = false ∨ indent < pen.column)
    (more : WritesQuoted true rest (pen.toColumn indent) after) :
    WritesQuoted true ([' '] ++ rest) pen after := by
  obtain ⟨piece, reads, wrote, -⟩ := more
  exact ⟨_, reads.fold firm inner, (Pen.to_column_wrote used).trans wrote, fun none => by cases none⟩

theorem WritesQuoted.breaks (inner : 0 < indent) (firm : Firm rest) (some : run ≠ [])
    (uniform : ∀ c ∈ run, runKind c = .breaks) (known : ∀ c ∈ run, c ≠ '\u0085')
    (more : WritesQuoted split rest (writtenBreaks indent run pen) after) :
    WritesQuoted split (run ++ rest) pen after := by
  obtain ⟨piece, reads, wrote, -⟩ := more
  have front : pen.Wrote (writtenFeeds run ++ List.replicate indent ' ')
      (writtenBreaks indent run pen) := by
    rw [written_breaks_eq some inner pen]
    simp [Pen.Wrote]
  refine ⟨_, reads.breaks firm some uniform known inner, front.trans wrote, fun _ plain => ?_⟩
  obtain ⟨c, tail, rfl⟩ := List.exists_cons_of_ne_nil some
  have own := plain c (by simp)
  rw [break_of_kind (uniform c List.mem_cons_self)] at own
  cases own

end Steps

/-- The runs of a text are written so that they are read as the text, and at once when they are not
to be folded. -/
theorem quoted_runs_wrote {indent : Nat} (inner : 0 < indent) (split : Bool) (text : List Char) :
    ∀ (first : Bool) (pen : Pen), SingleQuotable text → Breakable indent first text pen →
      WritesQuoted split text pen (quotedRuns indent split first (runsOf text) pen) := by
  refine runs_induction (motive := fun text runs => ∀ (first : Bool) (pen : Pen),
    SingleQuotable text → Breakable indent first text pen →
      WritesQuoted split text pen (quotedRuns indent split first runs pen)) ?_ ?_ text
  · exact fun first pen _ _ => .nil pen
  intro kind run rest runSome uniform differs ih first pen quotable breakable
  have written := fun c member => quotable.written c (List.mem_append_left rest member)
  have head : (run.head?.map runKind).getD .word = kind := by
    obtain ⟨c, tail, rfl⟩ := List.exists_cons_of_ne_nil runSome
    exact uniform c List.mem_cons_self
  unfold quotedRuns
  rw [head]
  cases kind with
  | word =>
      have visible := fun c member => (word_of_kind (uniform c member) (written c member).1).2
      have some : 0 < (doubledQuotes run).length := by
        obtain ⟨c, tail, rfl⟩ := List.exists_cons_of_ne_nil runSome
        rw [doubled_quotes_cons]
        split <;> simp
      exact .put (ih false _ quotable.rest (breakable.put some rest)) fun more =>
        more.word runSome visible fun c member => (written c member).1.allowed
  | spaces =>
      have firm := quotable.firm runSome uniform (by decide) differs
      obtain ⟨count, length⟩ := Nat.exists_eq_succ_of_ne_zero
        (Nat.ne_of_gt (List.length_pos_of_ne_nil runSome))
      obtain rfl : run = List.replicate (count + 1) ' ' := by
        rw [space_run_eq uniform, length]
      dsimp only
      split
      · rename_i folds
        simp only [Bool.and_eq_true, Bool.not_eq_true'] at folds
        obtain ⟨⟨⟨width, splits⟩, notFirst⟩, -⟩ := folds
        obtain rfl : split = true := splits
        have one : List.replicate (count + 1) ' ' = [' '] := folded_run rfl width
        have used : pen.fresh = false ∨ indent < pen.column := by
          cases fresh : pen.fresh with
          | false => exact .inl rfl
          | true => exact .inr ((breakable fresh).2 notFirst rfl)
        rw [one]
        exact .fold inner firm used (ih false (pen.toColumn indent) quotable.rest
          (.at_indent firm (by rw [Pen.to_column_break used])))
      · refine .put ?_ fun reads => ?_ <;> rw [doubled_quotes_spaces]
        · exact ih false _ quotable.rest (breakable.put (List.length_pos_of_ne_nil runSome) rest)
        · exact reads.spaces firm count
  | breaks =>
      have firm := quotable.firm runSome uniform (by decide) differs
      have known := fun c member => (written c member).2
      exact .breaks inner firm runSome uniform known (ih false _ quotable.rest
        (.at_indent firm (by rw [written_breaks_eq runSome inner pen])))

/-- A text written between single quotes, at once when it is not to be folded. -/
theorem single_quoted_wrote {wide : Bool} {text : List Char}
    (allows : allowsSingleQuotes wide text = true) (known : '\u0085' ∉ text) {indent : Nat}
    (inner : 0 < indent) (split : Bool) (pen : Pen) :
    ∃ piece, QuotedPiece false text piece ∧
      pen.Wrote (pen.spacing ++ '\'' :: (piece ++ ['\''])) (writeSingleQuoted indent split text pen) ∧
      (split = false → (∀ c ∈ text, isTextBreak c = false) → piece = doubledQuotes text) := by
  obtain ⟨piece, quoted, wrote, whole⟩ := quoted_runs_wrote inner split text true (pen.mark ['\''])
    (single_quotable allows known) (fun fresh => by cases fresh)
  refine ⟨piece, quoted.toQuotedPiece, ?_, whole⟩
  have all := ((Pen.mark_wrote ['\''] pen).trans wrote).trans (Pen.close_mark_wrote ['\''] _)
  simpa [writeSingleQuoted] using all

end FixtureImages.Yaml
