import FixtureImages.Text.Search
import FixtureImages.Yaml.Printer
import Mathlib.Data.List.SplitBy

/-!
# Break marks in written texts

A break mark is a backslash before an `n`. A scan from left to right finds whether one occurs, and
needs to remember only whether a backslash came last; so what a pen writes can be followed without
looking at the layout. Plain and single-quoted texts are written with exactly the break marks that
they have. Double quotes add one for each line feed, and none for a text without either.
-/

namespace FixtureImages.Yaml

set_option autoImplicit false

def breakMark : List Char := ['\\', 'n']

theorem break_mark_in_front (c : Char) (rest : List Char) :
    breakMark.isPrefixOf (c :: rest) = (c == '\\' && rest.head? == some 'n') := by
  rw [Bool.eq_iff_iff]
  cases rest <;> simp [breakMark, List.isPrefixOf, @eq_comm Char '\\', @eq_comm Char 'n']

/-- Whether a break mark was found so far, and whether a backslash came last. -/
structure BreakScan where
  found : Bool
  pending : Bool

namespace BreakScan

def start : BreakScan := ⟨false, false⟩

def step (scan : BreakScan) (c : Char) : BreakScan :=
  ⟨scan.found || (scan.pending && c == 'n'), c == '\\'⟩

def through (scan : BreakScan) (text : List Char) : BreakScan := text.foldl step scan

/-- The scan once the backslash that came last, if one did, no longer matters. -/
def settled (scan : BreakScan) : BreakScan := ⟨scan.found, false⟩

@[simp] theorem through_nil (scan : BreakScan) : scan.through [] = scan := rfl

@[simp] theorem through_cons (scan : BreakScan) (c : Char) (text : List Char) :
    scan.through (c :: text) = (scan.step c).through text := rfl

@[simp] theorem through_append (scan : BreakScan) (front back : List Char) :
    scan.through (front ++ back) = (scan.through front).through back := List.foldl_append

@[simp] theorem settled_found (scan : BreakScan) : scan.settled.found = scan.found := rfl

@[simp] theorem settled_pending (scan : BreakScan) : scan.settled.pending = false := rfl

@[simp] theorem settled_settled (scan : BreakScan) : scan.settled.settled = scan.settled := rfl

theorem settled_of_not_pending {scan : BreakScan} (none : scan.pending = false) :
    scan.settled = scan := by
  cases scan
  cases none
  rfl

/-- A mark is found in a text, or was found before it, or ends with its first character. -/
theorem through_found (scan : BreakScan) (text : List Char) :
    (scan.through text).found =
      (scan.found || (scan.pending && text.head? == some 'n') ||
        Text.occursIn breakMark text) := by
  induction text generalizing scan with
  | nil => simp [Text.occursIn, breakMark]
  | cons c rest ih =>
      rw [through_cons, ih, Text.occursIn, break_mark_in_front]
      simp [step, Bool.or_assoc]

/-- A character that neither begins nor ends a break mark. -/
def Quiet (c : Char) : Prop := c ≠ '\\' ∧ c ≠ 'n'

theorem step_quiet {c : Char} (quiet : Quiet c) (scan : BreakScan) :
    scan.step c = scan.settled := by
  have first : (c == '\\') = false := by simpa using quiet.1
  have last : (c == 'n') = false := by simpa using quiet.2
  simp [step, settled, first, last]

theorem settled_through_quiet {text : List Char} (quiet : ∀ c ∈ text, Quiet c) (scan : BreakScan) :
    scan.settled.through text = scan.settled := by
  induction text with
  | nil => rfl
  | cons c rest ih =>
      rw [through_cons, step_quiet (quiet c List.mem_cons_self), settled_settled]
      exact ih fun other member => quiet other (List.mem_cons_of_mem _ member)

theorem through_quiet {text : List Char} (some : text ≠ []) (quiet : ∀ c ∈ text, Quiet c)
    (scan : BreakScan) : scan.through text = scan.settled := by
  cases text with
  | nil => exact absurd rfl some
  | cons c rest =>
      rw [through_cons, step_quiet (quiet c List.mem_cons_self)]
      exact settled_through_quiet
        (fun other member => quiet other (List.mem_cons_of_mem _ member)) scan

end BreakScan

open BreakScan

theorem quiet_space : Quiet ' ' := by constructor <;> decide

theorem quiet_spaces (count : Nat) : ∀ c ∈ List.replicate count ' ', Quiet c := by
  intro c member
  rw [List.eq_of_mem_replicate member]
  exact quiet_space

theorem quiet_single (c : Char) (quiet : Quiet c) : ∀ other ∈ [c], Quiet other := by
  intro other member
  rwa [List.mem_singleton.mp member]

theorem quote_quiet : ∀ c ∈ ['"'], Quiet c := quiet_single _ (by constructor <;> decide)

theorem quiet_of_break {c : Char} (breaks : isTextBreak c = true) : Quiet c := by
  constructor <;> rintro rfl <;> revert breaks <;> decide

/-! ## What a pen has written -/

namespace Pen

/-- The scan of all that was written. -/
def scan (pen : Pen) : BreakScan := BreakScan.start.through pen.written.reverse

@[simp] theorem put_scan (chars : List Char) (pen : Pen) :
    (pen.put chars).scan = pen.scan.through chars := by
  simp [scan, put]

@[simp] theorem break_line_scan (c : Char) (pen : Pen) :
    (pen.breakLine c).scan = pen.scan.step c := by
  simp [scan, breakLine]

/-- A new column is reached by a line break and spaces only. -/
theorem to_column_scan {pen : Pen} {column : Nat}
    (tidy : pen.fresh = true → column < pen.column ∨ pen.scan.pending = false) :
    (pen.toColumn column).scan = pen.scan.settled := by
  have indents (pen : Pen) (none : pen.scan.pending = false) :
      (if pen.column < column then
          { pen.put (List.replicate (column - pen.column) ' ') with gap := true }
        else pen).scan = pen.scan.settled := by
    split
    · change (pen.put _).scan = _
      rw [put_scan, ← settled_of_not_pending none, settled_through_quiet (quiet_spaces _)]
      rfl
    · exact (settled_of_not_pending none).symm
  unfold toColumn
  have feed : (pen.breakLine '\n').scan = pen.scan.settled := by
    rw [break_line_scan, step_quiet (quiet_of_break rfl)]
  by_cases breaks : (!pen.fresh || column < pen.column || (pen.column == column && !pen.gap)) = true
  · simp only [breaks, if_true]
    rw [indents _ (by rw [feed]; rfl), feed, settled_settled]
  · have stays : pen.fresh = true ∧ ¬column < pen.column := by
      simp only [Bool.or_eq_true, decide_eq_true_eq, Bool.not_eq_true', not_or,
        Bool.not_eq_false] at breaks
      exact breaks.1
    simp only [breaks]
    exact indents pen ((tidy stays.1).resolve_left stays.2)

theorem continue_at_scan {pen : Pen} (unfresh : pen.fresh = false) (column : Nat) :
    (pen.continueAt column).scan = pen.scan.settled := by
  apply to_column_scan
  intro fresh
  rw [unfresh] at fresh
  cases fresh

theorem mark_scan {chars : List Char} (some : chars ≠ []) (quiet : ∀ c ∈ chars, Quiet c)
    (pen : Pen) : (pen.mark chars).scan = pen.scan.settled := by
  change (pen.put (if pen.gap then chars else ' ' :: chars)).scan = _
  rw [put_scan]
  split
  · exact through_quiet some quiet _
  · rw [through_cons, step_quiet quiet_space, settled_through_quiet quiet]

theorem entry_mark_scan {c : Char} (quiet : Quiet c) (pen : Pen) :
    (pen.entryMark c).scan = pen.scan.settled := by
  change (pen.put (if pen.gap then [c] else [' ', c])).scan = _
  rw [put_scan]
  split <;> simp [step_quiet quiet, step_quiet quiet_space]

theorem close_mark_scan (chars : List Char) (pen : Pen) :
    (pen.closeMark chars).scan = pen.scan.through chars := put_scan chars pen

end Pen

open Pen

/-! ## Runs of characters -/

theorem space_of_kind {c : Char} (kind : runKind c = .spaces) : isSpace c = true := by
  unfold runKind at kind
  split at kind
  · assumption
  · split at kind <;> cases kind

theorem break_of_kind {c : Char} (kind : runKind c = .breaks) : isTextBreak c = true := by
  unfold runKind at kind
  split at kind
  · cases kind
  · split at kind
    · assumption
    · cases kind

/-- Characters of one kind, and one at least. -/
def IsRun (run : List Char) : Prop :=
  run ≠ [] ∧ run.Pairwise fun c other => runKind c = runKind other

theorem runs_of_are_runs (text : List Char) : ∀ run ∈ runsOf text, IsRun run := by
  intro run member
  have chain : run.IsChain (fun c other => runKind c = runKind other) := by
    simpa [runsOf] using List.isChain_of_mem_splitBy member
  exact ⟨List.ne_nil_of_mem_splitBy member, List.isChain_iff_pairwise.mp chain⟩

theorem runs_of_flatten (text : List Char) : (runsOf text).flatten = text :=
  List.flatten_splitBy _ _

/-- A run that is folded is one space. -/
theorem folded_run {run : List Char} {pen : Pen} (spaces : run.head?.any isSpace = true)
    (folds : foldsAt run pen = true) : run = [' '] := by
  cases run with
  | nil => simp at spaces
  | cons c rest =>
      have first : c = ' ' := by simpa [isSpace] using spaces
      have single : rest = [] := by
        simp only [foldsAt, List.length_cons, Bool.and_eq_true, beq_iff_eq] at folds
        exact List.length_eq_zero_iff.mp (by omega)
      rw [first, single]

/-- Folding puts a line break for a space, so a plain text is written with its own break marks. -/
theorem plain_runs_scan (indent : Nat) (split : Bool) (runs : List (List Char)) (pen : Pen)
    (unfresh : pen.fresh = false) :
    (plainRuns indent split runs pen).scan = pen.scan.through runs.flatten := by
  induction runs generalizing pen with
  | nil => rfl
  | cons run rest ih =>
      rw [plainRuns, List.flatten_cons, through_append]
      split
      · rename_i folds
        simp only [Bool.and_eq_true] at folds
        rw [ih _ rfl, continue_at_scan unfresh, folded_run folds.1.1 folds.1.2]
        simp [step_quiet quiet_space]
      · rw [ih (pen.put run) unfresh, put_scan]

/-- Between quotes a line break stands for itself and for what is put around it. -/
theorem written_breaks_scan {breaks : List Char} (some : breaks ≠ [])
    (all : ∀ c ∈ breaks, isTextBreak c = true) (indent : Nat) (pen : Pen) :
    (writtenBreaks indent breaks pen).scan = pen.scan.settled := by
  have quiet : ∀ c ∈ breaks, Quiet c := fun c member => quiet_of_break (all c member)
  have folded (breaks : List Char) (pen : Pen) :
      (breaks.foldl (fun pen c => pen.breakLine c) pen).scan = pen.scan.through breaks := by
    induction breaks generalizing pen with
    | nil => rfl
    | cons c rest ih => rw [List.foldl_cons, ih, break_line_scan, through_cons]
  have doubled : (if breaks.head? = .some '\n' then pen.breakLine '\n' else pen).scan.settled =
      pen.scan.settled := by
    split
    · rw [break_line_scan, step_quiet (quiet_of_break rfl), settled_settled]
    · rfl
  unfold writtenBreaks
  rw [to_column_scan, folded, through_quiet some quiet, settled_settled, doubled]
  intro _
  right
  rw [folded, through_quiet some quiet, settled_pending]

theorem doubled_quotes_scan (scan : BreakScan) (word : List Char) :
    scan.through (doubledQuotes word) = scan.through word := by
  induction word generalizing scan with
  | nil => rfl
  | cons c rest ih =>
      have unfolded : doubledQuotes (c :: rest) =
          (if c = '\'' then ['\'', '\''] else [c]) ++ doubledQuotes rest := rfl
      rw [unfolded, through_append, ih, through_cons]
      congr 1
      split
      · rename_i quote
        have quiet : Quiet c := by
          rw [quote]
          constructor <;> decide
        rw [← quote]
        simp [step_quiet quiet]
      · rfl

theorem quoted_runs_scan {indent : Nat} (narrow : indent ≤ lineWidth) (split first : Bool)
    (runs : List (List Char)) (kinds : ∀ run ∈ runs, IsRun run) (pen : Pen) :
    (quotedRuns indent split first runs pen).scan = pen.scan.through runs.flatten := by
  induction runs generalizing first pen with
  | nil => rfl
  | cons run rest ih =>
      have own := kinds run List.mem_cons_self
      have others := fun other member => kinds other (List.mem_cons_of_mem _ member)
      rw [quotedRuns, ih false others, List.flatten_cons, through_append]
      congr 1
      cases run with
      | nil => exact absurd rfl own.1
      | cons c run =>
          simp only [List.head?_cons, Option.map_some, Option.getD_some]
          cases kind : runKind c with
          | word => rw [put_scan, doubled_quotes_scan]
          | breaks =>
              have all : ∀ other ∈ c :: run, isTextBreak other = true := by
                intro other member
                have same : runKind other = .breaks := by
                  rcases List.mem_cons.mp member with rfl | later
                  · exact kind
                  · rw [← kind]
                    exact (List.rel_of_pairwise_cons own.2 later).symm
                exact break_of_kind same
              rw [written_breaks_scan own.1 all,
                through_quiet own.1 fun other member => quiet_of_break (all other member)]
          | spaces =>
              have space : isSpace c = true := space_of_kind kind
              dsimp only
              split
              · rename_i folds
                simp only [Bool.and_eq_true] at folds
                have wide : lineWidth < pen.column := by
                  have folded := folds.1.1.1
                  simp only [foldsAt, Bool.and_eq_true, decide_eq_true_eq] at folded
                  exact folded.2
                rw [to_column_scan fun _ => .inl (Nat.lt_of_le_of_lt narrow wide),
                  folded_run (by simpa using space) folds.1.1.1]
                simp [step_quiet quiet_space]
              · rw [put_scan]

/-! ## Escapes -/

theorem capital_hex_digits_plain (width number : Nat) :
    ∀ c ∈ capitalHexDigits width number, c ≠ '\\' := by
  have plain : ∀ digit < 16, (Text.hexDigit digit).toUpper ≠ '\\' := by decide
  induction width generalizing number with
  | zero => simp [capitalHexDigits, Text.hexDigits]
  | succ width ih =>
      intro c member
      simp only [capitalHexDigits, Text.hexDigits, List.map_append, List.mem_append,
        List.map_cons, List.map_nil, List.mem_singleton] at member
      rcases member with early | rfl
      · exact ih (number / 16) c early
      · exact plain _ (Nat.mod_lt _ (by decide))

/-- After a sign that begins no break mark, characters other than backslashes leave nothing
pending. -/
theorem through_plain {text : List Char} (plain : ∀ c ∈ text, c ≠ '\\') {scan : BreakScan}
    (none : scan.pending = false) : scan.through text = scan := by
  induction text generalizing scan with
  | nil => rfl
  | cons c rest ih =>
      have first : (c == '\\') = false := by simpa using plain c List.mem_cons_self
      have same : scan.step c = scan := by
        cases scan
        cases none
        simp [step, first]
      rw [through_cons, same]
      exact ih (fun other member => plain other (List.mem_cons_of_mem _ member)) none

/-- No escape but that of a line feed is a break mark, and only that of a backslash ends with a
backslash. -/
theorem escaped_scan {c : Char} (feed : c ≠ '\n') (scan : BreakScan) :
    scan.through (escaped c) = ⟨scan.found, c == '\\'⟩ := by
  have numbered (sign : Char) (apart : sign ≠ '\\' ∧ sign ≠ 'n') (width : Nat) (own : c ≠ '\\') :
      scan.through ('\\' :: sign :: capitalHexDigits width c.toNat) = ⟨scan.found, c == '\\'⟩ := by
    have other : (c == '\\') = false := by simpa using own
    rw [through_cons, through_cons, step_quiet apart,
      through_plain (capital_hex_digits_plain _ _) rfl, other]
    simp [settled, step]
  unfold escaped
  split
  case h_5 => exact absurd rfl feed
  case h_16 =>
    rename_i own _ _ _ _
    have first : c ≠ '\\' := own
    split
    · exact numbered 'x' (by constructor <;> decide) 2 first
    · split
      · exact numbered 'u' (by constructor <;> decide) 4 first
      · exact numbered 'U' (by constructor <;> decide) 8 first
  all_goals simp [step]

theorem escaped_feed_scan (scan : BreakScan) : scan.through (escaped '\n') = ⟨true, false⟩ := by
  simp [escaped, step]

theorem fold_escaped_scan {pen : Pen} (unfresh : pen.fresh = false) (indent : Nat)
    (beforeSpace : Bool) :
    (foldEscaped indent beforeSpace pen).scan = ⟨pen.scan.found, beforeSpace⟩ := by
  have ends : ((pen.put ['\\']).continueAt indent).scan = pen.scan.settled := by
    have still : (pen.put ['\\']).fresh = false := unfresh
    rw [continue_at_scan still, put_scan]
    simp [step, settled]
  unfold foldEscaped
  cases beforeSpace with
  | false => exact ends
  | true =>
      simp only [if_true, put_scan, ends]
      simp [step, settled]

theorem fold_escaped_fresh (indent : Nat) (beforeSpace : Bool) (pen : Pen) :
    (foldEscaped indent beforeSpace pen).fresh = false := by
  unfold foldEscaped
  split <;> rfl

theorem folded_or_not {pen : Pen} (unfresh : pen.fresh = false) (indent : Nat)
    (beforeSpace folds : Bool) :
    let after := if folds = true then foldEscaped indent beforeSpace pen else pen
    after.fresh = false ∧ after.scan.found = pen.scan.found ∧
      (after.scan.pending = true → beforeSpace = true ∨ pen.scan.pending = true) := by
  cases folds with
  | false => exact ⟨unfresh, rfl, .inr⟩
  | true =>
      dsimp only
      rw [if_pos rfl, fold_escaped_scan unfresh]
      exact ⟨fold_escaped_fresh _ _ _, rfl, .inl⟩

theorem unescaped_plain {wide : Bool} {c : Char} (stands : standsUnescaped wide c = true) :
    c ≠ '\\' := by
  rintro rfl
  revert stands
  cases wide <;> decide

theorem feed_escaped (wide : Bool) : standsUnescaped wide '\n' = false := by
  cases wide <;> decide

/-- What one character of a text between double quotes does, with the rest of the text behind it. -/
structure Escapes (c : Char) (rest : List Char) (pen after : Pen) : Prop where
  unfresh : after.fresh = false
  /-- Unless it is a line feed, it completes a break mark only as an `n` behind a backslash. -/
  keeps : c ≠ '\n' → (pen.scan.pending = true → c ≠ 'n') → after.scan.found = pen.scan.found
  /-- A line feed is written as a break mark. -/
  marks : pen.scan.found = true ∨ c = '\n' → after.scan.found = true
  /-- What is pending is a backslash that stands for itself, or one before a space. -/
  pends : after.scan.pending = true → c = '\\' ∨ rest.head?.any isSpace = true

theorem put_escapes {wide : Bool} {c : Char} (stands : standsUnescaped wide c = true)
    (rest : List Char) {pen : Pen} (unfresh : pen.fresh = false) (indent : Nat) (folds : Bool) :
    Escapes c rest pen
      ((if folds = true then foldEscaped indent (isSpace c) pen else pen).put [c]) := by
  have plain : (c == '\\') = false := by simpa using unescaped_plain stands
  have kept := folded_or_not unfresh indent (isSpace c) folds
  generalize (if folds = true then foldEscaped indent (isSpace c) pen else pen) = before at kept ⊢
  obtain ⟨still, same, pends⟩ := kept
  have written : (before.put [c]).scan =
      ⟨pen.scan.found || (before.scan.pending && c == 'n'), false⟩ := by
    rw [put_scan, through_cons, through_nil, step, plain, same]
  refine ⟨still, ?_, ?_, ?_⟩
  · intro _ follows
    have silent : (before.scan.pending && c == 'n') = false := by
      by_contra marked
      obtain ⟨pending, rfl⟩ : before.scan.pending = true ∧ c = 'n' := by simpa using marked
      rcases pends pending with space | pending
      · cases space
      · exact follows pending rfl
    rw [written, silent, Bool.or_false]
  · rintro (found | rfl)
    · rw [written, found, Bool.true_or]
    · rw [feed_escaped] at stands
      cases stands
  · rw [written]
    exact nofun

theorem put_escaped_escapes (c : Char) (rest : List Char) {pen : Pen} (unfresh : pen.fresh = false)
    (indent : Nat) (folds : Bool) :
    Escapes c rest pen
      (if folds = true then foldEscaped indent (rest.head?.any isSpace) (pen.put (escaped c))
        else pen.put (escaped c)) := by
  have put : (pen.put (escaped c)).fresh = false := unfresh
  obtain ⟨still, same, pends⟩ := folded_or_not put indent (rest.head?.any isSpace) folds
  refine ⟨still, ?_, ?_, ?_⟩
  · intro own _
    rw [same, put_scan, escaped_scan own]
  · rintro (found | rfl)
    · rw [same, put_scan, through_found, found]
      rfl
    · rw [same, put_scan, escaped_feed_scan]
  · intro pending
    rcases pends pending with space | pending
    · exact .inr space
    · rw [put_scan] at pending
      by_cases own : c = '\n'
      · rw [own, escaped_feed_scan] at pending
        cases pending
      · rw [escaped_scan own] at pending
        exact .inl (by simpa using pending)

theorem escaped_chars_step (wide : Bool) (indent : Nat) (split first afterEscape : Bool) (c : Char)
    (rest : List Char) {pen : Pen} (unfresh : pen.fresh = false) :
    ∃ escape next, Escapes c rest pen next ∧
      escapedChars wide indent split first afterEscape (c :: rest) pen =
        escapedChars wide indent split false escape rest next := by
  rw [escapedChars]
  dsimp only
  split
  · rename_i stands
    exact ⟨false, _, put_escapes stands rest unfresh indent _, rfl⟩
  · exact ⟨true, _, put_escaped_escapes c rest unfresh indent _, rfl⟩

/-- Between double quotes a text without break marks and line feeds gets none. -/
theorem escaped_chars_clean {wide : Bool} {indent : Nat} {split : Bool} {text : List Char}
    (marks : Text.occursIn breakMark text = false) (feeds : '\n' ∉ text)
    (first afterEscape : Bool) {pen : Pen} (unfresh : pen.fresh = false)
    (follows : pen.scan.pending = true → text.head? ≠ some 'n') :
    (escapedChars wide indent split first afterEscape text pen).scan.found = pen.scan.found := by
  induction text generalizing first afterEscape pen with
  | nil => rfl
  | cons c rest ih =>
      have later : Text.occursIn breakMark rest = false := by
        simp only [Text.occursIn, Bool.or_eq_false_iff] at marks
        exact marks.2
      have apart : '\n' ∉ rest := fun member => feeds (List.mem_cons_of_mem _ member)
      have own : c ≠ '\n' := fun same => feeds (same ▸ List.mem_cons_self)
      have ends : c = '\\' → rest.head? ≠ some 'n' := by
        rintro rfl next
        rw [Text.occursIn, break_mark_in_front, next] at marks
        simp at marks
      obtain ⟨escape, next, writes, steps⟩ :=
        escaped_chars_step wide indent split first afterEscape c rest unfresh
      have head : next.scan.pending = true → rest.head? ≠ some 'n' := by
        intro pending feed
        rcases writes.pends pending with slash | space
        · exact ends slash feed
        · rw [feed] at space
          cases space
      have kept := writes.keeps own fun pending same => follows pending (by rw [same]; rfl)
      rw [steps, ih later apart _ _ writes.unfresh head, kept]

/-- Between double quotes a line feed gives a break mark. -/
theorem escaped_chars_marks {wide : Bool} {indent : Nat} {split : Bool} {text : List Char}
    (first afterEscape : Bool) {pen : Pen} (unfresh : pen.fresh = false)
    (marked : pen.scan.found = true ∨ '\n' ∈ text) :
    (escapedChars wide indent split first afterEscape text pen).scan.found = true := by
  induction text generalizing first afterEscape pen with
  | nil => exact marked.resolve_right List.not_mem_nil
  | cons c rest ih =>
      obtain ⟨escape, next, writes, steps⟩ :=
        escaped_chars_step wide indent split first afterEscape c rest unfresh
      rw [steps]
      apply ih _ _ writes.unfresh
      rcases marked with earlier | member
      · exact .inl (writes.marks (.inl earlier))
      · rcases List.mem_cons.mp member with same | later
        · exact .inl (writes.marks (.inr same.symm))
        · exact .inr later

/-! ## Texts -/

/-- A text that is written without break marks: it has none, and no line feeds that would have to be
escaped. -/
def Intact (wide key : Bool) (text : String) : Prop :=
  Text.occursIn breakMark text.toList = false ∧
    ('\n' ∈ text.toList → styleOf wide key text ≠ .doubleQuotes)

instance (wide key : Bool) (text : String) : Decidable (Intact wide key text) :=
  inferInstanceAs (Decidable (_ ∧ _))

/-- A text that is written with a break mark: one of its own that nothing is put into, or an escaped
line feed. -/
def Damaged (wide key : Bool) (text : String) : Prop :=
  if styleOf wide key text = .doubleQuotes then '\n' ∈ text.toList
  else Text.occursIn breakMark text.toList = true

instance (wide key : Bool) (text : String) : Decidable (Damaged wide key text) := by
  unfold Damaged
  infer_instance

theorem plain_runs_fresh (indent : Nat) (split : Bool) (runs : List (List Char)) (pen : Pen)
    (unfresh : pen.fresh = false) : (plainRuns indent split runs pen).fresh = false := by
  induction runs generalizing pen with
  | nil => exact unfresh
  | cons run rest ih =>
      rw [plainRuns]
      split
      · exact ih _ rfl
      · exact ih (pen.put run) unfresh

theorem write_plain_scan (indent : Nat) (split : Bool) (text : List Char) {pen : Pen}
    (ready : pen.scan.pending = false) :
    (writePlain indent split text pen).scan = pen.scan.through text ∧
      (writePlain indent split text pen).fresh = false := by
  have spaced : (if pen.gap then pen else pen.put [' ']).scan = pen.scan := by
    split
    · rfl
    · rw [put_scan, through_quiet (by simp) (by simpa using quiet_space),
        settled_of_not_pending ready]
  unfold writePlain
  dsimp only
  generalize (if pen.gap then pen else pen.put [' ']) = before at spaced
  have same : ({ before with gap := false, fresh := false } : Pen).scan = pen.scan := spaced
  exact ⟨by rw [plain_runs_scan _ _ _ _ rfl, same, runs_of_flatten], plain_runs_fresh _ _ _ _ rfl⟩

theorem write_single_quoted_scan {indent : Nat} (narrow : indent ≤ lineWidth) (split : Bool)
    (text : List Char) {pen : Pen} (ready : pen.scan.pending = false) :
    (writeSingleQuoted indent split text pen).scan = (pen.scan.through text).settled := by
  have quote : ∀ c ∈ ['\''], Quiet c := quiet_single _ (by constructor <;> decide)
  unfold writeSingleQuoted
  rw [close_mark_scan, quoted_runs_scan narrow _ _ _ (runs_of_are_runs text), runs_of_flatten,
    mark_scan (by simp) quote, settled_of_not_pending ready, through_quiet (by simp) quote]

theorem write_text_fresh (wide : Bool) (indent : Nat) (key : Bool) (text : String) {pen : Pen}
    (ready : pen.scan.pending = false) : (writeText wide indent key text pen).fresh = false := by
  unfold writeText
  cases styleOf wide key text with
  | plain => exact (write_plain_scan _ _ _ ready).2
  | singleQuotes => rfl
  | doubleQuotes => rfl

/-- An intact text is written without a break mark. -/
theorem write_text_intact {wide key : Bool} {text : String} (intact : Intact wide key text)
    {indent : Nat} (narrow : indent ≤ lineWidth) {pen : Pen} (ready : pen.scan.pending = false) :
    (writeText wide indent key text pen).scan.found = pen.scan.found := by
  obtain ⟨marks, feeds⟩ := intact
  have plain : (pen.scan.through text.toList).found = pen.scan.found := by
    rw [through_found, ready, marks, Bool.false_and, Bool.or_false, Bool.or_false]
  unfold writeText
  cases style : styleOf wide key text with
  | plain =>
      dsimp only
      rw [(write_plain_scan _ _ _ ready).1, plain]
  | singleQuotes =>
      dsimp only
      rw [write_single_quoted_scan narrow _ _ ready, settled_found, plain]
  | doubleQuotes =>
      dsimp only
      have none : '\n' ∉ text.toList := fun member => feeds member style
      unfold writeDoubleQuoted
      rw [close_mark_scan, through_quiet (by simp) quote_quiet, settled_found,
        escaped_chars_clean marks none _ _ rfl]
      · rw [mark_scan (by simp) quote_quiet, settled_found]
      · rw [mark_scan (by simp) quote_quiet, settled_pending]
        exact nofun

/-- A break mark that was written stays, and a damaged text is written with one. -/
theorem write_text_marks {wide key : Bool} {text : String} {indent : Nat}
    (narrow : indent ≤ lineWidth) {pen : Pen} (ready : pen.scan.pending = false)
    (marked : pen.scan.found = true ∨ Damaged wide key text) :
    (writeText wide indent key text pen).scan.found = true := by
  have plain (own : styleOf wide key text ≠ .doubleQuotes) :
      (pen.scan.through text.toList).found = true := by
    rw [through_found]
    rcases marked with earlier | damaged
    · rw [earlier]
      rfl
    · rw [Damaged, if_neg own] at damaged
      rw [damaged, Bool.or_true]
  unfold writeText
  cases style : styleOf wide key text with
  | plain =>
      dsimp only
      rw [(write_plain_scan _ _ _ ready).1, plain (by simp [style])]
  | singleQuotes =>
      dsimp only
      rw [write_single_quoted_scan narrow _ _ ready, settled_found, plain (by simp [style])]
  | doubleQuotes =>
      dsimp only
      unfold writeDoubleQuoted
      rw [close_mark_scan, through_quiet (by simp) quote_quiet, settled_found]
      apply escaped_chars_marks _ _ rfl
      rw [mark_scan (by simp) quote_quiet, settled_found]
      rwa [Damaged, if_pos style] at marked

end FixtureImages.Yaml
