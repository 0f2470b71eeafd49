import FixtureImages.Proofs.Yaml.DoubleQuotes
import FixtureImages.Proofs.Yaml.Marks
import FixtureImages.Proofs.Yaml.PlainScalar

/-!
# Written scalars as tokens

A written scalar becomes one token, whether it is a value with a new line behind it or a key with its
colon behind it.
-/

namespace FixtureImages.Yaml

set_option autoImplicit false

/-- The forms in which a scalar is written, with lines that go on at a column. -/
inductive ScalarForm (indent : Nat) : Token → List Char → Prop
  | plain {wide : Bool} {text piece : List Char} : allowsPlain wide text = true → text ≠ [] →
      PlainPiece indent (runsOf text) piece →
        ScalarForm indent (.scalar (String.ofList text) true) piece
  | quoted {double : Bool} {text piece : List Char} : QuotedPiece double text piece →
      ScalarForm indent (.scalar (String.ofList text) false)
        (quoteMark double :: (piece ++ [quoteMark double]))

/-! ## How a plain text begins -/

theorem take_three_ne {mark : Char} {word rest other : List Char} (stops : rest.head? ≠ some mark)
    (apart : (word ++ other).take 3 ≠ [mark, mark, mark]) :
    (word ++ rest).take 3 ≠ [mark, mark, mark] := by
  match word with
  | [] | [_] | [_, _] =>
      cases rest with
      | nil => simp
      | cons c rest =>
          intro same
          simp_all
  | a :: b :: c :: _ => simpa using apart

/-- A plain text begins with a word, behind which there is white space or nothing, both in the text
and as it is written. -/
theorem PlainRuns.first {runs : List (List Char)} (form : PlainRuns runs) {indent : Nat}
    {piece : List Char} (written : PlainPiece indent runs piece) :
    ∃ word text more, PlainWord word ∧ runs.flatten = word ++ text ∧ piece = word ++ more ∧
      (∀ c, text.head? = some c → isGapOrEnd c = true) ∧
      (∀ c, more.head? = some c → isGapOrEnd c = true) := by
  cases form with
  | @last word single =>
      obtain ⟨more, rfl, none⟩ := written.word single
      cases none
      exact ⟨word, [], [], single, by simp, rfl, by simp, by simp⟩
  | @more word others count single form =>
      obtain ⟨more, rfl, behind⟩ := written.word single
      refine ⟨word, _, more, single, List.flatten_cons, rfl, ?_, ?_⟩
      · intro c first
        cases first
        rfl
      · generalize spaces : List.replicate (count + 1) ' ' = run at behind
        cases behind with
        | keep rest =>
            subst spaces
            intro c first
            cases first
            rfl
        | fold rest =>
            intro c first
            cases first
            rfl

theorem plain_start {wide : Bool} {indent : Nat} {text piece rest : List Char}
    (plain : allowsPlain wide text = true) (some : text ≠ [])
    (written : PlainPiece indent (runsOf text) piece)
    (stops : ∀ c, rest.head? = .some c → isGapOrEnd c = true ∨ c = ':') :
    ∃ c others, piece ++ rest = c :: others ∧ Lexer.PlainStart c others := by
  obtain ⟨word, textRest, more, single, parts, rfl, gap, blank⟩ :=
    (plain_runs_of plain some).first written
  rw [runs_of_flatten] at parts
  have front : hasMarkInFront text = false := by
    simp only [allowsPlain, Bool.not_eq_true', Bool.or_eq_false_iff] at plain
    exact plain.1.2
  obtain ⟨c, others, rfl⟩ := List.exists_cons_of_ne_nil single.some
  rw [parts, List.cons_append] at front
  simp only [hasMarkInFront, Bool.or_eq_false_iff, Bool.and_eq_false_iff] at front
  obtain ⟨⟨hyphens, points⟩, marks, entry⟩ := front
  refine ⟨c, others ++ (more ++ rest), by simp, (single.solid c List.mem_cons_self).2, ?_, ?_, ?_⟩
  · intro mark member same
    have all : ∀ mark ∈ ",[]\x7b\x7d#&*!|>'\"%@\x60".toList,
        mark ∈ "#,[]\x7b\x7d&*!|>'\"%@\x60".toList := each_of_chars (by decide)
    rw [List.contains_eq_mem, decide_eq_false_iff_not] at marks
    exact marks (same ▸ all mark member)
  · intro member
    cases others with
    | nil =>
        have follows : (textRest.head?.all isGapOrEnd) = true := by
          cases textRest with
          | nil => rfl
          | cons d _ => simpa using gap d rfl
        rw [List.nil_append, follows] at entry
        rcases entry with ⟨⟨question, colon⟩, hyphen⟩ | none
        · simp_all
        · cases none
    | cons d others => exact (single.solid d (by simp)).2
  · intro mark member
    have behind : (more ++ rest).head? ≠ .some mark := by
      have visible : isGapOrEnd mark = false ∧ mark ≠ ':' :=
        (show ∀ mark ∈ ['-', '.'], isGapOrEnd mark = false ∧ mark ≠ ':' from
          each_of_chars (by decide)) mark member
      intro first
      cases more with
      | nil =>
          rcases stops mark first with blank | colon
          · rw [visible.1] at blank
            cases blank
          · exact visible.2 colon
      | cons d _ =>
          cases first
          have own := blank mark rfl
          rw [visible.1] at own
          cases own
    have apart : (c :: others ++ textRest).take 3 ≠ [mark, mark, mark] := by
      rw [beq_eq_false_iff_ne] at hyphens points
      simp only [List.mem_cons, List.not_mem_nil, or_false] at member
      rcases member with rfl | rfl
      · exact hyphens
      · exact points
    exact take_three_ne behind apart

variable {indent : Nat} {token : Token} {body rest : List Char}

/-- A scalar begins with something that no line could be thought to go on before. -/
theorem ScalarForm.starts (form : ScalarForm indent token body)
    (stops : ∀ c, rest.head? = some c → isGapOrEnd c = true ∨ c = ':') (column : Nat) :
    Cursor.LineStart column (body ++ rest) := by
  cases form with
  | plain plain some written =>
      obtain ⟨c, others, same, start⟩ := plain_start plain some written stops
      obtain ⟨d, first, solid, gap, comment⟩ := (plain_runs_of plain some).visible written rest
      constructor
      · intro c own
        rw [first] at own
        cases own
        refine ⟨?_, comment, solid⟩
        rintro rfl
        cases gap
      · intro _ cursor here
        rw [same] at here
        have apart (mark : Char) (member : mark ∈ ['-', '.']) : cursor.atMark mark = false := by
          rw [Cursor.atMark, here, beq_eq_false_iff_ne.mpr (start.noDocument mark member),
            Bool.false_and]
        rw [Cursor.atDocumentMark, apart '-' (by decide), apart '.' (by decide)]
        rfl
  | @quoted double text piece quoted =>
      have quote : quoteMark double ≠ ' ' ∧ quoteMark double ≠ '#' ∧ quoteMark double ≠ '-' ∧
          quoteMark double ≠ '.' ∧ isBreak (quoteMark double) = false ∧
          quoteMark double ≠ byteOrderMark := by
        cases double <;> decide
      obtain ⟨space, comment, hyphen, point, solid⟩ := quote
      constructor
      · intro c own
        cases own
        exact ⟨space, comment, solid⟩
      · exact fun _ cursor here => Cursor.at_document_mark_eq_false here hyphen point

theorem ScalarForm.some (form : ScalarForm indent token body) : body ≠ [] := by
  cases form with
  | plain plain some written =>
      obtain ⟨c, first, -⟩ := (plain_runs_of plain some).visible written []
      rintro rfl
      cases first
  | quoted _ => exact List.cons_ne_nil _ _

theorem PlainPiece.allowed {runs : List (List Char)} {piece : List Char}
    (written : PlainPiece indent runs piece) (allowed : ∀ c ∈ runs.flatten, isAllowed c = true) :
    ∀ c ∈ piece, isAllowed c = true := by
  induction written with
  | nil => simp
  | keep _ ih =>
      rw [List.flatten_cons] at allowed
      intro c member
      rcases List.mem_append.mp member with own | other
      · exact allowed c (List.mem_append_left _ own)
      · exact ih (fun d more => allowed d (List.mem_append_right _ more)) c other
  | fold _ ih =>
      rw [List.flatten_cons] at allowed
      intro c member
      rcases List.mem_append.mp member with own | other
      · exact new_line_allowed indent c own
      · exact ih (fun d more => allowed d (List.mem_append_right _ more)) c other

theorem ScalarForm.allowed (form : ScalarForm indent token body) : ∀ c ∈ body, isAllowed c = true := by
  cases form with
  | plain plain some written =>
      refine written.allowed fun c member => ?_
      rw [runs_of_flatten] at member
      simp only [allowsPlain, Bool.not_eq_true', Bool.or_eq_false_iff, List.any_eq_false] at plain
      exact (written_of_not_special (by simpa using plain.1.1.2 c member)).allowed
  | @quoted double text piece quoted =>
      have quote : isAllowed (quoteMark double) = true := by cases double <;> rfl
      simp only [List.forall_mem_cons, List.forall_mem_append]
      exact ⟨quote, quoted.allowed, quote, by simp⟩

/-! ## Values -/

variable {tokens : List Token} {indents : List Int} {allowed : Bool} {cursor : Cursor} {column : Nat}

/-- Where the text is further in than the collection, a place for a key is not required. -/
theorem noted_free (inside : indents.headD (-1) < cursor.column) :
    ∀ place ∈ Lexer.noted tokens indents allowed cursor,
      place.line = cursor.line ∧ place.required = false := by
  intro place member
  unfold Lexer.noted at member
  split at member
  · obtain rfl := List.mem_singleton.mp member
    exact ⟨rfl, decide_eq_false (Int.ne_of_lt inside)⟩
  · cases member

theorem QuotedPiece.read {double : Bool} {text piece : List Char}
    (quoted : QuotedPiece double text piece)
    (here : cursor.rest = quoteMark double :: (piece ++ [quoteMark double]) ++ rest)
    (single : rest.head? ≠ some '\'') :
    (Lexer.ready tokens indents allowed [] cursor).readToken =
      .ok (.ready (.scalar (String.ofList text) false :: tokens) indents false
        (Lexer.noted tokens indents allowed cursor)
        (cursor.skip (quoteMark double :: (piece ++ [quoteMark double])).length)) := by
  have next : cursor.next.rest = piece ++ quoteMark double :: rest := by
    rw [Cursor.next_rest, here]
    simp
  have read := quoted_scalar_read (here.trans (List.cons_append ..))
    (quoted.reads cursor.next rest next single)
  have two : (quoteMark double :: (piece ++ [quoteMark double])).length = piece.length + 1 + 1 := by
    simp
  rw [← Cursor.skip_succ, ← two] at read
  exact Lexer.read_quoted (here.trans (List.cons_append ..)) read

/-- A scalar with a new line behind it is read as one token. -/
theorem ScalarForm.value (form : ScalarForm indent token body) (inner : 0 < indent)
    (deep : indents.headD (-1) < indent) (inside : indents.headD (-1) < cursor.column)
    (near : (column : Int) ≤ indents.headD (-1)) (start : Cursor.LineStart column rest)
    (here : cursor.rest = body ++ (newLine column ++ rest)) :
    Lexer.Proceeds (.ready tokens indents allowed [] cursor)
      ((Lexer.ready (token :: tokens) indents true [] (cursor.skip (body.length + (column + 1)))).endBlocks
        column) := by
  have behind := Cursor.skip_past here
  have place := Cursor.skip_new_line behind
  rw [← Cursor.skip_add] at place
  have after : (cursor.skip (body.length + (column + 1))).rest = rest := by rw [place]
  have line := Cursor.skip_line_le body.length cursor
  have length : rest.length + 1 + (body.length + column) = cursor.rest.length := by
    rw [here, List.length_append, List.length_append, new_line_length]
    omega
  cases form with
  | @plain wide text piece plain some written =>
      have read := plain_scalar_read deep inner (.line (Int.lt_add_one_of_le near) start) plain some
        written here (Int.le_of_lt inside)
      obtain ⟨c, others, same, begins⟩ : ∃ c others, body ++ (newLine column ++ rest) = c :: others ∧
          Lexer.PlainStart c others := plain_start plain some written (fun c first => by
        cases first
        exact .inl rfl)
      refine ⟨_, Lexer.read_plain (here.trans same) begins read, ?_, .of_arrive rfl ?_ (Nat.le_refl _)⟩
      · show (cursor.skip (body.length + (column + 1))).rest.length < cursor.rest.length
        rw [after]
        omega
      · rw [Lexer.arrive_here, place]
        · rw [place]
          exact start.goesOn
        · intro key member
          obtain ⟨same, free⟩ := noted_free inside key member
          rw [place, same]
          exact ⟨Nat.lt_succ_of_le line, free⟩
  | @quoted double text piece quoted =>
      refine ⟨_, quoted.read here (by simp [newLine]), ?_, .of_arrive rfl ?_ ?_⟩
      · show (cursor.skip _).rest.length < cursor.rest.length
        exact Cursor.skip_shorter here (List.cons_ne_nil _ _)
      · rw [Lexer.arrive_line behind start.goesOn, ← Cursor.skip_add]
        intro key member
        obtain ⟨same, free⟩ := noted_free inside key member
        rw [same]
        exact ⟨line, free⟩
      · rw [Lexer.end_blocks_cursor]
        show (cursor.skip _).rest.length ≤ (cursor.skip _).rest.length
        rw [after, behind, List.length_append]
        omega

/-! ## Keys -/

/-- A scalar on one line, with a colon and a gap behind it, is read as a key. -/
theorem ScalarForm.key (form : ScalarForm indent token body) (inner : 0 < indent)
    (deep : indents.headD (-1) < indent) (inside : indents.headD (-1) ≤ cursor.column)
    (single : ∀ c ∈ body, Solid c) (short : body.length ≤ 1024)
    (gap : isGapOrEnd (rest.headD '\x00') = true) (here : cursor.rest = body ++ ':' :: rest)
    {after : Lexer}
    (reaches : Lexer.Reaches
      (.ready (.value :: token :: .key :: (Lexer.opened .blockMapping cursor.column tokens indents).1)
        (Lexer.opened .blockMapping cursor.column tokens indents).2 false []
        (cursor.skip (body.length + 1))) after) :
    Lexer.Proceeds (.ready tokens indents true [] cursor) after := by
  have behind := Cursor.skip_past here
  have place := Cursor.skip_solid here single
  have first : (Lexer.ready tokens indents true [] cursor).readToken =
      .ok (.ready (token :: tokens) indents false [Lexer.placeAt tokens indents cursor]
        (cursor.skip body.length)) := by
    cases form with
    | @plain wide text piece plain some written =>
        have read := plain_scalar_read deep inner (.key gap) plain some written here inside
        obtain ⟨c, others, same, begins⟩ : ∃ c others, body ++ ':' :: rest = c :: others ∧
            Lexer.PlainStart c others := plain_start plain some written (fun c first => by
          cases first
          exact .inr rfl)
        exact Lexer.read_plain (here.trans same) begins read
    | @quoted double text piece quoted =>
        exact quoted.read here (by simp)
  have arrives : (Lexer.ready (token :: tokens) indents false
      [Lexer.placeAt tokens indents cursor] (cursor.skip body.length)).arrive = _ :=
    Lexer.arrive_key (by
        rw [behind]
        intro c first
        cases first
        exact ⟨by decide, by decide, by decide, by decide⟩)
      (by rw [place]; rfl) (by
        rw [place]
        exact Nat.add_le_add_left short _) (by
        rw [place]
        push_cast
        omega)
  have value : (Lexer.ready (token :: tokens) indents false
      [Lexer.placeAt tokens indents cursor] (cursor.skip body.length)).readToken = _ :=
    Lexer.read_value_key rfl rfl behind gap
  have colon : (cursor.skip body.length).next = cursor.skip (body.length + 1) := by
    rw [Cursor.skip_add, Cursor.skip_one]
  rw [colon] at value
  have shorter : (cursor.skip (body.length + 1)).rest.length < (cursor.skip body.length).rest.length := by
    rw [← colon, Cursor.next_rest, behind]
    exact Nat.lt_succ_self _
  exact ⟨_, first, Cursor.skip_shorter here form.some,
    (Lexer.Reaches.of_arrive rfl arrives (Nat.le_refl _)).then ⟨_, value, shorter, reaches⟩⟩

end FixtureImages.Yaml
