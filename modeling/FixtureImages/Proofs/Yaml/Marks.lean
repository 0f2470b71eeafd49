import FixtureImages.Proofs.Yaml.Lexing
import FixtureImages.Proofs.Yaml.Quoted

/-!
# Reading single tokens

What the lexer makes of the marks and scalars of a written document, outside of brackets.
-/

namespace FixtureImages.Yaml.Lexer

set_option autoImplicit false

variable {tokens : List Token} {indents : List Int} {allowed : Bool} {places : List KeyPlace}
  {cursor : Cursor} {rest : List Char}

/-! ## Moves of a lexer outside of brackets -/

theorem ready_allow (value : Bool) :
    (ready tokens indents allowed places cursor).allowKey value =
      ready tokens indents value places cursor := rfl

theorem ready_drop :
    (ready tokens indents allowed [] cursor).dropKeyPlace =
      .ok (ready tokens indents allowed [] cursor) := rfl

/-- Tokens and indentation after a block collection is opened at a column further in. -/
def opened (opening : Token) (column : Nat) (tokens : List Token) (indents : List Int) :
    List Token × List Int :=
  if indents.headD (-1) < (column : Int) then (opening :: tokens, (column : Int) :: indents)
  else (tokens, indents)

theorem ready_open (opening : Token) (column : Nat) :
    (ready tokens indents allowed places cursor).openBlock column (·.emit opening) =
      ready (opened opening column tokens indents).1 (opened opening column tokens indents).2 allowed
        places cursor := by
  unfold openBlock opened indent
  by_cases further : indents.headD (-1) < (column : Int)
  · rw [if_pos further]
    exact if_pos further
  · rw [if_neg further]
    exact if_neg further

/-! ## Marks of entries -/

theorem block_mark_eq (opening mark : Token) (keyAllowed : Bool) :
    (ready tokens indents true [] cursor).blockMark opening mark keyAllowed =
      .ok (ready (mark :: (opened opening cursor.column tokens indents).1)
        (opened opening cursor.column tokens indents).2 keyAllowed [] cursor.next) := by
  have outside : (ready tokens indents true [] cursor).depth = 0 := rfl
  have open' : (ready tokens indents true [] cursor).keyAllowed = true := rfl
  have place : (ready tokens indents true [] cursor).cursor = cursor := rfl
  unfold blockMark
  simp only [outside, open', place, ready_open, ready_allow, ready_drop, if_true]
  rfl

theorem peek_at_one {c : Char} (here : cursor.rest = c :: rest) :
    cursor.peekAt 1 = rest.headD '\x00' := by
  rw [Cursor.peekAt, here]
  cases rest <;> rfl

/-- Three marks in a row are not followed by a gap behind the first. -/
theorem at_mark_gap {c mark : Char} (here : cursor.rest = c :: rest)
    (gap : isGapOrEnd (rest.headD '\x00') = true) (solid : isGapOrEnd mark = false) :
    cursor.atMark mark = false := by
  have differs : (cursor.rest.take 3 == [mark, mark, mark]) = false := by
    rw [here, beq_eq_false_iff_ne]
    cases rest with
    | nil => simp
    | cons d others =>
        intro same
        rw [List.take_succ_cons, List.take_succ_cons] at same
        injection same with _ same
        injection same with same _
        rw [List.headD_cons, same, solid] at gap
        cases gap
  rw [Cursor.atMark, differs, Bool.false_and]

theorem read_item_mark (here : cursor.rest = '-' :: rest)
    (gap : isGapOrEnd (rest.headD '\x00') = true) :
    (ready tokens indents true [] cursor).readToken =
      .ok (ready (.blockEntry :: (opened .blockSequence cursor.column tokens indents).1)
        (opened .blockSequence cursor.column tokens indents).2 true [] cursor.next) := by
  have hyphen : cursor.atMark '-' = false := at_mark_gap here gap rfl
  have point : cursor.atMark '.' = false := at_mark_gap here gap rfl
  have place : (ready tokens indents true [] cursor).cursor = cursor := rfl
  have outside : (ready tokens indents true [] cursor).depth = 0 := rfl
  unfold readToken
  simp only [place, outside, Cursor.peek_cons here, peek_at_one here, gap, hyphen, point, block_mark_eq,
    Bool.and_false]
  rfl

theorem read_key_mark (here : cursor.rest = '?' :: rest)
    (gap : isGapOrEnd (rest.headD '\x00') = true) :
    (ready tokens indents true [] cursor).readToken =
      .ok (ready (.key :: (opened .blockMapping cursor.column tokens indents).1)
        (opened .blockMapping cursor.column tokens indents).2 true [] cursor.next) := by
  have hyphen : cursor.atMark '-' = false := at_mark_gap here gap rfl
  have point : cursor.atMark '.' = false := at_mark_gap here gap rfl
  have place : (ready tokens indents true [] cursor).cursor = cursor := rfl
  have outside : (ready tokens indents true [] cursor).depth = 0 := rfl
  unfold readToken
  simp only [place, outside, Cursor.peek_cons here, peek_at_one here, gap, hyphen, point, block_mark_eq,
    Bool.and_false]
  rfl

/-- The mark of a value without a key on its line. -/
theorem read_value_mark (here : cursor.rest = ':' :: rest)
    (gap : isGapOrEnd (rest.headD '\x00') = true) :
    (ready tokens indents true [] cursor).readToken =
      .ok (ready (.value :: (opened .blockMapping cursor.column tokens indents).1)
        (opened .blockMapping cursor.column tokens indents).2 true [] cursor.next) := by
  have hyphen : cursor.atMark '-' = false := at_mark_gap here gap rfl
  have point : cursor.atMark '.' = false := at_mark_gap here gap rfl
  have place : (ready tokens indents true [] cursor).cursor = cursor := rfl
  have outside : (ready tokens indents true [] cursor).depth = 0 := rfl
  have mark : (ready tokens indents true [] cursor).valueMark = _ :=
    block_mark_eq .blockMapping .value true
  unfold readToken
  simp only [place, outside, Cursor.peek_cons here, peek_at_one here, gap, hyphen, point, mark,
    Bool.and_false]
  rfl

/-! ## Keys on one line -/

/-- The place of a token that may turn out to be a key. -/
def placeAt (tokens : List Token) (indents : List Int) (cursor : Cursor) : KeyPlace :=
  ⟨0, tokens.length, indents.headD (-1) = (cursor.column : Int), cursor.index, cursor.line,
    cursor.column⟩

/-- The places noted at a token: its own, where a key may stand. -/
def noted (tokens : List Token) (indents : List Int) (allowed : Bool) (cursor : Cursor) :
    List KeyPlace :=
  if allowed then [placeAt tokens indents cursor] else []

theorem mark_key_place_eq :
    (ready tokens indents allowed [] cursor).markKeyPlace =
      .ok (ready tokens indents allowed (noted tokens indents allowed cursor) cursor) := by
  cases allowed with
  | false => rfl
  | true =>
      simp only [markKeyPlace, ready, indent, dropKeyPlace, noted, placeAt, true_and, if_true]
      rfl

theorem key_like_eq {α : Type} {read : Cursor → Except Fault (α × Cursor)} {token : α → Token}
    {content : α} {after : Cursor} (reads : read cursor = .ok (content, after)) :
    (ready tokens indents allowed [] cursor).keyLike read token =
      .ok (ready (token content :: tokens) indents false (noted tokens indents allowed cursor)
        after) := by
  unfold keyLike
  rw [mark_key_place_eq]
  show (read cursor >>= _) = _
  rw [reads]
  rfl

/-- The colon behind a token on its line puts the mark of a key in front of the token. -/
theorem value_mark_key (token : Token) {place : KeyPlace} (depth : place.depth = 0)
    (number : place.token = tokens.length) :
    (ready (token :: tokens) indents allowed [place] cursor).valueMark =
      .ok (ready (.value :: token :: .key :: (opened .blockMapping place.column tokens indents).1)
        (opened .blockMapping place.column tokens indents).2 false [] cursor.next) := by
  have key : (ready (token :: tokens) indents allowed [] cursor).emitBefore place.token .key =
      ready (token :: .key :: tokens) indents allowed [] cursor := by
    simp only [emitBefore, ready, number, List.length_cons, Nat.add_sub_cancel_left]
    rfl
  have opening :
      (ready (token :: .key :: tokens) indents allowed [] cursor).openBlock place.column
          (·.emitBefore place.token .blockMapping) =
        ready (token :: .key :: (opened .blockMapping place.column tokens indents).1)
          (opened .blockMapping place.column tokens indents).2 allowed [] cursor := by
    have before (indents : List Int) :
        (ready (token :: .key :: tokens) indents allowed [] cursor).emitBefore place.token
            .blockMapping =
          ready (token :: .key :: .blockMapping :: tokens) indents allowed [] cursor := by
      have two : tokens.length + 1 + 1 - tokens.length = 2 := by omega
      simp only [emitBefore, ready, number, List.length_cons, two]
      rfl
    unfold openBlock opened indent
    by_cases further : indents.headD (-1) < (place.column : Int)
    · rw [if_pos further]
      exact (if_pos further).trans (before _)
    · rw [if_neg further]
      exact if_neg further
  unfold valueMark
  simp only [ready] at key opening ⊢
  simp only [depth, if_true, key, opening]
  rfl

theorem read_value_key {token : Token} {place : KeyPlace} (depth : place.depth = 0)
    (number : place.token = tokens.length) (here : cursor.rest = ':' :: rest)
    (gap : isGapOrEnd (rest.headD '\x00') = true) :
    (ready (token :: tokens) indents allowed [place] cursor).readToken =
      .ok (ready (.value :: token :: .key :: (opened .blockMapping place.column tokens indents).1)
        (opened .blockMapping place.column tokens indents).2 false [] cursor.next) := by
  have hyphen : cursor.atMark '-' = false := at_mark_gap here gap rfl
  have point : cursor.atMark '.' = false := at_mark_gap here gap rfl
  have at' : (ready (token :: tokens) indents allowed [place] cursor).cursor = cursor := rfl
  have outside : (ready (token :: tokens) indents allowed [place] cursor).depth = 0 := rfl
  unfold readToken
  simp only [at', outside, Cursor.peek_cons here, peek_at_one here, gap, hyphen, point,
    value_mark_key token depth number, Bool.and_false]
  rfl

/-! ## Scalars -/

theorem read_quoted {double : Bool} {text : String} {after : Cursor}
    (here : cursor.rest = quoteMark double :: rest)
    (reads : quotedScalar double cursor = .ok (text, after)) :
    (ready tokens indents allowed [] cursor).readToken =
      .ok (ready (.scalar text false :: tokens) indents false (noted tokens indents allowed cursor)
        after) := by
  have apart (mark : Char) (other : quoteMark double ≠ mark) : cursor.atMark mark = false :=
    Cursor.at_mark_eq_false fun c first => by
      rw [here] at first
      cases first
      exact other
  have hyphen := apart '-' (by cases double <;> decide)
  have point := apart '.' (by cases double <;> decide)
  have place : (ready tokens indents allowed [] cursor).cursor = cursor := rfl
  have like : (ready tokens indents allowed [] cursor).keyLike (quotedScalar double)
      (.scalar · false) = _ := key_like_eq reads
  unfold readToken
  simp only [place, Cursor.peek_cons here, hyphen, point, Bool.and_false]
  cases double with
  | false => exact like
  | true => exact like

/-- How a plain scalar begins: not like a mark, a quote or a property. -/
structure PlainStart (c : Char) (rest : List Char) : Prop where
  visible : isGapOrEnd c = false
  noMark : ∀ mark ∈ ",[]\x7b\x7d#&*!|>'\"%@\x60".toList, c ≠ mark
  apart : c ∈ ['-', '?', ':'] → isGapOrEnd (rest.headD '\x00') = false
  noDocument : ∀ mark ∈ ['-', '.'], (c :: rest).take 3 ≠ [mark, mark, mark]

theorem PlainStart.starts {c : Char} {rest : List Char} (start : PlainStart c rest) :
    startsPlain false c (rest.headD '\x00') = true := by
  by_cases mark : c ∈ ['-', '?', ':']
  · have follows := start.apart mark
    simp only [List.mem_cons, List.not_mem_nil, or_false] at mark
    rcases mark with rfl | rfl | rfl
    all_goals
      rw [startsPlain, follows]
      rfl
  · have none : "-?:,[]\x7b\x7d#&*!|>'\"%@\x60".toList.contains c = false := by
      rw [List.contains_eq_mem, decide_eq_false_iff_not]
      intro member
      have split : c ∈ ['-', '?', ':'] ++ ",[]\x7b\x7d#&*!|>'\"%@\x60".toList := member
      rcases List.mem_append.mp split with own | other
      · exact mark own
      · exact start.noMark c other rfl
    rw [startsPlain, start.visible, none]
    rfl

theorem plain_eq {text : String} {ended : Bool} {after : Cursor}
    (reads : plainScalar false (indents.headD (-1)) cursor = (text, ended, after)) :
    (ready tokens indents allowed [] cursor).plain =
      .ok (ready (.scalar text true :: tokens) indents ended (noted tokens indents allowed cursor)
        after) := by
  have inBlock (places : List KeyPlace) :
      plainScalar ((ready tokens indents allowed places cursor).depth != 0)
          (ready tokens indents allowed places cursor).indent
          (ready tokens indents allowed places cursor).cursor =
        (text, ended, after) := reads
  unfold plain
  rw [mark_key_place_eq]
  dsimp only [bind, Except.bind]
  rw [inBlock]
  rfl

theorem read_plain {c : Char} (here : cursor.rest = c :: rest) (start : PlainStart c rest)
    {text : String} {ended : Bool} {after : Cursor}
    (reads : plainScalar false (indents.headD (-1)) cursor = (text, ended, after)) :
    (ready tokens indents allowed [] cursor).readToken =
      .ok (ready (.scalar text true :: tokens) indents ended (noted tokens indents allowed cursor)
        after) := by
  have noDocument (mark : Char) (member : mark ∈ ['-', '.']) : cursor.atMark mark = false := by
    rw [Cursor.atMark, here, beq_eq_false_iff_ne.mpr (start.noDocument mark member), Bool.false_and]
  have place : (ready tokens indents allowed [] cursor).cursor = cursor := rfl
  have outside : (ready tokens indents allowed [] cursor).depth = 0 := rfl
  have other (mark : Char) (member : mark ∈ ",[]\x7b\x7d#&*!|>'\"%@\x60".toList) :
      (c == mark) = false := beq_eq_false_iff_ne.mpr (start.noMark mark member)
  have noEntry (mark : Char) (member : mark ∈ ['-', '?', ':']) :
      (c == mark && isGapOrEnd (rest.headD '\x00')) = false := by
    by_cases own : c = mark
    · rw [start.apart (own ▸ member), Bool.and_false]
    · rw [beq_eq_false_iff_ne.mpr own, Bool.false_and]
  have noEnd : isEnd c = false := (visible_parts start.visible).2.2.2
  unfold readToken
  simp only [place, outside, Cursor.peek_cons here, peek_at_one here, noDocument '-' (by decide),
    noDocument '.' (by decide), noEnd, other '%' (by decide), other '[' (by decide),
    other '\x7b' (by decide), other ']' (by decide), other '\x7d' (by decide), other ',' (by decide),
    noEntry '-' (by decide), noEntry '?' (by decide), noEntry ':' (by decide), other '*' (by decide),
    other '&' (by decide), other '!' (by decide), other '|' (by decide), other '>' (by decide),
    other '\'' (by decide), other '"' (by decide), start.starts, plain_eq reads, bne_self_eq_false,
    Bool.false_or, Bool.and_false, Bool.false_and, Bool.false_eq_true, if_false, if_true]

/-! ## On the line of a token -/

theorem to_next_token_here {lexer : Lexer} (goes : Cursor.GoesOn lexer.cursor.rest) :
    lexer.toNextToken = lexer := by
  have none : ¬(lexer.cursor.index = 0 ∧ lexer.cursor.peek = byteOrderMark) :=
    fun both => (goes.peek rfl).2.2.2 both.2
  have gap : skipGap (lexer.cursor.rest.length + 1) false lexer.cursor = (false, lexer.cursor) :=
    skip_gap_spaces (show lexer.cursor.rest = List.replicate 0 ' ' ++ lexer.cursor.rest from rfl) goes
      _ false
  simp only [toNextToken, none, if_false, gap, Bool.false_and, Bool.or_false]

/-- On its line and not too far behind it, the place of a key is still noted. -/
theorem drop_stale_fresh {lexer : Lexer}
    (fresh : ∀ place ∈ lexer.keyPlaces,
      place.line = lexer.cursor.line ∧ lexer.cursor.index ≤ place.index + 1024) :
    lexer.dropStale = .ok lexer := by
  have kept : ∀ place ∈ lexer.keyPlaces, isStale lexer.cursor place = false := by
    intro place member
    obtain ⟨line, near⟩ := fresh place member
    rw [isStale, line, bne_self_eq_false, Bool.false_or, decide_eq_false]
    omega
  have free : (lexer.keyPlaces.any fun place => isStale lexer.cursor place && place.required) =
      false := by
    rw [List.any_eq_false]
    intro place member
    simp [kept place member]
  have all : (lexer.keyPlaces.filter fun place => !isStale lexer.cursor place) = lexer.keyPlaces :=
    List.filter_eq_self.mpr fun place member => by simp [kept place member]
  rw [dropStale, free, all, if_neg Bool.false_ne_true]

theorem arrive_key {place : KeyPlace} (goes : Cursor.GoesOn cursor.rest)
    (line : place.line = cursor.line) (near : cursor.index ≤ place.index + 1024)
    (inside : indents.headD (-1) ≤ cursor.column) :
    (ready tokens indents false [place] cursor).arrive =
      .ok (ready tokens indents false [place] cursor) := by
  have next : (ready tokens indents false [place] cursor).toNextToken = _ := to_next_token_here goes
  have kept : (ready tokens indents false [place] cursor).dropStale = _ :=
    drop_stale_fresh fun own member => by
      obtain rfl := List.mem_singleton.mp member
      exact ⟨line, near⟩
  unfold arrive
  rw [next, kept]
  exact congrArg Except.ok (end_blocks_stay inside)

/-! ## Empty collections -/

/-- The brackets of an empty collection. -/
inductive EmptyBrackets : Char → Char → Token → Token → Prop
  | sequence : EmptyBrackets '[' ']' .flowSequence .flowSequenceEnd
  | mapping : EmptyBrackets '\x7b' '\x7d' .flowMapping .flowMappingEnd

/-- A lexer between the brackets of an empty collection. -/
def between (start : Token) (tokens : List Token) (indents : List Int) (allowed : Bool)
    (cursor : Cursor) : Lexer :=
  { ready (start :: tokens) indents true (noted tokens indents allowed cursor) cursor.next with
    depth := 1 }

theorem between_arrives {opening closing : Char} {start finish : Token}
    (brackets : EmptyBrackets opening closing start finish)
    (here : cursor.rest = opening :: closing :: rest) :
    (between start tokens indents allowed cursor).arrive =
      .ok (between start tokens indents allowed cursor) := by
  have solid : Solid opening ∧ Solid closing ∧ closing ≠ ' ' ∧ closing ≠ '#' := by
    cases brackets <;> exact ⟨⟨by decide, by decide⟩, ⟨by decide, by decide⟩, by decide, by decide⟩
  have next := Cursor.next_solid here solid.1
  have goes : Cursor.GoesOn (between start tokens indents allowed cursor).cursor.rest := by
    intro c first
    simp only [between, ready, next] at first
    cases first
    exact ⟨solid.2.2.1, solid.2.2.2, solid.2.1⟩
  unfold arrive
  rw [to_next_token_here goes, drop_stale_fresh]
  · rfl
  · intro place member
    simp only [between, ready, noted] at member ⊢
    cases allowed with
    | false => cases member
    | true =>
        obtain rfl := List.mem_singleton.mp member
        simp only [placeAt, next]
        exact ⟨trivial, by omega⟩

theorem flow_start_eq (start : Token) :
    (ready tokens indents allowed [] cursor).flowStart start =
      .ok (between start tokens indents allowed cursor) := by
  unfold flowStart
  rw [mark_key_place_eq]
  rfl

theorem flow_end_eq (start finish : Token) :
    (between start tokens indents allowed cursor).flowEnd finish =
      .ok (ready (finish :: start :: tokens) indents false (noted tokens indents allowed cursor)
        (cursor.skip 2)) := by
  cases allowed <;> rfl

theorem read_empty {opening closing : Char} {start finish : Token}
    (brackets : EmptyBrackets opening closing start finish)
    (here : cursor.rest = opening :: closing :: rest) {after : Lexer}
    (reaches : Reaches (ready (finish :: start :: tokens) indents false
      (noted tokens indents allowed cursor) (cursor.skip 2)) after) :
    Proceeds (ready tokens indents allowed [] cursor) after := by
  have behind : cursor.next.rest = closing :: rest := by
    rw [Cursor.next_rest, here, List.tail_cons]
  have noMark {place : Cursor} {c : Char} {text : List Char} (at' : place.rest = c :: text)
      (hyphen : c ≠ '-') (point : c ≠ '.') : place.atMark '-' = false ∧ place.atMark '.' = false := by
    have both := Cursor.at_document_mark_eq_false at' hyphen point
    rwa [Cursor.atDocumentMark, Bool.or_eq_false_iff] at both
  have first : (ready tokens indents allowed [] cursor).readToken =
      .ok (between start tokens indents allowed cursor) := by
    have place : (ready tokens indents allowed [] cursor).cursor = cursor := rfl
    obtain ⟨hyphen, point⟩ := noMark here (by cases brackets <;> decide) (by cases brackets <;> decide)
    unfold readToken
    simp only [place, Cursor.peek_cons here, hyphen, point, Bool.and_false, flow_start_eq]
    cases brackets <;> rfl
  have second : (between start tokens indents allowed cursor).readToken =
      .ok (ready (finish :: start :: tokens) indents false (noted tokens indents allowed cursor)
        (cursor.skip 2)) := by
    have place : (between start tokens indents allowed cursor).cursor = cursor.next := rfl
    obtain ⟨hyphen, point⟩ := noMark behind (by cases brackets <;> decide)
      (by cases brackets <;> decide)
    unfold readToken
    simp only [place, Cursor.peek_cons behind, hyphen, point, Bool.and_false, flow_end_eq]
    cases brackets <;> rfl
  have shorter : (cursor.skip 2).rest.length < cursor.next.rest.length := by
    rw [Cursor.skip_succ, Cursor.skip_one, Cursor.next_rest, behind]
    exact Nat.lt_succ_self _
  have opens : Reaches (between start tokens indents allowed cursor)
      (between start tokens indents allowed cursor) :=
    .of_arrive rfl (between_arrives brackets here) (Nat.le_refl _)
  refine ⟨_, first, ?_, opens.then ⟨_, second, shorter, reaches⟩⟩
  show cursor.next.rest.length < cursor.rest.length
  rw [behind, here]
  exact Nat.lt_succ_self _

/-! ## The end -/

/-- The end of a text ends the block that is open at the left margin. -/
theorem read_end (here : cursor.rest = []) :
    (ready tokens [0] allowed [] cursor).readToken =
      .ok { ready (.streamEnd :: .blockEnd :: tokens) [] allowed [] cursor with finished := true } := by
  have peek : cursor.peek = '\x00' := Cursor.peek_eq here
  have place : (ready tokens [0] allowed [] cursor).cursor = cursor := rfl
  unfold readToken
  simp only [place, peek]
  rfl

/-- The tokens of a text at whose end the lexer comes. -/
theorem run_to_end {text : List Char}
    (reaches : Reaches (.start text) (ready tokens [0] allowed [] cursor)) (here : cursor.rest = []) :
    run (text.length + 2) (.start text) = .streamEnd :: .blockEnd :: tokens := by
  obtain ⟨count, last, runs, going, arrives, length⟩ := reaches
  have stepped : last.step =
      .ok { ready (.streamEnd :: .blockEnd :: tokens) [] allowed [] cursor with finished := true } := by
    unfold step
    rw [arrives]
    exact (pure_bind _ readToken).trans (read_end here)
  have enough : text.length + 2 = (text.length - count) + 2 + count := by
    have whole : (Lexer.start text).cursor.rest.length = text.length := rfl
    omega
  rw [enough, runs]
  simp only [run, going, stepped, Bool.false_eq_true, if_false, if_true]
  rfl

end FixtureImages.Yaml.Lexer
