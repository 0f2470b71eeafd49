import FixtureImages.Proofs.Yaml.Cursor
import FixtureImages.Yaml.Token.Lexer

/-!
# Runs of the lexer

A lexer that is outside of brackets goes from token to token. What it comes to behind spaces and
behind a line break, which blocks end there, and how runs over several tokens are put together.
-/

namespace FixtureImages.Yaml.Lexer

set_option autoImplicit false

/-! ## Lexers outside of brackets -/

/-- A lexer outside of brackets that has read some tokens, the last one first. -/
def ready (tokens : List Token) (indents : List Int) (allowed : Bool) (places : List KeyPlace)
    (cursor : Cursor) : Lexer :=
  { cursor, tokens, count := tokens.length, indents, depth := 0, keyAllowed := allowed
    keyPlaces := places, finished := false }

variable {tokens : List Token} {indents : List Int} {allowed : Bool} {places : List KeyPlace}
  {cursor : Cursor} {text : List Char}

theorem end_blocks_cursor (column : Int) (lexer : Lexer) :
    (lexer.endBlocks column).cursor = lexer.cursor := by
  unfold endBlocks
  split <;> rfl

theorem end_blocks_stay {column : Nat} (near : indents.headD (-1) ≤ column) :
    (ready tokens indents allowed places cursor).endBlocks column =
      ready tokens indents allowed places cursor := by
  have none : indents.takeWhile ((column : Int) < ·) = [] := by
    cases indents with
    | nil => rfl
    | cons indent outer =>
        rw [List.takeWhile_cons, if_neg]
        simpa using near
  unfold endBlocks
  simp [ready, none]

theorem end_blocks_end {column : Nat} {indent : Int} (far : (column : Int) < indent) :
    (ready tokens (indent :: indents) allowed places cursor).endBlocks column =
      (ready (.blockEnd :: tokens) indents allowed places cursor).endBlocks column := by
  unfold endBlocks
  simp only [ready, ne_eq, not_true_eq_false, if_false, List.takeWhile_cons, decide_eq_true far,
    if_true, List.length_cons, List.drop_succ_cons, mk.injEq, true_and, and_true]
  refine ⟨?_, by omega⟩
  rw [List.replicate_succ', List.append_assoc]
  rfl

/-! ## Ways to the next token -/

theorem skip_spaces_eq {count : Nat} (here : cursor.rest = List.replicate count ' ' ++ text)
    (goes : ∀ c, text.head? = some c → c ≠ ' ') : cursor.skipSpaces = cursor.skip count := by
  have run : cursor.run (· == ' ') = (List.replicate count ' ', cursor.skip count) :=
    Cursor.run_spaces rfl here fun c first => beq_eq_false_iff_ne.mpr (goes c first)
  rw [Cursor.skipSpaces, Cursor.skipWhile, run]

theorem skip_gap_spaces {count : Nat} (here : cursor.rest = List.replicate count ' ' ++ text)
    (goes : Cursor.GoesOn text) (fuel : Nat) (ended : Bool) :
    skipGap (fuel + 1) ended cursor = (ended, cursor.skip count) := by
  have behind : (cursor.skip count).rest = text := by
    rw [Cursor.skip_rest, here, List.drop_left' (by rw [List.length_replicate])]
  obtain ⟨-, comment, noBreak, -⟩ := goes.peek behind
  have spaces := skip_spaces_eq here fun c first => (goes c first).1
  simp only [skipGap, spaces, Cursor.skipComment, beq_eq_false_iff_ne.mpr comment, noBreak,
    Bool.false_eq_true, if_false]

theorem skip_gap_line {column : Nat} (here : cursor.rest = newLine column ++ text)
    (goes : Cursor.GoesOn text) (fuel : Nat) :
    skipGap (fuel + 2) false cursor = (true, cursor.skip (column + 1)) := by
  have feed : cursor.rest = '\n' :: (List.replicate column ' ' ++ text) := here
  have peek := Cursor.peek_cons feed
  have stays : cursor.skipSpaces.skipComment = cursor := by
    have none : cursor.skipSpaces = cursor.skip 0 :=
      skip_spaces_eq (show cursor.rest = List.replicate 0 ' ' ++ _ from feed) (by
        intro c first
        cases first
        decide)
    rw [none, Cursor.skip_zero, Cursor.skipComment, peek]
    rfl
  have behind : cursor.next.rest = List.replicate column ' ' ++ text := by
    rw [Cursor.next_rest, feed, List.tail_cons]
  have round (more : Nat) : skipGap (more + 1) false cursor = skipGap more true cursor.next := by
    simp only [skipGap, stays, peek, Cursor.line_break_eq feed rfl (by decide)]
    rfl
  rw [round, skip_gap_spaces behind goes fuel true, Cursor.skip_succ]

theorem to_next_token_eq (apart : cursor.peek ≠ byteOrderMark) {ended : Bool} {after : Cursor}
    (gap : skipGap (cursor.rest.length + 1) false cursor = (ended, after)) :
    (ready tokens indents allowed places cursor).toNextToken =
      ready tokens indents (allowed || ended) places after := by
  have none : ¬(cursor.index = 0 ∧ cursor.peek = byteOrderMark) := fun both => apart both.2
  simp only [toNextToken, ready, none, if_false, gap, BEq.rfl, Bool.and_true]

/-- Places of keys on earlier lines are forgotten. -/
theorem drop_stale_passed
    (passed : ∀ place ∈ places, place.line < cursor.line ∧ place.required = false) :
    (ready tokens indents allowed places cursor).dropStale =
      .ok (ready tokens indents allowed [] cursor) := by
  have stale : ∀ place ∈ places, isStale cursor place = true := by
    intro place member
    have := (passed place member).1
    simp [isStale, show place.line ≠ cursor.line by omega]
  have free : (places.any fun place => isStale cursor place && place.required) = false := by
    rw [List.any_eq_false]
    intro place member
    simp [(passed place member).2]
  have none : (places.filter fun place => !isStale cursor place) = [] := by
    rw [List.filter_eq_nil_iff]
    intro place member
    simp [stale place member]
  simp only [dropStale, ready, free, none, Bool.false_eq_true, if_false]

theorem arrive_eq (apart : cursor.peek ≠ byteOrderMark) {ended : Bool} {after : Cursor}
    (gap : skipGap (cursor.rest.length + 1) false cursor = (ended, after))
    (passed : ∀ place ∈ places, place.line < after.line ∧ place.required = false) :
    (ready tokens indents allowed places cursor).arrive =
      .ok ((ready tokens indents (allowed || ended) [] after).endBlocks after.column) := by
  rw [arrive, to_next_token_eq apart gap, drop_stale_passed passed]
  rfl

theorem arrive_spaces {count : Nat} (here : cursor.rest = List.replicate count ' ' ++ text)
    (goes : Cursor.GoesOn text) (inside : indents.headD (-1) ≤ (cursor.skip count).column) :
    (ready tokens indents allowed [] cursor).arrive =
      .ok (ready tokens indents allowed [] (cursor.skip count)) := by
  have first : cursor.peek ≠ byteOrderMark := by
    cases count with
    | zero => exact (goes.peek here).2.2.2
    | succ count =>
        rw [Cursor.peek_cons here]
        decide
  rw [arrive_eq first (skip_gap_spaces here goes _ false) (by simp), Bool.or_false,
    end_blocks_stay inside]

/-- Behind a line break, the places of keys on the lines before it are forgotten. -/
theorem arrive_line {column : Nat} (here : cursor.rest = newLine column ++ text)
    (goes : Cursor.GoesOn text)
    (passed : ∀ place ∈ places, place.line ≤ cursor.line ∧ place.required = false) :
    (ready tokens indents allowed places cursor).arrive =
      .ok ((ready tokens indents true [] (cursor.skip (column + 1))).endBlocks column) := by
  have first : cursor.peek ≠ byteOrderMark := by
    rw [Cursor.peek_cons here]
    decide
  have gap : skipGap (cursor.rest.length + 1) false cursor = (true, cursor.skip (column + 1)) := by
    obtain ⟨fuel, enough⟩ : ∃ fuel, cursor.rest.length = fuel + 1 := by
      rw [here]
      exact ⟨_, rfl⟩
    rw [enough]
    exact skip_gap_line here goes fuel
  have place := Cursor.skip_new_line here
  rw [arrive_eq first gap, Bool.or_true, place]
  intro key member
  obtain ⟨line, free⟩ := passed key member
  rw [place]
  exact ⟨Nat.lt_succ_of_le line, free⟩

/-- At the start of a line the lexer stays where it is. -/
theorem arrive_here (goes : Cursor.GoesOn cursor.rest)
    (passed : ∀ place ∈ places, place.line < cursor.line ∧ place.required = false) :
    (ready tokens indents true places cursor).arrive =
      .ok ((ready tokens indents true [] cursor).endBlocks cursor.column) :=
  arrive_eq (goes.peek rfl).2.2.2
    (skip_gap_spaces (show cursor.rest = List.replicate 0 ' ' ++ cursor.rest from rfl) goes _ false)
    passed

/-! ## Runs -/

/-- After some tokens the lexer comes to the place `here`. Each token has at least one character. -/
def Reaches (before here : Lexer) : Prop :=
  ∃ (count : Nat) (last : Lexer), (∀ fuel, run (fuel + count) before = run fuel last) ∧
    last.finished = false ∧ last.arrive = .ok here ∧
    count + here.cursor.rest.length ≤ before.cursor.rest.length

/-- The token at a place is read, and then the lexer comes to another place. -/
def Proceeds (here after : Lexer) : Prop :=
  ∃ next, here.readToken = .ok next ∧ next.cursor.rest.length < here.cursor.rest.length ∧
    Reaches next after

variable {before here next after last : Lexer}

theorem Reaches.of_arrive (going : before.finished = false) (arrives : before.arrive = .ok here)
    (shorter : here.cursor.rest.length ≤ before.cursor.rest.length) : Reaches before here :=
  ⟨0, before, fun fuel => by rw [Nat.add_zero], going, arrives, by rwa [Nat.zero_add]⟩

theorem Reaches.then (reaches : Reaches before here) (proceeds : Proceeds here after) :
    Reaches before after := by
  obtain ⟨count, last, runs, going, arrives, length⟩ := reaches
  obtain ⟨next, read, shorter, more, final, runsOn, ended, stops, rest⟩ := proceeds
  have stepped : last.step = .ok next := by
    unfold step
    rw [arrives]
    exact (pure_bind here readToken).trans read
  have round (fuel : Nat) : run (fuel + 1) last = run fuel next := by
    simp only [run, going, stepped, Bool.false_eq_true, if_false]
  have length : more + 1 + count + after.cursor.rest.length ≤ before.cursor.rest.length := by
    omega
  refine ⟨more + 1 + count, final, ?_, ended, stops, length⟩
  intro fuel
  rw [← Nat.add_assoc, runs, ← Nat.add_assoc, round, runsOn]

theorem Proceeds.then (proceeds : Proceeds here next) (more : Proceeds next after) :
    Proceeds here after := by
  obtain ⟨mid, read, shorter, reaches⟩ := proceeds
  exact ⟨mid, read, shorter, reaches.then more⟩

end FixtureImages.Yaml.Lexer
