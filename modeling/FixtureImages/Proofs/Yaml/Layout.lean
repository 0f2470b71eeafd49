import FixtureImages.Proofs.Yaml.Scalars

/-!
# Layouts and their tokens

What stands behind the mark of an entry, and what stands at the column of a block, become the tokens
of a node and of a block, whatever the lexer has read before and whatever line comes next.
-/

namespace FixtureImages.Yaml

set_option autoImplicit false

open Cursor

/-- Where the text behind a mark may stand: behind the mark of an entry, right at the next column;
behind the colon of a key on one line, anywhere further in. -/
def Behind (fresh : Bool) (indent : Nat) (allowed : Bool) (cursor : Cursor) : Prop :=
  if fresh then allowed = true ∧ cursor.column = indent + 1 else indent < cursor.column

theorem Behind.inside {fresh : Bool} {indent : Nat} {allowed : Bool} {cursor : Cursor}
    (behind : Behind fresh indent allowed cursor) : indent < cursor.column := by
  cases fresh with
  | false => exact behind
  | true => exact Nat.lt_of_lt_of_eq (Nat.lt_succ_self _) behind.2.symm

/-- A text behind a mark of a block at a column becomes some tokens, with a line at that column or
before it to follow. -/
structure NodeLexed (fresh : Bool) (indent : Nat) (read : List Token) (piece : List Char) : Prop where
  gap : ∃ c others, piece = c :: others ∧ isGapOrEnd c = true
  allowed : ∀ c ∈ piece, isAllowed c = true
  lexes : ∀ (tokens : List Token) {indents : List Int} {allowed : Bool} {cursor : Cursor}
    {column : Nat} {rest : List Char}, cursor.rest = piece ++ (newLine column ++ rest) →
      LineStart column rest → indents.headD (-1) = indent → column ≤ indent →
        Behind fresh indent allowed cursor →
          Lexer.Reaches (.ready tokens indents allowed [] cursor)
            ((Lexer.ready (read.reverse ++ tokens) indents true []
              (cursor.skip (piece.length + (column + 1)))).endBlocks column)

/-- A text at the column of a block becomes some tokens, with a line at that column or before it to
follow. The block is opened by the first of its entries if none is open at the column. -/
structure BlockLexed (opening : Token) (indent : Nat) (read : List Token) (body : List Char) :
    Prop where
  starts : ∀ (column : Nat) (rest : List Char), LineStart indent (body ++ (newLine column ++ rest))
  allowed : ∀ c ∈ body, isAllowed c = true
  lexes : ∀ (tokens : List Token) {indents : List Int} {cursor : Cursor} {column : Nat}
    {rest : List Char}, cursor.rest = body ++ (newLine column ++ rest) → LineStart column rest →
      cursor.column = indent → indents.headD (-1) ≤ indent → column ≤ indent →
        Lexer.Proceeds (.ready tokens indents true [] cursor)
          ((Lexer.ready (read.reverse ++ (Lexer.opened opening indent tokens indents).1)
            (Lexer.opened opening indent tokens indents).2 true []
              (cursor.skip (body.length + (column + 1)))).endBlocks column)

/-! ## Nodes on the line of their mark -/

theorem arrives_behind {tokens : List Token} {indents : List Int} {allowed : Bool} {cursor : Cursor}
    {rest : List Char} (here : cursor.rest = ' ' :: rest) (goes : GoesOn rest)
    (inside : indents.headD (-1) ≤ cursor.next.column) :
    Lexer.Reaches (.ready tokens indents allowed [] cursor) (.ready tokens indents allowed [] cursor.next) := by
  have spaces : cursor.rest = List.replicate 1 ' ' ++ rest := here
  refine .of_arrive rfl (Lexer.arrive_spaces spaces goes inside) ?_
  show cursor.next.rest.length ≤ cursor.rest.length
  rw [next_rest, here]
  exact Nat.le_succ _

theorem arrives_below {tokens : List Token} {indents : List Int} {allowed : Bool} {cursor : Cursor}
    {column : Nat} {rest : List Char} (here : cursor.rest = newLine column ++ rest) (goes : GoesOn rest)
    (inside : indents.headD (-1) ≤ column) :
    Lexer.Reaches (.ready tokens indents allowed [] cursor)
      (.ready tokens indents true [] (cursor.skip (newLine column).length)) := by
  have arrives : (Lexer.ready tokens indents allowed [] cursor).arrive = _ :=
    Lexer.arrive_line here goes (by simp)
  rw [Lexer.end_blocks_stay inside, ← new_line_length] at arrives
  refine .of_arrive rfl arrives ?_
  show (cursor.skip _).rest.length ≤ cursor.rest.length
  rw [skip_rest, List.length_drop]
  exact Nat.sub_le _ _

theorem ScalarForm.node {indent : Nat} {token : Token} {body : List Char}
    (form : ScalarForm (indent + 2) token body) (fresh : Bool) :
    NodeLexed fresh indent [token] (' ' :: body) := by
  refine ⟨⟨_, _, rfl, rfl⟩, ?_, ?_⟩
  · simp only [List.forall_mem_cons]
    exact ⟨rfl, form.allowed⟩
  · intro tokens indents allowed cursor column rest here start head near behind
    have next := next_solid here solid_space
    have inside := behind.inside
    have rests : cursor.next.rest = body ++ (newLine column ++ rest) := by
      rw [next_rest, here]
      rfl
    have further : indents.headD (-1) < cursor.next.column := by
      rw [next, head]
      push_cast
      omega
    have goes : GoesOn (body ++ (newLine column ++ rest)) := (form.starts (fun c first => by
      cases first
      exact .inl rfl) 1).goesOn
    have read : Lexer.Proceeds (.ready tokens indents allowed [] cursor.next) _ :=
      form.value (by omega) (by rw [head]; push_cast; omega) further
        (by rw [head]; exact_mod_cast near) start rests
    rw [← skip_succ, Nat.add_right_comm] at read
    exact (arrives_behind here goes (Int.le_of_lt further)).then read

theorem Lexer.EmptyBrackets.node {opening closing : Char} {start finish : Token}
    (brackets : Lexer.EmptyBrackets opening closing start finish) (fresh : Bool) (indent : Nat) :
    NodeLexed fresh indent [start, finish] [' ', opening, closing] := by
  refine ⟨⟨_, _, rfl, rfl⟩, by cases brackets <;> exact each_of_chars (by decide), ?_⟩
  intro tokens indents allowed cursor column rest here line head near behind
  have next := next_solid here solid_space
  have inside := behind.inside
  have rests : cursor.next.rest = opening :: closing :: (newLine column ++ rest) := by
    rw [next_rest, here]
    rfl
  have further : indents.headD (-1) < cursor.next.column := by
    rw [next, head]
    push_cast
    omega
  have goes : GoesOn (opening :: closing :: (newLine column ++ rest)) := by
    intro c first
    cases first
    cases brackets <;> exact ⟨by decide, by decide, by decide, by decide⟩
  refine (arrives_behind here goes (Int.le_of_lt further)).then ?_
  have both : cursor.next.skip 2 = cursor.skip 3 := rfl
  have line' : (cursor.skip 3).rest = newLine column ++ rest := by
    rw [skip_rest, here]
    rfl
  refine Lexer.read_empty brackets rests (.of_arrive rfl ?_ ?_)
  · rw [both, Lexer.arrive_line line' line.goesOn, ← skip_add]
    · rfl
    · intro place member
      obtain ⟨same, free⟩ := noted_free further place member
      rw [same, next]
      exact ⟨skip_line_le 3 cursor, free⟩
  · rw [Lexer.end_blocks_cursor]
    show (cursor.skip _).rest.length ≤ (cursor.skip 3).rest.length
    rw [skip_add, skip_rest, List.length_drop]
    exact Nat.sub_le _ _

/-! ## Blocks -/

theorem opened_head {opening : Token} {indent : Nat} {tokens : List Token} {indents : List Int}
    (near : indents.headD (-1) ≤ indent) :
    (Lexer.opened opening indent tokens indents).2.headD (-1) = indent := by
  unfold Lexer.opened
  split
  · rfl
  · exact Int.le_antisymm near (Int.not_lt.mp ‹_›)

theorem opened_again {opening : Token} {indent : Nat} {tokens : List Token} {indents : List Int}
    (head : indents.headD (-1) = indent) :
    Lexer.opened opening indent tokens indents = (tokens, indents) := by
  rw [Lexer.opened, head, if_neg (Int.lt_irrefl _)]

/-- Two parts of a block, one behind the other. -/
theorem BlockLexed.append {opening : Token} {indent : Nat} {first second : List Token}
    {body later : List Char} (one : BlockLexed opening indent first body)
    (other : BlockLexed opening indent second later) :
    BlockLexed opening indent (first ++ second) (body ++ (newLine indent ++ later)) := by
  refine ⟨?_, ?_, ?_⟩
  · intro column rest
    have starts := one.starts indent (later ++ (newLine column ++ rest))
    simpa [List.append_assoc] using starts
  · simp only [List.forall_mem_append]
    exact ⟨one.allowed, new_line_allowed indent, other.allowed⟩
  · intro tokens indents cursor column rest here start at' near before
    rw [List.append_assoc, List.append_assoc] at here
    have read := one.lexes tokens here (other.starts column rest) at' near (Nat.le_refl _)
    have head : (Lexer.opened opening indent tokens indents).2.headD (-1) = indent :=
      opened_head near
    rw [Lexer.end_blocks_stay (Int.le_of_eq head)] at read
    have behind := skip_past here
    have place := skip_new_line behind
    rw [← skip_add] at place
    have more := other.lexes (first.reverse ++ (Lexer.opened opening indent tokens indents).1)
      (show (cursor.skip (body.length + (indent + 1))).rest = _ by rw [place]) start
      (by rw [place]) (Int.le_of_eq head) before
    rw [opened_again head] at more
    have all := read.then more
    rw [← skip_add] at all
    have length : (body ++ (newLine indent ++ later)).length + (column + 1) =
        body.length + (indent + 1) + (later.length + (column + 1)) := by
      rw [List.length_append, List.length_append, new_line_length]
      omega
    rwa [List.reverse_append, List.append_assoc, length]

/-- A block that is further in than those around it has an end of its own. -/
theorem BlockLexed.ended {opening : Token} {column indent : Nat} {read : List Token}
    {body : List Char} (block : BlockLexed opening indent read body) (further : column < indent)
    (tokens : List Token) {indents : List Int} (head : indents.headD (-1) = column) {cursor : Cursor}
    {next : Nat} {rest : List Char} (here : cursor.rest = body ++ (newLine next ++ rest))
    (start : LineStart next rest) (place : cursor.column = indent) (near : next ≤ column) :
    Lexer.Proceeds (.ready tokens indents true [] cursor)
      ((Lexer.ready ((opening :: (read ++ [.blockEnd])).reverse ++ tokens) indents true []
        (cursor.skip (body.length + (next + 1)))).endBlocks next) := by
  have opens : Lexer.opened opening indent tokens indents =
      (opening :: tokens, (indent : Int) :: indents) := by
    rw [Lexer.opened, head, if_pos (by exact_mod_cast further)]
  have read := block.lexes tokens here start place (by rw [head]; exact_mod_cast Nat.le_of_lt further)
    (by omega)
  rw [opens, Lexer.end_blocks_end (by exact_mod_cast Nat.lt_of_le_of_lt near further)] at read
  simpa using read

/-- A block with its end, behind the mark of an entry or on the lines below a key. -/
theorem BlockLexed.node {opening : Token} {column indent : Nat} {read : List Token} {body : List Char}
    (block : BlockLexed opening indent read body) (fresh : Bool) (further : column < indent)
    (next : fresh = true → indent = column + 2) :
    NodeLexed fresh column (opening :: (read ++ [.blockEnd]))
      ((if fresh then [' '] else newLine indent) ++ body) := by
  refine ⟨?_, ?_, ?_⟩
  · cases fresh
    · exact ⟨_, _, rfl, rfl⟩
    · exact ⟨_, _, rfl, rfl⟩
  · simp only [List.forall_mem_append]
    refine ⟨?_, block.allowed⟩
    cases fresh
    · exact new_line_allowed indent
    · exact spaces_allowed 1
  · intro tokens indents allowed cursor line rest here start head near behind
    rw [List.append_assoc] at here
    have goes := (block.starts line rest).goesOn
    cases fresh with
    | false =>
        have place : (cursor.skip (newLine indent).length).column = indent := by
          rw [new_line_length, skip_new_line here]
        have ended := block.ended further tokens head (skip_past here) start place near
        rw [← skip_add, ← Nat.add_assoc, ← List.length_append] at ended
        exact (arrives_below here goes (by rw [head]; exact_mod_cast Nat.le_of_lt further)).then ended
    | true =>
        obtain ⟨rfl, at'⟩ := behind
        have place := next_solid here solid_space
        have column : cursor.next.column = indent := by
          rw [place, next rfl]
          exact congrArg (· + 1) at'
        have ended := block.ended further tokens head
          (show cursor.next.rest = _ by rw [next_rest, here]; rfl) start column near
        rw [← skip_succ, Nat.add_right_comm] at ended
        exact (arrives_behind here goes (by rw [head, column]; exact_mod_cast Nat.le_of_lt further)).then
          ended

/-- A sequence at the column of the mapping around it. -/
theorem BlockLexed.bare {indent : Nat} {read : List Token} {body : List Char}
    (block : BlockLexed .blockSequence indent read body) :
    NodeLexed false indent read (newLine indent ++ body) := by
  refine ⟨⟨_, _, rfl, rfl⟩, ?_, ?_⟩
  · simp only [List.forall_mem_append]
    exact ⟨new_line_allowed indent, block.allowed⟩
  · intro tokens indents allowed cursor line rest here start head near behind
    rw [List.append_assoc] at here
    have place : (cursor.skip (newLine indent).length).column = indent := by
      rw [new_line_length, skip_new_line here]
    have read := block.lexes tokens (skip_past here) start place (Int.le_of_eq head) near
    rw [opened_again head, ← skip_add, ← Nat.add_assoc, ← List.length_append] at read
    exact (arrives_below here (block.starts line rest).goesOn (Int.le_of_eq head)).then read

/-! ## Entries -/

/-- A mark with a gap behind it begins a line. -/
theorem mark_starts {mark : Char} (visible : mark ≠ ' ' ∧ mark ≠ '#' ∧ Solid mark) {rest : List Char}
    (gap : ∃ c others, rest = c :: others ∧ isGapOrEnd c = true) (column : Nat) :
    LineStart column (mark :: rest) := by
  constructor
  · intro c first
    cases first
    exact visible
  · intro _ cursor here
    obtain ⟨c, others, rfl, blank⟩ := gap
    have apart (other : Char) (solid : isGapOrEnd other = false) : cursor.atMark other = false :=
      Lexer.at_mark_gap here blank solid
    rw [atDocumentMark, apart '-' rfl, apart '.' rfl]
    rfl

theorem NodeLexed.blank {fresh : Bool} {indent : Nat} {read : List Token} {piece : List Char}
    (node : NodeLexed fresh indent read piece) (rest : List Char) :
    (∃ c others, piece ++ rest = c :: others ∧ isGapOrEnd c = true) ∧
      isGapOrEnd ((piece ++ rest).headD '\x00') = true := by
  obtain ⟨c, others, rfl, blank⟩ := node.gap
  exact ⟨⟨c, others ++ rest, rfl, blank⟩, blank⟩

theorem NodeLexed.item {indent : Nat} {read : List Token} {piece : List Char}
    (node : NodeLexed true indent read piece) :
    BlockLexed .blockSequence indent (.blockEntry :: read) ('-' :: piece) := by
  refine ⟨?_, ?_, ?_⟩
  · intro column rest
    exact mark_starts ⟨by decide, by decide, by decide, by decide⟩ (node.blank _).1 indent
  · simp only [List.forall_mem_cons]
    exact ⟨rfl, node.allowed⟩
  · intro tokens indents cursor column rest here start place near before
    have token : (Lexer.ready tokens indents true [] cursor).readToken = _ :=
      Lexer.read_item_mark here (node.blank _).2
    have next := next_solid here ⟨by decide, by decide⟩
    rw [place] at token
    have head : (Lexer.opened .blockSequence indent tokens indents).2.headD (-1) = indent :=
      opened_head near
    have lexes := node.lexes (.blockEntry :: (Lexer.opened .blockSequence indent tokens indents).1)
      (show cursor.next.rest = _ by rw [next]; rfl) start head before
      (show Behind true indent true cursor.next from ⟨rfl, by rw [next, place]⟩)
    rw [← skip_succ, Nat.add_right_comm] at lexes
    refine ⟨_, token, ?_, ?_⟩
    · show cursor.next.rest.length < cursor.rest.length
      rw [next, here]
      exact Nat.lt_succ_self _
    · simpa using lexes

/-- An entry whose key stands on one line. -/
theorem NodeLexed.shortEntry {indent : Nat} {token : Token} {body : List Char}
    (form : ScalarForm (indent + 2) token body) (single : ∀ c ∈ body, Solid c)
    (short : body.length ≤ 1024) {read : List Token} {piece : List Char}
    (node : NodeLexed false indent read piece) :
    BlockLexed .blockMapping indent (.key :: token :: .value :: read) (body ++ ':' :: piece) := by
  refine ⟨?_, ?_, ?_⟩
  · intro column rest
    rw [List.append_assoc]
    exact form.starts (fun c first => by
      cases first
      exact .inr rfl) indent
  · simp only [List.forall_mem_append, List.forall_mem_cons]
    exact ⟨form.allowed, rfl, node.allowed⟩
  · intro tokens indents cursor column rest here start place near before
    rw [List.append_assoc] at here
    have solid := skip_solid here single
    have behind : (cursor.skip (body.length + 1)).rest = piece ++ (newLine column ++ rest) := by
      rw [skip_add, skip_one, next_rest, solid]
      rfl
    have further : indent < (cursor.skip (body.length + 1)).column := by
      have colon : (cursor.skip body.length).rest = ':' :: (piece ++ (newLine column ++ rest)) :=
        skip_past here
      rw [skip_add, skip_one, next_solid colon ⟨by decide, by decide⟩, solid]
      show indent < cursor.column + body.length + 1
      omega
    have head : (Lexer.opened .blockMapping indent tokens indents).2.headD (-1) = indent :=
      opened_head near
    rw [← place] at head
    have lexes := node.lexes
      (.value :: token :: .key :: (Lexer.opened .blockMapping cursor.column tokens indents).1)
      behind start (by rw [head, place]) before (show Behind false indent false _ from further)
    have reads := form.key (by omega) (by push_cast; omega) (by rwa [place]) single short
      (node.blank _).2 here lexes
    rw [← skip_add, place] at reads
    have length : (body ++ ':' :: piece).length + (column + 1) =
        body.length + 1 + (piece.length + (column + 1)) := by
      rw [List.length_append, List.length_cons]
      omega
    rw [length]
    simpa using reads

/-- An entry whose key stands on lines of its own, behind a mark. -/
theorem NodeLexed.longEntry {indent : Nat} {keyRead read : List Token} {keyPiece piece : List Char}
    (key : NodeLexed true indent keyRead keyPiece) (node : NodeLexed true indent read piece) :
    BlockLexed .blockMapping indent (.key :: (keyRead ++ .value :: read))
      ('?' :: (keyPiece ++ (newLine indent ++ ':' :: piece))) := by
  refine ⟨?_, ?_, ?_⟩
  · intro column rest
    rw [List.cons_append, List.append_assoc]
    exact mark_starts ⟨by decide, by decide, by decide, by decide⟩ (key.blank _).1 indent
  · simp only [List.forall_mem_append, List.forall_mem_cons]
    exact ⟨rfl, key.allowed, new_line_allowed indent, rfl, node.allowed⟩
  · intro tokens indents cursor column rest here start place near before
    simp only [List.cons_append, List.append_assoc] at here
    have mark : (Lexer.ready tokens indents true [] cursor).readToken = _ :=
      Lexer.read_key_mark here (key.blank _).2
    have next := next_solid here ⟨by decide, by decide⟩
    have value : LineStart indent (':' :: (piece ++ (newLine column ++ rest))) :=
      mark_starts ⟨by decide, by decide, by decide, by decide⟩ (node.blank _).1 indent
    rw [place] at mark
    have head : (Lexer.opened .blockMapping indent tokens indents).2.headD (-1) = indent :=
      opened_head near
    have keys := key.lexes (.key :: (Lexer.opened .blockMapping indent tokens indents).1)
      (show cursor.next.rest = _ by rw [next]) value head (Nat.le_refl _)
      (show Behind true indent true cursor.next from ⟨rfl, by rw [next, place]⟩)
    rw [Lexer.end_blocks_stay (Int.le_of_eq head), ← skip_succ] at keys
    have colon : cursor.skip (keyPiece.length + (indent + 1) + 1) =
        ⟨':' :: (piece ++ (newLine column ++ rest)),
          (cursor.skip (keyPiece.length + 1)).index + 1 + indent,
          (cursor.skip (keyPiece.length + 1)).line + 1, indent⟩ := by
      have behind : (cursor.skip (keyPiece.length + 1)).rest =
          newLine indent ++ ':' :: (piece ++ (newLine column ++ rest)) := by
        rw [skip_rest, here, List.drop_succ_cons, List.drop_left]
      rw [Nat.add_right_comm, skip_add, skip_new_line behind]
    have rests : (cursor.skip (keyPiece.length + (indent + 1) + 1)).rest =
        ':' :: (piece ++ (newLine column ++ rest)) := by rw [colon]
    have middle := next_solid rests ⟨by decide, by decide⟩
    have valueMark : (Lexer.ready (keyRead.reverse ++
        .key :: (Lexer.opened .blockMapping indent tokens indents).1)
        (Lexer.opened .blockMapping indent tokens indents).2 true []
        (cursor.skip (keyPiece.length + (indent + 1) + 1))).readToken = _ :=
      Lexer.read_value_mark rests (node.blank _).2
    have middleColumn : (cursor.skip (keyPiece.length + (indent + 1) + 1)).column = indent := by
      rw [colon]
    have same (others : List Token) : Lexer.opened .blockMapping indent others
        (Lexer.opened .blockMapping indent tokens indents).2 =
          (others, (Lexer.opened .blockMapping indent tokens indents).2) := opened_again head
    rw [middleColumn, same] at valueMark
    have lexes := node.lexes (.value :: (keyRead.reverse ++
        .key :: (Lexer.opened .blockMapping indent tokens indents).1))
      (show (cursor.skip (keyPiece.length + (indent + 1) + 1)).next.rest = _ by rw [middle]) start head
      before (show Behind true indent true _ from ⟨rfl, by rw [middle, colon]⟩)
    have length : ('?' :: (keyPiece ++ (newLine indent ++ ':' :: piece))).length + (column + 1) =
        keyPiece.length + (indent + 1) + 1 + (piece.length + (column + 1) + 1) := by
      rw [List.length_cons, List.length_append, List.length_append, List.length_cons,
        new_line_length]
      omega
    rw [← skip_succ, ← skip_add, ← length] at lexes
    refine ⟨_, mark, ?_, keys.then ⟨_, valueMark, ?_, ?_⟩⟩
    · show cursor.next.rest.length < cursor.rest.length
      rw [next, here]
      exact Nat.lt_succ_self _
    · show (cursor.skip _).next.rest.length < (cursor.skip _).rest.length
      rw [next_rest, rests]
      exact Nat.lt_succ_self _
    · simpa using lexes

end FixtureImages.Yaml
