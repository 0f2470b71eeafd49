import FixtureImages.Proofs.Yaml.Layout
import FixtureImages.Proofs.Yaml.Texts

/-!
# The tokens of written data

Data that is written becomes the tokens of its nodes, level by level. It has to be sound, which all
data out of a document is, and its texts and numbers legible.
-/

namespace FixtureImages.Yaml

set_option autoImplicit false

/-! ## Data that is kept -/

mutual

/-- Data whose numbers are finite and in normal form, with each key of a mapping once. -/
def Sound : Plain → Prop
  | .real number => number.Normal ∧ number.isFinite = true
  | .list items => SoundItems items
  | .map entries => (entries.map Prod.fst).Nodup ∧ SoundEntries entries
  | .null | .bool _ | .int _ | .text _ => True

def SoundItems : List Plain → Prop
  | [] => True
  | item :: rest => Sound item ∧ SoundItems rest

def SoundEntries : List (String × Plain) → Prop
  | [] => True
  | (_, item) :: rest => Sound item ∧ SoundEntries rest

end

mutual

/-- Whether data inside a collection at a column is written so that it is read back: its texts are
legible and its integers have no more digits than are read. A `bare` sequence stands at the column of
the mapping around it. -/
def Legible (wide : Bool) (indent : Nat) (bare : Bool) : Plain → Prop
  | .int number => (digitsOf number).length ≤ digitLimit
  | .text text => LegibleText wide false (indent + 2) text
  | .list items => LegibleItems wide (if bare then indent else indent + 2) items
  | .map entries => LegibleEntries wide (indent + 2) entries
  | .null | .bool _ | .real _ => True

def LegibleItems (wide : Bool) (indent : Nat) : List Plain → Prop
  | [] => True
  | item :: rest => Legible wide indent false item ∧ LegibleItems wide indent rest

def LegibleEntries (wide : Bool) (indent : Nat) : List (String × Plain) → Prop
  | [] => True
  | (key, item) :: rest =>
      LegibleText wide (isShortKey key) (indent + 2) key ∧
        Legible wide indent (isShortKey key) item ∧ LegibleEntries wide indent rest

end

mutual

def decLegible (wide : Bool) : (indent : Nat) → (bare : Bool) → (data : Plain) →
    Decidable (Legible wide indent bare data)
  | _, _, .int number => inferInstanceAs (Decidable ((digitsOf number).length ≤ digitLimit))
  | indent, _, .text text => inferInstanceAs (Decidable (LegibleText wide false (indent + 2) text))
  | indent, bare, .list items => decLegibleItems wide (if bare then indent else indent + 2) items
  | indent, _, .map entries => decLegibleEntries wide (indent + 2) entries
  | _, _, .null | _, _, .bool _ | _, _, .real _ => isTrue trivial

def decLegibleItems (wide : Bool) (indent : Nat) : (items : List Plain) →
    Decidable (LegibleItems wide indent items)
  | [] => isTrue trivial
  | item :: rest =>
      match decLegible wide indent false item, decLegibleItems wide indent rest with
      | isTrue own, isTrue others => isTrue ⟨own, others⟩
      | isFalse own, _ => isFalse fun both => own both.1
      | _, isFalse others => isFalse fun both => others both.2

def decLegibleEntries (wide : Bool) (indent : Nat) : (entries : List (String × Plain)) →
    Decidable (LegibleEntries wide indent entries)
  | [] => isTrue trivial
  | (key, item) :: rest =>
      match decLegible wide indent (isShortKey key) item, decLegibleEntries wide indent rest with
      | isTrue own, isTrue others =>
          decidable_of_iff (LegibleText wide (isShortKey key) (indent + 2) key)
            ⟨fun named => ⟨named, own, others⟩, fun all => all.1⟩
      | isFalse own, _ => isFalse fun all => own all.2.1
      | _, isFalse others => isFalse fun all => others all.2.2

end

instance (wide : Bool) (indent : Nat) (entries : List (String × Plain)) :
    Decidable (LegibleEntries wide indent entries) :=
  decLegibleEntries wide indent entries

/-! ## Tokens -/

mutual

def nodeTokens (wide bare : Bool) : Plain → List Token
  | .null => [.scalar "null" true]
  | .bool value => [.scalar (if value then "true" else "false") true]
  | .int value => [.scalar (toString value) true]
  | .real value => [.scalar (realText value) true]
  | .text value => [textToken wide false value]
  | .list [] => [.flowSequence, .flowSequenceEnd]
  | .list items =>
      if bare then itemTokens wide items else .blockSequence :: (itemTokens wide items ++ [.blockEnd])
  | .map [] => [.flowMapping, .flowMappingEnd]
  | .map entries => .blockMapping :: (entryTokens wide entries ++ [.blockEnd])

def itemTokens (wide : Bool) : List Plain → List Token
  | [] => []
  | item :: rest => .blockEntry :: nodeTokens wide false item ++ itemTokens wide rest

def entryTokens (wide : Bool) : List (String × Plain) → List Token
  | [] => []
  | (key, item) :: rest =>
      .key :: textToken wide (isShortKey key) key :: .value ::
        nodeTokens wide (isShortKey key) item ++ entryTokens wide rest

end

/-! ## Written nodes -/

/-- A pen behind a mark: no white space is written yet, and the line either has text or stands right
behind the mark. -/
structure Pen.AtNode (pen : Pen) (indent : Nat) : Prop where
  inked : pen.gap = false
  near : pen.fresh = true → pen.column = indent + 1

/-- What is written for a node, and the tokens that become of it. -/
structure WritesNode (indent : Nat) (read : List Token) (pen after : Pen) (piece : List Char) :
    Prop where
  lexed : NodeLexed pen.fresh indent read piece
  wrote : pen.Wrote piece after
  used : after.fresh = false
  inked : after.gap = false

/-- A pen that comes to a column by going there. -/
structure Pen.ComesTo (pen : Pen) (column : Nat) : Prop where
  place : (pen.toColumn column).column = column
  gap : (pen.toColumn column).gap = true
  fresh : (pen.toColumn column).fresh = true

theorem Pen.comes_used {pen : Pen} (used : pen.fresh = false) (column : Nat) : pen.ComesTo column := by
  constructor <;> rw [to_column_break (.inl used)]

/-- What is written for a block, from its column on, and the tokens that become of it. -/
structure WritesBlock (opening : Token) (indent : Nat) (read : List Token) (pen after : Pen)
    (body : List Char) : Prop where
  lexed : BlockLexed opening indent read body
  wrote : (pen.toColumn indent).Wrote body after
  used : after.fresh = false
  inked : after.gap = false

section

variable {opening token : Token} {indent : Nat} {read : List Token} {pen after : Pen}
  {body : List Char}

theorem WritesScalar.node (writes : WritesScalar (indent + 2) token pen after body)
    (place : pen.AtNode indent) : WritesNode indent [token] pen after (' ' :: body) := by
  refine ⟨writes.form.node pen.fresh, ?_, writes.used, writes.inked⟩
  have wrote := writes.wrote
  rwa [Pen.spacing, place.inked] at wrote

theorem Lexer.EmptyBrackets.writes {first last : Char} {start finish : Token}
    (brackets : Lexer.EmptyBrackets first last start finish) (place : pen.AtNode indent) :
    WritesNode indent [start, finish] pen ((pen.mark [first]).closeMark [last])
      [' ', first, last] := by
  refine ⟨brackets.node pen.fresh indent, ?_, rfl, rfl⟩
  have wrote := (pen.mark_wrote [first]).trans ((pen.mark [first]).close_mark_wrote [last])
  rwa [Pen.spacing, place.inked] at wrote

/-- The way from a mark to the column of a block two columns further in. -/
theorem Pen.AtNode.descends (place : pen.AtNode indent) : pen.ComesTo (indent + 2) ∧
    pen.Wrote (if pen.fresh then [' '] else newLine (indent + 2)) (pen.toColumn (indent + 2)) := by
  cases fresh : pen.fresh with
  | false => exact ⟨Pen.comes_used fresh _, Pen.to_column_wrote (.inl fresh)⟩
  | true =>
      have near := place.near fresh
      have pads := Pen.to_column_pad fresh (show pen.column < indent + 2 by omega)
      have one : indent + 2 - pen.column = 1 := by omega
      rw [one] at pads
      exact ⟨by constructor <;> rw [pads], by rw [pads]; rfl⟩

theorem WritesBlock.node (writes : WritesBlock opening (indent + 2) read pen after body)
    (place : pen.AtNode indent) : ∃ piece,
      WritesNode indent (opening :: (read ++ [.blockEnd])) pen after piece :=
  ⟨_, writes.lexed.node pen.fresh (by omega) fun _ => rfl, place.descends.2.trans writes.wrote,
    writes.used, writes.inked⟩

theorem WritesBlock.bare (writes : WritesBlock .blockSequence indent read pen after body)
    (used : pen.fresh = false) : ∃ piece, WritesNode indent read pen after piece := by
  refine ⟨newLine indent ++ body, ?_, (Pen.to_column_wrote (.inl used)).trans writes.wrote,
    writes.used, writes.inked⟩
  rw [used]
  exact writes.lexed.bare

/-- A block whose first entry is written, with the others to follow. -/
theorem WritesBlock.append {middle : Pen} {more : List Token} {later : List Char}
    (one : WritesBlock opening indent read pen middle body)
    (other : WritesBlock opening indent more middle after later) :
    WritesBlock opening indent (read ++ more) pen after (body ++ (newLine indent ++ later)) :=
  ⟨one.lexed.append other.lexed,
    one.wrote.trans ((Pen.to_column_wrote (.inl one.used)).trans other.wrote), other.used, other.inked⟩

/-! ## Entries of blocks -/

theorem Pen.ComesTo.marked (comes : pen.ComesTo indent) (c : Char) :
    ((pen.toColumn indent).entryMark c).AtNode indent ∧
      ((pen.toColumn indent).entryMark c).fresh = true ∧
        (pen.toColumn indent).Wrote [c] ((pen.toColumn indent).entryMark c) := by
  have marked := Pen.entry_mark_eq comes.gap c
  have wrote := (pen.toColumn indent).entry_mark_wrote c
  rw [Pen.spacing, comes.gap] at wrote
  refine ⟨⟨by rw [marked], fun _ => ?_⟩, by rw [marked]; exact comes.fresh, wrote⟩
  rw [marked, comes.place]

theorem WritesNode.item {piece : List Char} (comes : pen.ComesTo indent)
    (writes : WritesNode indent read ((pen.toColumn indent).entryMark '-') after piece) :
    WritesBlock .blockSequence indent (.blockEntry :: read) pen after ('-' :: piece) := by
  obtain ⟨-, fresh, wrote⟩ := comes.marked '-'
  have lexed := writes.lexed
  rw [fresh] at lexed
  exact ⟨lexed.item, wrote.trans writes.wrote, writes.used, writes.inked⟩

theorem WritesScalar.shortEntry {key : Pen} {piece : List Char} (comes : pen.ComesTo indent)
    (writes : WritesScalar (indent + 2) token (pen.toColumn indent) key body) (own : KeyBody body)
    (node : WritesNode indent read (key.closeMark [':']) after piece) :
    WritesBlock .blockMapping indent (.key :: token :: .value :: read) pen after
      (body ++ ':' :: piece) := by
  have wrote := writes.wrote
  rw [Pen.spacing, comes.gap] at wrote
  exact ⟨NodeLexed.shortEntry writes.form own.single own.short node.lexed,
    wrote.trans ((key.close_mark_wrote [':']).trans node.wrote), node.used, node.inked⟩

theorem WritesNode.longEntry {key : Pen} {keyRead : List Token} {keyPiece piece : List Char}
    (comes : pen.ComesTo indent)
    (writes : WritesNode indent keyRead ((pen.toColumn indent).entryMark '?') key keyPiece)
    (node : WritesNode indent read ((key.toColumn indent).entryMark ':') after piece) :
    WritesBlock .blockMapping indent (.key :: (keyRead ++ .value :: read)) pen after
      ('?' :: (keyPiece ++ (newLine indent ++ ':' :: piece))) := by
  obtain ⟨-, fresh, wrote⟩ := comes.marked '?'
  obtain ⟨-, fresh', wrote'⟩ := (Pen.comes_used writes.used indent).marked ':'
  have keyLexed := writes.lexed
  have lexed := node.lexed
  rw [fresh] at keyLexed
  rw [fresh'] at lexed
  exact ⟨keyLexed.longEntry lexed, wrote.trans (writes.wrote.trans
    ((Pen.to_column_wrote (.inl writes.used)).trans (wrote'.trans node.wrote))), node.used, node.inked⟩

/-- An entry of a mapping, whichever way its key is written. -/
theorem writes_entry {wide : Bool} {key : String} (comes : pen.ComesTo indent)
    (legible : LegibleText wide (isShortKey key) (indent + 2) key) (write : Pen → Pen)
    (node : ∀ behind : Pen, behind.AtNode indent → behind.fresh = !isShortKey key →
      ∃ piece, WritesNode indent read behind (write behind) piece) :
    ∃ body, WritesBlock .blockMapping indent
      (.key :: textToken wide (isShortKey key) key :: .value :: read) pen
      (write
        (if isShortKey key then
          (writeText wide (indent + 2) true key (pen.toColumn indent)).closeMark [':']
        else
          ((writeText wide (indent + 2) false key ((pen.toColumn indent).entryMark '?')).toColumn
            indent).entryMark ':')) body := by
  cases short : isShortKey key with
  | true =>
      rw [short] at legible node
      obtain ⟨text, writes, own⟩ := write_text_form (by omega) legible (pen.toColumn indent)
      obtain ⟨piece, written⟩ := node
        ((writeText wide (indent + 2) true key (pen.toColumn indent)).closeMark [':'])
        ⟨rfl, nofun⟩ rfl
      exact ⟨_, writes.shortEntry comes (own rfl short) written⟩
  | false =>
      rw [short] at legible node
      obtain ⟨place, -, -⟩ := comes.marked '?'
      obtain ⟨text, writes, -⟩ := write_text_form (by omega) legible
        ((pen.toColumn indent).entryMark '?')
      obtain ⟨place', fresh', -⟩ := (Pen.comes_used writes.used indent).marked ':'
      obtain ⟨piece, written⟩ := node _ place' fresh'
      exact ⟨_, (writes.node place).longEntry comes written⟩

end

/-! ## Whole trees -/

theorem real_allows_plain {number : Binary64} (normal : number.Normal)
    (finite : number.isFinite = true) (wide : Bool) :
    allowsPlain wide (realText number).toList = true ∧ (realText number).toList ≠ [] := by
  cases number with
  | nan => cases finite
  | infinite => cases finite
  | finite negative significand exponent =>
      obtain ⟨numeral, same, -⟩ := real_text_form normal
      have figures := pointed_figures numeral
      rw [same]
      exact ⟨number_allows_plain figures negative wide,
        fun none => figures.some (List.append_eq_nil_iff.mp none).2⟩

theorem integer_allows_plain (number : Int) (wide : Bool) :
    allowsPlain wide (toString number).toList = true ∧ (toString number).toList ≠ [] := by
  obtain ⟨some, all⟩ := digits_of_form number
  rw [integer_text]
  exact ⟨number_allows_plain (AllDigits.figures some all) _ wide,
    fun none => some (List.append_eq_nil_iff.mp none).2⟩

theorem word_allows_plain (wide : Bool) :
    (allowsPlain wide "null".toList = true ∧ "null".toList ≠ []) ∧ ∀ value : Bool,
      allowsPlain wide (if value then "true" else "false").toList = true ∧
        (if value then "true" else "false").toList ≠ [] := by
  cases wide <;> decide

/-- A text that may be plain, as the whole of a node. -/
theorem writes_plain (wide : Bool) {indent : Nat} {pen : Pen} (place : pen.AtNode indent)
    {text : String} (plain : allowsPlain wide text.toList = true ∧ text.toList ≠ []) :
    ∃ piece, WritesNode indent [.scalar text true] pen (writePlain (indent + 2) true text.toList pen)
      piece := by
  obtain ⟨body, writes, -⟩ := write_plain_form plain.1 plain.2 (indent + 2) true pen
  rw [String.ofList_toList] at writes
  exact ⟨_, writes.node place⟩

mutual

theorem writes_node (wide inMapping : Bool) : ∀ (data : Plain) {indent : Nat} {pen : Pen},
    pen.AtNode indent → Sound data → Legible wide indent (inMapping && !pen.fresh) data →
      ∃ piece, WritesNode indent (nodeTokens wide (inMapping && !pen.fresh) data) pen
        (writeNode wide indent inMapping data pen) piece
  | .null, _, _, place, _, _ => writes_plain wide place (word_allows_plain wide).1
  | .bool value, _, _, place, _, _ => writes_plain wide place ((word_allows_plain wide).2 value)
  | .int value, _, _, place, _, _ => writes_plain wide place (integer_allows_plain value wide)
  | .real value, _, _, place, ⟨normal, finite⟩, _ =>
      writes_plain wide place (real_allows_plain normal finite wide)
  | .text value, _, pen, place, _, legible => by
      obtain ⟨body, writes, -⟩ := write_text_form (by omega) legible pen
      exact ⟨_, writes.node place⟩
  | .list [], _, _, place, _, _ => ⟨_, Lexer.EmptyBrackets.sequence.writes place⟩
  | .list (item :: rest), indent, pen, place, sound, legible => by
      have all {column : Nat} (comes : pen.ComesTo column)
          (own : LegibleItems wide column (item :: rest)) :=
        writes_items wide (item :: rest) (by simp) comes sound own
      cases bare : inMapping && !pen.fresh with
      | true =>
          rw [Legible, bare, if_pos rfl] at legible
          have used : pen.fresh = false := by simpa using (Bool.and_eq_true_iff.mp bare).2
          obtain ⟨body, writes⟩ := all (Pen.comes_used used indent) legible
          simp only [nodeTokens, writeNode, bare, if_true]
          exact writes.bare used
      | false =>
          rw [Legible, bare, if_neg Bool.false_ne_true] at legible
          obtain ⟨body, writes⟩ := all place.descends.1 legible
          simp only [nodeTokens, writeNode, bare, Bool.false_eq_true, if_false]
          exact writes.node place
  | .map [], _, _, place, _, _ => ⟨_, Lexer.EmptyBrackets.mapping.writes place⟩
  | .map (entry :: rest), indent, pen, place, sound, legible => by
      obtain ⟨body, writes⟩ :=
        writes_entries wide (entry :: rest) (by simp) place.descends.1 sound.2 legible
      exact writes.node place

theorem writes_items (wide : Bool) : ∀ (items : List Plain) {indent : Nat} {pen : Pen}, items ≠ [] →
    pen.ComesTo indent → SoundItems items → LegibleItems wide indent items →
      ∃ body, WritesBlock .blockSequence indent (itemTokens wide items) pen
        (writeItems wide indent items pen) body
  | [], _, _, filled, _, _, _ => absurd rfl filled
  | item :: rest, indent, pen, _, comes, ⟨sound, sounds⟩, ⟨legible, legibles⟩ => by
      obtain ⟨place, -, -⟩ := comes.marked '-'
      obtain ⟨piece, writes⟩ := writes_node wide false item place sound legible
      have one := writes.item comes
      match rest, sounds, legibles with
      | [], _, _ => exact ⟨_, by simpa [itemTokens, writeItems] using one⟩
      | next :: rest, sounds, legibles =>
          obtain ⟨later, others⟩ := writes_items wide (next :: rest) (by simp)
            (Pen.comes_used one.used indent) sounds legibles
          exact ⟨_, one.append others⟩

theorem writes_entries (wide : Bool) : ∀ (entries : List (String × Plain)) {indent : Nat} {pen : Pen},
    entries ≠ [] → pen.ComesTo indent → SoundEntries entries → LegibleEntries wide indent entries →
      ∃ body, WritesBlock .blockMapping indent (entryTokens wide entries) pen
        (writeEntries wide indent entries pen) body
  | [], _, _, filled, _, _, _ => absurd rfl filled
  | (key, item) :: rest, indent, pen, _, comes, ⟨sound, sounds⟩, ⟨legible, own, legibles⟩ => by
      have value (behind : Pen) (place : behind.AtNode indent) (fresh : behind.fresh = !isShortKey key) :
          ∃ piece, WritesNode indent (nodeTokens wide (isShortKey key) item) behind
            (writeNode wide indent true item behind) piece := by
        have bare : isShortKey key = (true && !behind.fresh) := by simp [fresh]
        rw [bare] at own ⊢
        exact writes_node wide true item place sound own
      obtain ⟨piece, one⟩ := writes_entry comes legible _ value
      match rest, sounds, legibles with
      | [], _, _ => exact ⟨_, by simpa [entryTokens, writeEntries] using one⟩
      | next :: rest, sounds, legibles =>
          obtain ⟨later, others⟩ := writes_entries wide (next :: rest) (by simp)
            (Pen.comes_used one.used indent) sounds legibles
          exact ⟨_, one.append others⟩

end

/-! ## Whole documents -/

theorem line_start_end : Cursor.LineStart 0 [] := by
  refine ⟨nofun, fun _ cursor here => ?_⟩
  rw [Cursor.atDocumentMark, Cursor.atMark, Cursor.atMark, here]
  rfl

/-- A mapping at the left margin, with a line break behind it, is a whole document. -/
theorem BlockLexed.document {read : List Token} {body : List Char}
    (block : BlockLexed .blockMapping 0 read body) :
    Token.ofText? (String.ofList (body ++ newLine 0)) =
      some (.blockMapping :: (read ++ [.blockEnd, .streamEnd])) := by
  have allowed : (body ++ newLine 0).all isAllowed = true := by
    simp only [List.all_eq_true, List.forall_mem_append]
    exact ⟨block.allowed, new_line_allowed 0⟩
  have whole : (Cursor.start (body ++ newLine 0)).rest = body ++ (newLine 0 ++ []) := by
    rw [List.append_nil]
    rfl
  have goes : Cursor.GoesOn (Cursor.start (body ++ newLine 0)).rest := by
    rw [whole]
    exact (block.starts 0 []).goesOn
  have opens : Lexer.Reaches (.start (body ++ newLine 0))
      (.ready [] [] true [] (.start (body ++ newLine 0))) :=
    .of_arrive rfl (Lexer.arrive_here goes (by simp)) (Nat.le_refl _)
  have lexes : Lexer.Proceeds (.ready [] [] true [] (.start (body ++ newLine 0))) _ :=
    block.lexes [] whole line_start_end rfl (by decide) (Nat.le_refl _)
  rw [Lexer.end_blocks_stay (show (Lexer.opened .blockMapping 0 [] []).2.headD (-1) ≤ (0 : Nat) by
    decide)] at lexes
  have ended : ((Cursor.start (body ++ newLine 0)).skip (body.length + (0 + 1))).rest = [] := by
    rw [Cursor.skip_rest]
    exact List.drop_eq_nil_of_le (by simp [Cursor.start, newLine])
  have run := Lexer.run_to_end (opens.then lexes) ended
  simp only [Token.ofText?, String.toList_ofList, allowed, if_true, run]
  simp [Lexer.opened]

theorem of_text_write {wide : Bool} {entries : List (String × Plain)} (filled : entries ≠ [])
    (sound : SoundEntries entries) (legible : LegibleEntries wide 0 entries) :
    Token.ofText? (write wide entries) =
      some (.blockMapping :: (entryTokens wide entries ++ [.blockEnd, .streamEnd])) := by
  obtain ⟨body, writes⟩ := writes_entries wide entries filled
    (show Pen.start.ComesTo 0 from ⟨rfl, rfl, rfl⟩) sound legible
  have wrote : Pen.start.Wrote (body ++ newLine 0)
      ((writeEntries wide 0 entries .start).toColumn 0) :=
    writes.wrote.trans (Pen.to_column_wrote (.inl writes.used))
  have text : write wide entries = String.ofList (body ++ newLine 0) := by
    cases entries with
    | nil => exact absurd rfl filled
    | cons entry rest =>
        rw [write, Pen.text, show Pen.written _ = _ from wrote]
        · simp [Pen.start]
        · exact filled
  rw [text]
  exact writes.lexed.document

end FixtureImages.Yaml
