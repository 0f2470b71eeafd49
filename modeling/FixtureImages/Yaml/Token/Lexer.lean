import FixtureImages.Yaml.Token.Property
import FixtureImages.Yaml.Token.Scalar

/-!
# From text to tokens

The text is cut into tokens from left to right. The lexer keeps the columns of the open block
collections, the depth of flow brackets, and for each depth the place of a token that may turn out
to be a key. When the colon behind such a token is met, the mark of a key, and of a mapping that
begins with it, is put in front of the token. The first fault ends the tokens.
-/

namespace FixtureImages.Yaml

set_option autoImplicit false

/-- A token that may turn out to be a key without a mark of its own. A required one stands where a
block mapping must go on. -/
structure KeyPlace where
  depth : Nat
  token : Nat
  required : Bool
  index : Nat
  line : Nat
  column : Nat

structure Lexer where
  cursor : Cursor
  /-- Tokens so far, the last one first. -/
  tokens : List Token
  count : Nat
  /-- Columns of the open block collections, the innermost first. -/
  indents : List Int
  depth : Nat
  keyAllowed : Bool
  keyPlaces : List KeyPlace
  finished : Bool

namespace Lexer

def start (text : List Char) : Lexer :=
  { cursor := .start text, tokens := [], count := 0, indents := [], depth := 0, keyAllowed := true
    keyPlaces := [], finished := false }

def indent (lexer : Lexer) : Int := lexer.indents.headD (-1)

def emit (token : Token) (lexer : Lexer) : Lexer :=
  { lexer with tokens := token :: lexer.tokens, count := lexer.count + 1 }

/-- Put a token in front of the one with the given number. -/
def emitBefore (number : Nat) (token : Token) (lexer : Lexer) : Lexer :=
  { lexer with
    tokens := lexer.tokens.insertIdx (lexer.count - number) token
    count := lexer.count + 1 }

def moveTo (cursor : Cursor) (lexer : Lexer) : Lexer := { lexer with cursor := cursor }

def allowKey (allowed : Bool) (lexer : Lexer) : Lexer := { lexer with keyAllowed := allowed }

/-! ## Indentation -/

/-- End the block collections that are indented more than a column. -/
def endBlocks (column : Int) (lexer : Lexer) : Lexer :=
  if lexer.depth ≠ 0 then lexer
  else
    let ended := lexer.indents.takeWhile (column < ·)
    { lexer with
      indents := lexer.indents.drop ended.length
      tokens := List.replicate ended.length .blockEnd ++ lexer.tokens
      count := lexer.count + ended.length }

/-- Open a block collection at a column that is further in than the open ones. -/
def openBlock (column : Nat) (opens : Lexer → Lexer) (lexer : Lexer) : Lexer :=
  if lexer.indent < (column : Int) then
    opens { lexer with indents := (column : Int) :: lexer.indents }
  else lexer

/-! ## Places of keys -/

/-- Forget the place of a key at the present depth; a required one is a fault. -/
def dropKeyPlace (lexer : Lexer) : Except Fault Lexer :=
  match lexer.keyPlaces with
  | place :: rest =>
      if place.depth ≠ lexer.depth then .ok lexer
      else if place.required then .error .malformed
      else .ok { lexer with keyPlaces := rest }
  | [] => .ok lexer

/-- Note that the next token may be a key. -/
def markKeyPlace (lexer : Lexer) : Except Fault Lexer := do
  if !lexer.keyAllowed then return lexer
  let required := lexer.depth = 0 ∧ lexer.indent = (lexer.cursor.column : Int)
  let lexer ← lexer.dropKeyPlace
  let place : KeyPlace :=
    ⟨lexer.depth, lexer.count, required, lexer.cursor.index, lexer.cursor.line, lexer.cursor.column⟩
  return { lexer with keyPlaces := place :: lexer.keyPlaces }

/-- A key stays on its line and within 1024 characters. -/
def isStale (cursor : Cursor) (place : KeyPlace) : Bool :=
  place.line != cursor.line || 1024 < cursor.index - place.index

/-- Forget the places that are too far behind; a required one among them is a fault. -/
def dropStale (lexer : Lexer) : Except Fault Lexer :=
  if lexer.keyPlaces.any fun place => isStale lexer.cursor place && place.required then
    .error .malformed
  else
    .ok { lexer with keyPlaces := lexer.keyPlaces.filter fun place => !isStale lexer.cursor place }

/-! ## One token -/

/-- White space, comments and line breaks before the next token, and whether a line was ended. -/
def skipGap : Nat → (ended : Bool) → Cursor → Bool × Cursor
  | 0, ended, cursor => (ended, cursor)
  | fuel + 1, ended, cursor =>
      let atText := cursor.skipSpaces.skipComment
      if isBreak atText.peek then skipGap fuel true atText.lineBreak.2 else (ended, atText)

def toNextToken (lexer : Lexer) : Lexer :=
  let first := lexer.cursor
  let opened := if first.index = 0 ∧ first.peek = byteOrderMark then first.next else first
  let (ended, cursor) := skipGap (opened.rest.length + 1) false opened
  { lexer with cursor := cursor, keyAllowed := lexer.keyAllowed || (ended && lexer.depth == 0) }

/-- One token of a fixed number of characters. -/
def fixed (token : Token) (length : Nat) (lexer : Lexer) : Lexer :=
  (lexer.emit token).moveTo (lexer.cursor.skip length)

def documentMark (token : Token) (lexer : Lexer) : Except Fault Lexer := do
  let lexer ← (lexer.endBlocks (-1)).dropKeyPlace
  return (lexer.allowKey false).fixed token 3

def flowStart (token : Token) (lexer : Lexer) : Except Fault Lexer := do
  let lexer ← lexer.markKeyPlace
  return ({ lexer with depth := lexer.depth + 1 }.allowKey true).fixed token 1

def flowEnd (token : Token) (lexer : Lexer) : Except Fault Lexer := do
  let lexer ← lexer.dropKeyPlace
  return ({ lexer with depth := lexer.depth - 1 }.allowKey false).fixed token 1

def flowEntry (lexer : Lexer) : Except Fault Lexer := do
  let lexer ← (lexer.allowKey true).dropKeyPlace
  return lexer.fixed .flowEntry 1

/-- A mark that opens a block collection where none is open at its column. -/
def blockMark (opening mark : Token) (keyAllowed : Bool) (lexer : Lexer) : Except Fault Lexer := do
  if lexer.depth = 0 ∧ !lexer.keyAllowed then throw .malformed
  let lexer :=
    if lexer.depth = 0 then lexer.openBlock lexer.cursor.column (·.emit opening) else lexer
  let lexer ← (lexer.allowKey keyAllowed).dropKeyPlace
  return lexer.fixed mark 1

def valueMark (lexer : Lexer) : Except Fault Lexer :=
  match lexer.keyPlaces with
  | place :: rest =>
      if place.depth = lexer.depth then
        let lexer := { lexer with keyPlaces := rest }.emitBefore place.token .key
        let lexer :=
          if lexer.depth = 0 then
            lexer.openBlock place.column (·.emitBefore place.token .blockMapping)
          else lexer
        .ok ((lexer.allowKey false).fixed .value 1)
      else lexer.blockMark .blockMapping .value (lexer.depth == 0)
  | [] => lexer.blockMark .blockMapping .value (lexer.depth == 0)

/-- A token that may be a key, read by a scanning function. -/
def keyLike {α : Type} (read : Cursor → Except Fault (α × Cursor)) (token : α → Token)
    (lexer : Lexer) : Except Fault Lexer := do
  let lexer ← lexer.markKeyPlace
  let (content, after) ← read lexer.cursor
  return ((lexer.allowKey false).emit (token content)).moveTo after

def plain (lexer : Lexer) : Except Fault Lexer := do
  let lexer ← lexer.markKeyPlace
  let (text, ended, after) := plainScalar (lexer.depth != 0) lexer.indent lexer.cursor
  return ((lexer.allowKey ended).emit (.scalar text true)).moveTo after

def block (folded : Bool) (lexer : Lexer) : Except Fault Lexer := do
  let lexer ← (lexer.allowKey true).dropKeyPlace
  let (text, after) ← blockScalar folded lexer.indent lexer.cursor
  return (lexer.emit (.scalar text false)).moveTo after

def streamEnd (lexer : Lexer) : Except Fault Lexer := do
  let lexer ← (lexer.endBlocks (-1)).dropKeyPlace
  return { (lexer.emit .streamEnd) with finished := true }

/-- Whether a plain scalar may begin with a character, given the one behind it. -/
def startsPlain (flow : Bool) (c following : Char) : Bool :=
  (!isGapOrEnd c && !"-?:,[]\x7b\x7d#&*!|>'\"%@\x60".toList.contains c) ||
    (!isGapOrEnd following && (c == '-' || (!flow && (c == '?' || c == ':'))))

/-- Go to the next token, and end the blocks before it. -/
def arrive (lexer : Lexer) : Except Fault Lexer := do
  let lexer ← lexer.toNextToken.dropStale
  return lexer.endBlocks lexer.cursor.column

/-- Read the token at the cursor. -/
def readToken (lexer : Lexer) : Except Fault Lexer := do
  let cursor := lexer.cursor
  let c := cursor.peek
  let flow := lexer.depth != 0
  let beforeGap := isGapOrEnd (cursor.peekAt 1)
  if isEnd c then lexer.streamEnd
  else if c == '%' && cursor.column == 0 then
    let lexer ← (lexer.endBlocks (-1)).dropKeyPlace
    let (directive, after) ← directiveLine cursor
    return ((lexer.allowKey false).emit (.directive directive)).moveTo after
  else if cursor.column == 0 && cursor.atMark '-' then lexer.documentMark .documentStart
  else if cursor.column == 0 && cursor.atMark '.' then lexer.documentMark .documentEnd
  else if c == '[' then lexer.flowStart .flowSequence
  else if c == '{' then lexer.flowStart .flowMapping
  else if c == ']' then lexer.flowEnd .flowSequenceEnd
  else if c == '}' then lexer.flowEnd .flowMappingEnd
  else if c == ',' then lexer.flowEntry
  else if c == '-' && beforeGap then lexer.blockMark .blockSequence .blockEntry true
  else if c == '?' && (flow || beforeGap) then lexer.blockMark .blockMapping .key (!flow)
  else if c == ':' && (flow || beforeGap) then lexer.valueMark
  else if c == '*' then lexer.keyLike anchorName .reference
  else if c == '&' then lexer.keyLike anchorName .anchor
  else if c == '!' then lexer.keyLike tagText .tag
  else if c == '|' && !flow then lexer.block false
  else if c == '>' && !flow then lexer.block true
  else if c == '\'' then lexer.keyLike (quotedScalar false) (.scalar · false)
  else if c == '"' then lexer.keyLike (quotedScalar true) (.scalar · false)
  else if startsPlain flow c (cursor.peekAt 1) then lexer.plain
  else throw .malformed

/-- Read the next token, and the block ends before it. -/
@[irreducible] def step (lexer : Lexer) : Except Fault Lexer := do
  let lexer ← lexer.arrive
  lexer.readToken

def run : Nat → Lexer → List Token
  | 0, lexer => .broken .malformed :: lexer.tokens
  | fuel + 1, lexer =>
      if lexer.finished then lexer.tokens
      else
        match lexer.step with
        | .ok next => run fuel next
        | .error fault => .broken fault :: lexer.tokens

end Lexer

/-- The tokens of a text, or none when it has a character that no document may contain. -/
def Token.ofText? (text : String) : Option (List Token) :=
  let chars := text.toList
  if chars.all isAllowed then some (Lexer.run (chars.length + 2) (.start chars)).reverse else none

end FixtureImages.Yaml
