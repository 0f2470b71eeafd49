import FixtureImages.Yaml.Cursor
import FixtureImages.Yaml.Fault

/-!
# Scalars in the text of a document

Each function reads one form of scalar at a cursor and returns its text and the place behind it:
plain, quoted in single or double quotes, and the block forms that keep or fold their lines.
-/

namespace FixtureImages.Yaml

set_option autoImplicit false

/-! ## Plain scalars -/

/-- Whether a plain word ends at a character, given the one behind it. -/
def endsPlain (flow : Bool) (c following : Char) : Bool :=
  isGapOrEnd c ||
    (c == ':' && (isGapOrEnd following || (flow && ",[]\x7b\x7d".toList.contains following))) ||
    (flow && ",?[]\x7b\x7d".toList.contains c)

def plainWordLength (flow : Bool) : List Char → Nat
  | [] => 0
  | c :: rest => if endsPlain flow c (rest.headD '\x00') then 0 else plainWordLength flow rest + 1

/-- Blank lines and indentation behind a first line break: the breaks read, and whether a mark of a
document stopped the scalar. -/
def plainBreaks : Nat → Cursor → List Char × Bool × Cursor
  | 0, cursor => ([], false, cursor)
  | fuel + 1, cursor =>
      if cursor.peek == ' ' then plainBreaks fuel cursor.next
      else if isBreak cursor.peek then
        let (read, after) := cursor.lineBreak
        if after.atDocumentMark then ([], true, after)
        else
          let (more, stopped, last) := plainBreaks fuel after
          (read ++ more, stopped, last)
      else ([], false, cursor)

/-- The space between two words of a plain scalar: what it reads as, whether a line was ended, and
the place behind it. Nothing is read when the scalar ends there. -/
def plainGap (cursor : Cursor) : List Char × Bool × Cursor :=
  let (spaces, afterSpaces) := cursor.run (· == ' ')
  if isBreak afterSpaces.peek then
    let (lineBreak, afterBreak) := afterSpaces.lineBreak
    if afterBreak.atDocumentMark then ([], true, afterBreak)
    else
      let (breaks, stopped, after) := plainBreaks (afterBreak.rest.length + 1) afterBreak
      if stopped then ([], true, after)
      else
        let folded :=
          if lineBreak != ['\n'] then lineBreak else if breaks.isEmpty then [' '] else []
        (folded ++ breaks, true, after)
  else (spaces, false, afterSpaces)

/-- The words of a plain scalar. `gap` is the space read before the next word, and `ended` whether
it ended a line. -/
def plainWords (flow : Bool) (indent : Int) :
    Nat → (gap : List Char) → (ended : Bool) → Cursor → List Char × Bool × Cursor
  | 0, _, ended, cursor => ([], ended, cursor)
  | fuel + 1, gap, ended, cursor =>
      let length := plainWordLength flow cursor.rest
      if cursor.peek == '#' || length == 0 then ([], ended, cursor)
      else
        let word := gap ++ cursor.rest.take length
        let (nextGap, endedNow, after) := plainGap (cursor.skip length)
        if nextGap.isEmpty || after.peek == '#' || (!flow && (after.column : Int) < indent) then
          (word, endedNow, after)
        else
          let (more, endedLast, last) := plainWords flow indent fuel nextGap endedNow after
          (word ++ more, endedLast, last)

/-- A plain scalar: its text, whether the place behind it is at the start of a line, and that place.
-/
def plainScalar (flow : Bool) (indent : Int) (cursor : Cursor) : String × Bool × Cursor :=
  let (text, ended, after) :=
    plainWords flow (indent + 1) (cursor.rest.length + 1) [] false cursor
  (String.ofList text, ended, after)

/-! ## Quoted scalars -/

/-- Characters that an escape of one letter stands for. -/
def simpleEscape? (c : Char) : Option Char :=
  match c with
  | '0' => some '\x00'
  | 'a' => some '\x07'
  | 'b' => some '\x08'
  | 't' => some '\t'
  | '\t' => some '\t'
  | 'n' => some '\n'
  | 'v' => some '\x0b'
  | 'f' => some '\x0c'
  | 'r' => some '\r'
  | 'e' => some '\x1b'
  | ' ' => some ' '
  | '"' => some '"'
  | '\\' => some '\\'
  | '/' => some '/'
  | 'N' => some '\u0085'
  | '_' => some '\u00a0'
  | 'L' => some '\u2028'
  | 'P' => some '\u2029'
  | _ => none

/-- How many hexadecimal digits follow an escape by number. -/
def escapeWidth? (c : Char) : Option Nat :=
  match c with
  | 'x' => some 2
  | 'u' => some 4
  | 'U' => some 8
  | _ => none

def hexValue (digits : List Char) : Nat :=
  digits.foldl (fun value c => value * 16 + ((baseDigit? 16 c).getD 0)) 0

/-- Line breaks and the indentation around them inside a quoted scalar. A mark of a document there
is a fault. -/
def quotedBreaks : Nat → Cursor → Except Fault (List Char × Cursor)
  | 0, cursor => .ok ([], cursor)
  | fuel + 1, cursor =>
      if cursor.atDocumentMark then .error .malformed
      else
        let inner := cursor.skipWhile fun c => c == ' ' || c == '\t'
        if isBreak inner.peek then do
          let (read, after) := inner.lineBreak
          let (more, last) ← quotedBreaks fuel after
          return (read ++ more, last)
        else .ok ([], inner)

/-- White space inside a quoted scalar: kept within a line, folded around line breaks. -/
def quotedGap (cursor : Cursor) : Except Fault (List Char × Cursor) :=
  let (spaces, after) := cursor.run fun c => c == ' ' || c == '\t'
  if isEnd after.peek then .error .malformed
  else if isBreak after.peek then do
    let (lineBreak, next) := after.lineBreak
    let (breaks, last) ← quotedBreaks (next.rest.length + 1) next
    let folded := if lineBreak != ['\n'] then lineBreak else if breaks.isEmpty then [' '] else []
    return (folded ++ breaks, last)
  else .ok (spaces, after)

/-- The character of a code point. A surrogate has none and reads as the replacement character. -/
def charOfCode (code : Nat) : Char :=
  if 0xd800 ≤ code && code ≤ 0xdfff then '\ufffd' else Char.ofNat code

/-- One escape, with the cursor behind the backslash. -/
def escape (cursor : Cursor) : Except Fault (List Char × Cursor) :=
  let c := cursor.peek
  match simpleEscape? c, escapeWidth? c with
  | some meant, _ => .ok ([meant], cursor.next)
  | none, some width =>
      let digits := cursor.next.rest.take width
      if digits.length != width || !digits.all isHexDigit then .error .malformed
      else if 0x80000000 ≤ hexValue digits then .error .wideCodePoint
      else if 0x110000 ≤ hexValue digits then .error .codePoint
      else .ok ([charOfCode (hexValue digits)], cursor.skip (width + 1))
  | none, none =>
      if isBreak c then
        let (_, after) := cursor.lineBreak
        quotedBreaks (after.rest.length + 1) after
      else .error .malformed

/-- The rest of a quoted scalar, up to and including the closing quote. -/
def quotedRest (double : Bool) : Nat → Cursor → Except Fault (List Char × Cursor)
  | 0, _ => .error .malformed
  | fuel + 1, cursor =>
      let continueWith (piece : List Char) (after : Cursor) :
          Except Fault (List Char × Cursor) := do
        let (more, last) ← quotedRest double fuel after
        return (piece ++ more, last)
      let c := cursor.peek
      if double && c == '"' then .ok ([], cursor.next)
      else if !double && c == '\'' then
        if cursor.peekAt 1 == '\'' then continueWith ['\''] (cursor.skip 2)
        else .ok ([], cursor.next)
      else if double && c == '\\' then do
        let (piece, after) ← escape cursor.next
        continueWith piece after
      else if isGapOrEnd c then do
        let (piece, after) ← quotedGap cursor
        continueWith piece after
      else continueWith [c] cursor.next

def quotedScalar (double : Bool) (cursor : Cursor) : Except Fault (String × Cursor) := do
  let (text, after) ← quotedRest double (cursor.rest.length + 1) cursor.next
  return (String.ofList text, after)

/-! ## Block scalars -/

/-- What happens to the line breaks at the end of a block scalar. -/
inductive Chomping
  | clip
  | strip
  | keep
deriving DecidableEq

def chompingMark? (c : Char) : Option Chomping :=
  if c == '+' then some .keep else if c == '-' then some .strip else none

/-- The header of a block scalar: chomping and indentation in either order. -/
def blockHeader (cursor : Cursor) : Except Fault (Chomping × Option Nat × Cursor) := do
  let readIndent (c : Cursor) : Except Fault (Option Nat × Cursor) :=
    match Text.asciiDigit? c.peek with
    | some 0 => .error .malformed
    | some digit => .ok (some digit, c.next)
    | none => .ok (none, c)
  let (chomping, indent, after) ←
    match chompingMark? cursor.peek with
    | some chomping => do
        let (indent, after) ← readIndent cursor.next
        pure (chomping, indent, after)
    | none => do
        let (indent, after) ← readIndent cursor
        match indent, chompingMark? after.peek with
        | some digit, some chomping => pure (chomping, some digit, after.next)
        | _, _ => pure (Chomping.clip, indent, after)
  if isSpaceOrEnd after.peek then return (chomping, indent, after) else .error .malformed

/-- The rest of a line that holds nothing but a comment. -/
def emptyRest (cursor : Cursor) : Except Fault Cursor :=
  let after := cursor.skipSpaces.skipComment
  if isBreakOrEnd after.peek then .ok after.lineBreak.2 else .error .malformed

/-- Blank lines before the first line of a block scalar, and the widest indentation seen. -/
def blockLead : Nat → (widest : Nat) → Cursor → List Char × Nat × Cursor
  | 0, widest, cursor => ([], widest, cursor)
  | fuel + 1, widest, cursor =>
      if cursor.peek == ' ' then blockLead fuel (max widest cursor.next.column) cursor.next
      else if isBreak cursor.peek then
        let (read, after) := cursor.lineBreak
        let (more, last, place) := blockLead fuel widest after
        (read ++ more, last, place)
      else ([], widest, cursor)

def skipIndent (indent : Nat) : Nat → Cursor → Cursor
  | 0, cursor => cursor
  | fuel + 1, cursor =>
      if cursor.column < indent && cursor.peek == ' ' then skipIndent indent fuel cursor.next
      else cursor

/-- Blank lines inside a block scalar, and the indentation of the line behind them. -/
def blockBreaks (indent : Nat) : Nat → Cursor → List Char × Cursor
  | 0, cursor => ([], cursor)
  | fuel + 1, cursor =>
      let inner := skipIndent indent indent cursor
      if isBreak inner.peek then
        let (read, after) := inner.lineBreak
        let (more, last) := blockBreaks indent fuel after
        (read ++ more, last)
      else ([], inner)

/-- The lines of a block scalar. `breaks` are the blank lines before the line at the cursor. The
result is the text up to the last line, its line break, the blank lines behind it, and the place
there. -/
def blockLines (folded : Bool) (indent : Nat) :
    Nat → (breaks : List Char) → Cursor → List Char × List Char × List Char × Cursor
  | 0, breaks, cursor => ([], [], breaks, cursor)
  | fuel + 1, breaks, cursor =>
      if cursor.column != indent || isEnd cursor.peek then ([], [], breaks, cursor)
      else
        let solid := cursor.peek != ' ' && cursor.peek != '\t'
        let (line, atBreak) := cursor.run fun c => !isBreakOrEnd c
        let (lineBreak, afterBreak) := atBreak.lineBreak
        let (nextBreaks, next) := blockBreaks indent (afterBreak.rest.length + 1) afterBreak
        if next.column == indent && !isEnd next.peek then
          let joined :=
            if folded && lineBreak == ['\n'] && solid && next.peek != ' ' && next.peek != '\t' then
              (if nextBreaks.isEmpty then [' '] else [])
            else lineBreak
          let (more, lastBreak, lastBreaks, place) := blockLines folded indent fuel nextBreaks next
          (breaks ++ line ++ joined ++ more, lastBreak, lastBreaks, place)
        else (breaks ++ line, lineBreak, nextBreaks, next)

/-- A block scalar, from its mark. The indentation of the block around it is `outer`. -/
def blockScalar (folded : Bool) (outer : Int) (cursor : Cursor) :
    Except Fault (String × Cursor) := do
  let (chomping, increment, afterHeader) ← blockHeader cursor.next
  let body ← emptyRest afterHeader
  let least := (max (outer + 1) 1).toNat
  let (indent, breaks, first) :=
    match increment with
    | none =>
        let (breaks, widest, first) := blockLead (body.rest.length + 1) 0 body
        (max least widest, breaks, first)
    | some digit =>
        let indent := least + digit - 1
        let (breaks, first) := blockBreaks indent (body.rest.length + 1) body
        (indent, breaks, first)
  let (text, lastBreak, lastBreaks, after) :=
    blockLines folded indent (first.rest.length + 1) breaks first
  let final :=
    match chomping with
    | .strip => []
    | .clip => lastBreak
    | .keep => lastBreak ++ lastBreaks
  return (String.ofList (text ++ final), after)

end FixtureImages.Yaml
