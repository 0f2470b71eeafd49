/-!
# A place in a document

The characters that remain, with the index, line and column of the first of them. The end of the
text reads as the character of code 0, which a document cannot contain.
-/

namespace FixtureImages.Yaml

set_option autoImplicit false

def isBreak (c : Char) : Bool :=
  c == '\n' || c == '\r' || c == '\u0085' || c == '\u2028' || c == '\u2029'

def isEnd (c : Char) : Bool := c == '\x00'

def isBreakOrEnd (c : Char) : Bool := isBreak c || isEnd c

def isSpaceOrEnd (c : Char) : Bool := c == ' ' || isBreakOrEnd c

/-- A space, a tab, a line break or the end. -/
def isGapOrEnd (c : Char) : Bool := c == '\t' || isSpaceOrEnd c

/-- ASCII letters and digits, the hyphen and the underscore. -/
def isWordChar (c : Char) : Bool := c.isAlphanum || c == '-' || c == '_'

def isHexDigit (c : Char) : Bool :=
  c.isDigit || ('a' ≤ c && c ≤ 'f') || ('A' ≤ c && c ≤ 'F')

/-- The mark that may open a text and takes no column. -/
def byteOrderMark : Char := '\ufeff'

def isAllowed (c : Char) : Bool :=
  c == '\t' || c == '\n' || c == '\r' || (' ' ≤ c && c ≤ '~') || c == '\u0085' ||
    (0xa0 ≤ c.toNat && c.toNat ≤ 0xd7ff) || (0xe000 ≤ c.toNat && c.toNat ≤ 0xfffd) ||
    0x10000 ≤ c.toNat

structure Cursor where
  rest : List Char
  index : Nat
  line : Nat
  column : Nat

namespace Cursor

def start (text : List Char) : Cursor := ⟨text, 0, 0, 0⟩

def peek (cursor : Cursor) : Char := cursor.rest.headD '\x00'

def peekAt (cursor : Cursor) (ahead : Nat) : Char := (cursor.rest[ahead]?).getD '\x00'

def next (cursor : Cursor) : Cursor :=
  match cursor.rest with
  | [] => cursor
  | c :: rest =>
      if c == '\n' || c == '\u0085' || c == '\u2028' || c == '\u2029' ||
          (c == '\r' && rest.head? != some '\n') then
        ⟨rest, cursor.index + 1, cursor.line + 1, 0⟩
      else
        ⟨rest, cursor.index + 1, cursor.line,
          if c == byteOrderMark then cursor.column else cursor.column + 1⟩

def skip : Nat → Cursor → Cursor
  | 0, cursor => cursor
  | count + 1, cursor => skip count cursor.next

/-- The longest run of characters of a class, and the place behind it. -/
def run (accepts : Char → Bool) (cursor : Cursor) : List Char × Cursor :=
  let word := cursor.rest.takeWhile accepts
  (word, cursor.skip word.length)

def skipWhile (accepts : Char → Bool) (cursor : Cursor) : Cursor := (cursor.run accepts).2

def skipSpaces (cursor : Cursor) : Cursor := cursor.skipWhile (· == ' ')

/-- Step over one line break. It reads as a line feed, except that the line and paragraph separators
stay as they are; without a break, nothing is read. -/
def lineBreak (cursor : Cursor) : List Char × Cursor :=
  match cursor.rest with
  | '\r' :: '\n' :: _ => (['\n'], cursor.skip 2)
  | c :: _ =>
      if c == '\n' || c == '\r' || c == '\u0085' then (['\n'], cursor.next)
      else if c == '\u2028' || c == '\u2029' then ([c], cursor.next)
      else ([], cursor)
  | [] => ([], cursor)

/-- Whether three equal marks and a gap come next: the start or the end of a document. -/
def atMark (mark : Char) (cursor : Cursor) : Bool :=
  cursor.rest.take 3 == [mark, mark, mark] && isGapOrEnd (cursor.peekAt 3)

def atDocumentMark (cursor : Cursor) : Bool := cursor.atMark '-' || cursor.atMark '.'

def skipComment (cursor : Cursor) : Cursor :=
  if cursor.peek == '#' then cursor.skipWhile (fun c => !isBreakOrEnd c) else cursor

end Cursor

end FixtureImages.Yaml
