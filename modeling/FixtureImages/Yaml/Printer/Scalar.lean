import FixtureImages.Text.Quoted
import FixtureImages.Yaml.Printer.Pen
import FixtureImages.Yaml.Tag

/-!
# Written scalars

A text is written plain where a reader would take it for the same text, else between single quotes,
and between double quotes where it has characters that need escaping or spaces beside line breaks.
Long texts are folded at spaces.
-/

namespace FixtureImages.Yaml

set_option autoImplicit false

/-! ## The choice of a style -/

/-- Line breaks that a written text can hold. -/
def isTextBreak (c : Char) : Bool :=
  c == '\n' || c == '\u0085' || c == '\u2028' || c == '\u2029'

/-- Characters outside ASCII that may be written as they are. -/
def isWritableWide (c : Char) : Bool :=
  (c == '\u0085' || (0xa0 ≤ c.toNat && c.toNat ≤ 0xd7ff) ||
    (0xe000 ≤ c.toNat && c.toNat ≤ 0xfffd) ||
    (0x10000 ≤ c.toNat && c.toNat < 0x10ffff)) && c != byteOrderMark

def isAsciiText (c : Char) : Bool := ' ' ≤ c && c ≤ '~'

/-- Characters that only double quotes can hold. -/
def isSpecial (wide : Bool) (c : Char) : Bool :=
  !(c == '\n' || isAsciiText c || (wide && isWritableWide c))

/-- Whether a text cannot be plain because of a mark that a reader would see in it. `spaced` is
whether white space, or nothing, precedes the rest. -/
def hasMarkInside (spaced : Bool) : List Char → Bool
  | [] => false
  | c :: rest =>
      let followed := rest.head?.all isGapOrEnd
      (c == ':' && followed) || (c == '#' && spaced) || hasMarkInside (isGapOrEnd c) rest

/-- Whether the text begins like something other than a text. -/
def hasMarkInFront (text : List Char) : Bool :=
  text.take 3 == ['-', '-', '-'] || text.take 3 == ['.', '.', '.'] ||
    match text with
    | [] => false
    | c :: rest =>
        "#,[]\x7b\x7d&*!|>'\"%@\x60".toList.contains c ||
          ((c == '?' || c == ':' || c == '-') && rest.head?.all isGapOrEnd)

/-- Whether a character of one class comes right before one of another. -/
def hasPair (first second : Char → Bool) : List Char → Bool
  | a :: b :: rest => (first a && second b) || hasPair first second (b :: rest)
  | _ => false

def isSpace (c : Char) : Bool := c == ' '

def isSpaceOrBreak (c : Char) : Bool := isSpace c || isTextBreak c

/-- Whether the text could stand plain outside of brackets. -/
def allowsPlain (wide : Bool) (text : List Char) : Bool :=
  !(text.head?.any isSpaceOrBreak || text.getLast?.any isSpaceOrBreak || text.any isTextBreak ||
    text.any (isSpecial wide) || hasMarkInFront text || hasMarkInside true text)

/-- Whether single quotes keep the text: no spaces beside its line breaks, and nothing to escape. -/
def allowsSingleQuotes (wide : Bool) (text : List Char) : Bool :=
  !(hasPair isTextBreak isSpace text || hasPair isSpace isTextBreak text ||
    text.any (isSpecial wide))

inductive ScalarStyle
  | plain
  | singleQuotes
  | doubleQuotes
deriving DecidableEq

/-- The style of a text. A key on one line cannot hold line breaks or be empty unless it is quoted.
-/
def styleOf (wide key : Bool) (text : String) : ScalarStyle :=
  let chars := text.toList
  if Tag.ofPlain text = .text ∧ allowsPlain wide chars ∧ !(key && chars.isEmpty) then .plain
  else if allowsSingleQuotes wide chars ∧ !(key && chars.any isTextBreak) then .singleQuotes
  else .doubleQuotes

/-! ## Writing -/

inductive RunKind
  | spaces
  | breaks
  | word
deriving DecidableEq

def runKind (c : Char) : RunKind :=
  if isSpace c then .spaces else if isTextBreak c then .breaks else .word

/-- The maximal runs of spaces, of line breaks and of other characters. -/
def runsOf (text : List Char) : List (List Char) :=
  text.splitBy fun a b => runKind a == runKind b

/-- Whether the line is folded here instead of writing the spaces. -/
def foldsAt (spaces : List Char) (pen : Pen) : Bool := spaces.length == 1 && lineWidth < pen.column

def plainRuns (indent : Nat) (split : Bool) : List (List Char) → Pen → Pen
  | [], pen => pen
  | run :: rest, pen =>
      plainRuns indent split rest <|
        if run.head?.any isSpace && foldsAt run pen && split then pen.continueAt indent
        else pen.put run

def writePlain (indent : Nat) (split : Bool) (text : List Char) (pen : Pen) : Pen :=
  let pen := if pen.gap then pen else pen.put [' ']
  plainRuns indent split (runsOf text) { pen with gap := false, fresh := false }

/-- Line breaks between single quotes: a line feed is written twice, for a single one would be read
as a space. -/
def writtenBreaks (indent : Nat) (breaks : List Char) (pen : Pen) : Pen :=
  let pen := if breaks.head? = some '\n' then pen.breakLine '\n' else pen
  (breaks.foldl (fun pen c => pen.breakLine c) pen).toColumn indent

def doubledQuotes (word : List Char) : List Char :=
  word.flatMap fun c => if c = '\'' then ['\'', '\''] else [c]

/-- The runs between single quotes. Spaces at either end are not folded. -/
def quotedRuns (indent : Nat) (split : Bool) : (first : Bool) → List (List Char) → Pen → Pen
  | _, [], pen => pen
  | first, run :: rest, pen =>
      quotedRuns indent split false rest <|
        match (run.head?.map runKind).getD .word with
        | .spaces =>
            if foldsAt run pen && split && !first && !rest.isEmpty then pen.toColumn indent
            else pen.put run
        | .breaks => writtenBreaks indent run pen
        | .word => pen.put (doubledQuotes run)

def writeSingleQuoted (indent : Nat) (split : Bool) (text : List Char) (pen : Pen) : Pen :=
  (quotedRuns indent split true (runsOf text) (pen.mark ['\''])).closeMark ['\'']

def capitalHexDigits (width n : Nat) : List Char := (Text.hexDigits width n).map Char.toUpper

/-- How a character is escaped between double quotes. -/
def escaped (c : Char) : List Char :=
  match c with
  | '\x00' => ['\\', '0']
  | '\x07' => ['\\', 'a']
  | '\x08' => ['\\', 'b']
  | '\t' => ['\\', 't']
  | '\n' => ['\\', 'n']
  | '\x0b' => ['\\', 'v']
  | '\x0c' => ['\\', 'f']
  | '\r' => ['\\', 'r']
  | '\x1b' => ['\\', 'e']
  | '"' => ['\\', '"']
  | '\\' => ['\\', '\\']
  | '\u0085' => ['\\', 'N']
  | '\u00a0' => ['\\', '_']
  | '\u2028' => ['\\', 'L']
  | '\u2029' => ['\\', 'P']
  | _ =>
      if c.toNat ≤ 0xff then '\\' :: 'x' :: capitalHexDigits 2 c.toNat
      else if c.toNat ≤ 0xffff then '\\' :: 'u' :: capitalHexDigits 4 c.toNat
      else '\\' :: 'U' :: capitalHexDigits 8 c.toNat

/-- Whether a character stands between double quotes as it is. -/
def standsUnescaped (wide : Bool) (c : Char) : Bool :=
  if c == '"' || c == '\\' || c == '\u2028' || c == '\u2029' || c == byteOrderMark then false
  else
    isAsciiText c ||
      (wide && ((0xa0 ≤ c.toNat && c.toNat ≤ 0xd7ff) || (0xe000 ≤ c.toNat && c.toNat ≤ 0xfffd)))

/-- End the line with a backslash. A space that is to begin the next line is kept by another one. -/
def foldEscaped (indent : Nat) (beforeSpace : Bool) (pen : Pen) : Pen :=
  let pen := (pen.put ['\\']).continueAt indent
  if beforeSpace then pen.put ['\\'] else pen

/-- The characters between double quotes. A line is folded before a space, and on either side of an
escaped character, but not beside the first or the last character. -/
def escapedChars (wide : Bool) (indent : Nat) (split : Bool) :
    (first afterEscape : Bool) → List Char → Pen → Pen
  | _, _, [], pen => pen
  | first, afterEscape, c :: rest, pen =>
      let inside := split && !first && !rest.isEmpty
      if standsUnescaped wide c then
        let pen :=
          if inside && (isSpace c || afterEscape) && lineWidth < pen.column then
            foldEscaped indent (isSpace c) pen
          else pen
        escapedChars wide indent split false false rest (pen.put [c])
      else
        let pen := pen.put (escaped c)
        let pen :=
          if inside && lineWidth + 1 < pen.column then
            foldEscaped indent (rest.head?.any isSpace) pen
          else pen
        escapedChars wide indent split false true rest pen

def writeDoubleQuoted (wide : Bool) (indent : Nat) (split : Bool) (text : List Char) (pen : Pen) :
    Pen :=
  (escapedChars wide indent split true false text (pen.mark ['"'])).closeMark ['"']

/-- Write a text, folded onto lines at the given column unless it is a key on one line. -/
def writeText (wide : Bool) (indent : Nat) (key : Bool) (text : String) (pen : Pen) : Pen :=
  match styleOf wide key text with
  | .plain => writePlain indent (!key) text.toList pen
  | .singleQuotes => writeSingleQuoted indent (!key) text.toList pen
  | .doubleQuotes => writeDoubleQuoted wide indent (!key) text.toList pen

end FixtureImages.Yaml
