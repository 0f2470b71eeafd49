import FixtureImages.Decimal.Notation
import FixtureImages.Plain
import FixtureImages.Yaml.Printer.Scalar

/-!
# Written documents

Plain data as a document: one entry a line, each level two columns further in, the sequences under a
key at the column of the key.
-/

namespace FixtureImages.Yaml

set_option autoImplicit false

/-- The written form of a finite number. A point is put before a lone exponent, which a reader would
otherwise take for a text. -/
def realText (number : Binary64) : String :=
  let text := number.text.toList
  if text.contains 'e' && !text.contains '.' then
    String.ofList (text.takeWhile (· != 'e') ++ ['.', '0'] ++ text.dropWhile (· != 'e'))
  else String.ofList text

/-- Whether a key stands on one line with its colon: it is short, not empty and without line breaks.
-/
def isShortKey (key : String) : Bool :=
  let chars := key.toList
  chars.length + 5 < 128 && !chars.isEmpty && !chars.any isTextBreak

mutual

/-- Write data inside a collection at column `indent`, which is a mapping or not. Texts outside
ASCII are written as they are when `wide` is set. -/
def writeNode (wide : Bool) (indent : Nat) (inMapping : Bool) : Plain → Pen → Pen
  | .null, pen => writePlain (indent + 2) true "null".toList pen
  | .bool value, pen => writePlain (indent + 2) true (if value then "true" else "false").toList pen
  | .int value, pen => writePlain (indent + 2) true (toString value).toList pen
  | .real value, pen => writePlain (indent + 2) true (realText value).toList pen
  | .text value, pen => writeText wide (indent + 2) false value pen
  | .list [], pen => (pen.mark ['[']).closeMark [']']
  | .list items, pen =>
      writeItems wide (if inMapping && !pen.fresh then indent else indent + 2) items pen
  | .map [], pen => (pen.mark ['\x7b']).closeMark ['\x7d']
  | .map entries, pen => writeEntries wide (indent + 2) entries pen

def writeItems (wide : Bool) (indent : Nat) : List Plain → Pen → Pen
  | [], pen => pen
  | item :: rest, pen =>
      writeItems wide indent rest
        (writeNode wide indent false item ((pen.toColumn indent).entryMark '-'))

/-- Write the entries of a mapping at a column. A key that is not short stands on lines of its own.
-/
def writeEntries (wide : Bool) (indent : Nat) : List (String × Plain) → Pen → Pen
  | [], pen => pen
  | (key, item) :: rest, pen =>
      let pen := pen.toColumn indent
      let pen :=
        if isShortKey key then (writeText wide (indent + 2) true key pen).closeMark [':']
        else
          let pen := writeText wide (indent + 2) false key (pen.entryMark '?')
          (pen.toColumn indent).entryMark ':'
      writeEntries wide indent rest (writeNode wide indent true item pen)

end

def write (wide : Bool) (entries : List (String × Plain)) : String :=
  match entries with
  | [] => "\x7b\x7d\n"
  | _ => ((writeEntries wide 0 entries .start).toColumn 0).text

end FixtureImages.Yaml
