import FixtureImages.Yaml.Cursor

/-!
# The pen

The text written so far, and what the layout of a document depends on: the column, whether the last
thing written was white space, and whether nothing but indentation and marks stands on the line.
-/

namespace FixtureImages.Yaml

set_option autoImplicit false

/-- Lines are folded at the first space behind this column. -/
def lineWidth : Nat := 80

/-- The characters are kept in reverse order. -/
structure Pen where
  written : List Char
  column : Nat
  gap : Bool
  fresh : Bool

namespace Pen

def start : Pen := ⟨[], 0, true, true⟩

def text (pen : Pen) : String := String.ofList pen.written.reverse

/-- Write characters that end no line. -/
def put (chars : List Char) (pen : Pen) : Pen :=
  { pen with written := chars.reverse ++ pen.written, column := pen.column + chars.length }

/-- Write a mark that needs white space before it. -/
def mark (chars : List Char) (pen : Pen) : Pen :=
  let pen := pen.put (if pen.gap then chars else ' ' :: chars)
  { pen with gap := false, fresh := false }

/-- Write the mark of an entry, behind which the line still counts as fresh. -/
def entryMark (c : Char) (pen : Pen) : Pen :=
  let pen := pen.put (if pen.gap then [c] else [' ', c])
  { pen with gap := false }

/-- Write a mark close to what precedes it. -/
def closeMark (chars : List Char) (pen : Pen) : Pen :=
  { pen.put chars with gap := false, fresh := false }

def breakLine (c : Char) (pen : Pen) : Pen :=
  { written := c :: pen.written, column := 0, gap := true, fresh := true }

/-- Go to a column on a fresh line: the present one, if it is fresh and not written on too far. -/
def toColumn (column : Nat) (pen : Pen) : Pen :=
  let pen :=
    if !pen.fresh || column < pen.column || (pen.column == column && !pen.gap) then
      pen.breakLine '\n'
    else pen
  if pen.column < column then
    { pen.put (List.replicate (column - pen.column) ' ') with gap := true }
  else pen

def continueAt (column : Nat) (pen : Pen) : Pen :=
  { pen.toColumn column with gap := false, fresh := false }

end Pen

end FixtureImages.Yaml
