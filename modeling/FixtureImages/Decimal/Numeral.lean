import FixtureImages.Text.Blank
import FixtureImages.Text.Digit
import FixtureImages.Decimal.Binary64

/-!
# Numerals

Reading numbers from texts. A numeral may have white space around it and a sign in front; its digits
may be those of any script, and single underscores may stand between digits. Integers can be read in
another base, whose mark (`0b`, `0o`, `0x`) may precede the digits.
-/

namespace FixtureImages

set_option autoImplicit false

open Text

/-- Why a text is no integer: it is malformed, or it has more digits than are converted. -/
inductive IntegerFault
  | malformed
  | tooLong (digits : Nat)
deriving DecidableEq, Repr

/-- The greatest number of digits that is converted in a base that is not a power of two. -/
def digitLimit : Nat := 4300

/-- A digit of any script, or a Latin letter for ten and more. -/
def baseDigit? (base : Nat) (c : Char) : Option Nat :=
  let value :=
    match digitValue? c with
    | some value => some value
    | none =>
        if 'a' ≤ c ∧ c ≤ 'z' then some (c.toNat - 87)
        else if 'A' ≤ c ∧ c ≤ 'Z' then some (c.toNat - 55)
        else none
  value.filter (· < base)

/-- Cut leading digits with single underscores between them: the number, how many digits it has, and
what follows. `fresh` is whether a digit has to come next. -/
def readDigits (base : Nat) :
    (fresh : Bool) → (number count : Nat) → List Char → Option (Nat × Nat × List Char)
  | fresh, number, count, [] => if fresh then none else some (number, count, [])
  | fresh, number, count, c :: rest =>
      if c = '_' then
        if fresh then none else readDigits base true number count rest
      else
        match baseDigit? base c with
        | some digit => readDigits base false (number * base + digit) (count + 1) rest
        | none => if fresh then none else some (number, count, c :: rest)

/-- Cut off a sign: whether it was a minus, and what follows. -/
def cutSign : List Char → Bool × List Char
  | '-' :: rest => (true, rest)
  | '+' :: rest => (false, rest)
  | rest => (false, rest)

/-- Cut off the mark of a base, with one underscore behind it. -/
def cutBaseMark (base : Nat) (digits : List Char) : List Char :=
  let cut (mark : Char) : List Char :=
    match digits with
    | '0' :: c :: rest =>
        if c.toLower = mark then
          match rest with
          | '_' :: after => after
          | _ => rest
        else digits
    | _ => digits
  if base = 2 then cut 'b' else if base = 8 then cut 'o' else if base = 16 then cut 'x' else digits

/-- Read an integer in a base. Digits beyond the limit are a fault before anything behind them. -/
def readInteger (base : Nat) (text : String) : Except IntegerFault Int :=
  let (negative, unsigned) := cutSign (trimBy isWhiteSpace text.toList)
  match readDigits base true 0 0 (cutBaseMark base unsigned) with
  | none => .error .malformed
  | some (number, count, rest) =>
      if base = 10 ∧ digitLimit < count then .error (.tooLong count)
      else if !rest.isEmpty then .error .malformed
      else .ok (if negative then -(number : Int) else (number : Int))

/-- Remove the underscores that stand between two ASCII digits; any other is refused. -/
def dropUnderscores (afterDigit : Bool) : List Char → Option (List Char)
  | [] => some []
  | c :: rest =>
      if c = '_' then
        match rest with
        | next :: _ => if afterDigit && next.isDigit then dropUnderscores false rest else none
        | [] => none
      else (dropUnderscores c.isDigit rest).map (c :: ·)

/-- Cut the leading ASCII digits: their number, how many they are, and what follows. -/
def cutDigits (number count : Nat) : List Char → Nat × Nat × List Char
  | [] => (number, count, [])
  | c :: rest =>
      if c.isDigit then cutDigits (number * 10 + (c.toNat - 48)) (count + 1) rest
      else (number, count, c :: rest)

/-- The part of a decimal numeral behind the digits: nothing, or an exponent. -/
def readExponent : List Char → Option Int
  | [] => some 0
  | c :: rest =>
      if c = 'e' ∨ c = 'E' then
        let (negative, unsigned) := cutSign rest
        match cutDigits 0 0 unsigned with
        | (number, count, []) =>
            if count = 0 then none
            else some (if negative then -(number : Int) else (number : Int))
        | _ => none
      else none

def readNamedNumber (negative : Bool) (text : List Char) : Option Binary64 :=
  let name := text.map Char.toLower
  if name = "inf".toList ∨ name = "infinity".toList then some (.infinite negative)
  else if name = "nan".toList then some .nan
  else none

/-- Read an unsigned decimal numeral in ASCII: digits, a point and digits, an exponent. -/
def readUnsignedDecimal (negative : Bool) (text : List Char) : Option Binary64 :=
  let (whole, wholeCount, afterWhole) := cutDigits 0 0 text
  let (number, places, afterFraction) :=
    match afterWhole with
    | '.' :: rest =>
        let (number, places, after) := cutDigits whole 0 rest
        (number, places, after)
    | _ => (whole, 0, afterWhole)
  if wholeCount = 0 ∧ places = 0 then readNamedNumber negative text
  else (readExponent afterFraction).map fun exponent =>
    .ofDecimal negative number (exponent - (places : Int))

def readAsciiDecimal (text : List Char) : Option Binary64 :=
  let (negative, unsigned) := cutSign text
  readUnsignedDecimal negative unsigned

/-- Digits of other scripts as the ASCII digits of the same value. -/
def asciiForm (c : Char) : Char :=
  if c.toNat < 0x80 then c
  else match digitValue? c with
    | some value => Char.ofNat (48 + value)
    | none => c

def readDecimal (text : String) : Option Binary64 := do
  let ascii := (trimBy isWhiteSpace text.toList).map asciiForm
  let plain ← dropUnderscores false ascii
  readAsciiDecimal plain

end FixtureImages
