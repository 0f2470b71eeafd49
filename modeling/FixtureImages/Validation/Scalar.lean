import FixtureImages.Decimal.Numeral
import FixtureImages.Text.Utf8
import FixtureImages.Validation.Complaint

/-!
# Checked scalars

Texts, truth values, integers and numbers out of untyped data. Bytes count as the text that they
spell, and texts as the number or truth value that they write.
-/

namespace FixtureImages.Checked

set_option autoImplicit false

open Text

/-- The least and the greatest integer of 64 bits. -/
def leastWord : Int := -9223372036854775808

def greatestWord : Int := 9223372036854775807

def text : Value → Checked String
  | .text value => .ok value
  | .bytes bytes =>
      match ofUtf8 bytes with
      | .ok value => .ok value
      | .error _ => complain .notUnicode
  | _ => complain .notText

/-! ## Truth values -/

def trueWords : List String := ["1", "t", "y", "on", "yes", "true"]

def falseWords : List String := ["0", "f", "n", "no", "off", "false"]

def truthOfText (word : String) : Checked Bool :=
  let lowered := String.ofList (word.toList.map Char.toLower)
  if trueWords.contains lowered then .ok true
  else if falseWords.contains lowered then .ok false
  else complain .notTruthText

def truthOfInt (number : Int) : Checked Bool :=
  if number = 0 then .ok false else if number = 1 then .ok true else complain .notTruthText

/-- A truth value. Numbers other than 0 and 1 are refused, and those that are no whole number of 64
bits are not even looked at. -/
def truth : Value → Checked Bool
  | .bool value => .ok value
  | .text word => truthOfText word
  | .bytes bytes =>
      match ofUtf8 bytes with
      | .ok word => truthOfText word
      | .error _ => complain .notTruthText
  | .int number =>
      if leastWord ≤ number ∧ number ≤ greatestWord then truthOfInt number else complain .notTruth
  | .real number =>
      match number.toInt? with
      | some whole =>
          if leastWord < whole ∧ whole ≤ greatestWord then truthOfInt whole else complain .notTruth
      | none => complain .notTruth
  | _ => complain .notTruth

/-! ## Integers -/

/-- Digits with an optional minus and without needless zeros. More than the limit in front are too
many, whatever follows them; a minus counts. -/
def strictInteger (text : List Char) : Option (Checked Int) :=
  let (negative, digits) :=
    match text with
    | '-' :: rest => (true, rest)
    | _ => (false, text)
  let (number, count, rest) := cutDigits 0 0 digits
  if digits.head? = some '0' ∧ 1 < digits.length then none
  else if digitLimit < count + (text.length - digits.length) then some (complain .tooLarge)
  else if count = 0 ∨ rest ≠ [] then none
  else some (.ok (if negative then -(number : Int) else (number : Int)))

/-- Drop the zeros in front of digits, and the underscores between them. One zero stays before a
point and at the end. `last` is the character dropped last. -/
def dropZeros (last : Char) : List Char → Option (List Char)
  | [] => some [last]
  | c :: rest =>
      if c = '0' ∨ c = '_' then dropZeros c rest
      else if c.isDigit then some (c :: rest)
      else if c = '.' then some (last :: c :: rest)
      else none

def cutLeadingZeros (text : List Char) : Option (List Char) :=
  match text with
  | [] => none
  | c :: rest =>
      if c = '0' then dropZeros '0' rest
      else if c.isDigit || c = '-' then some text
      else none

/-- Drop a point at the end, with zeros behind it. -/
def cutZeroFraction (text : List Char) : List Char :=
  let whole := text.takeWhile (· != '.')
  if (text.drop (whole.length + 1)).all (· == '0') then whole else text

/-- Remove underscores, unless one stands at an end or beside another. -/
def cutUnderscores (text : List Char) : Option (List Char) :=
  let doubled := (text.zip text.tail).any fun pair => pair.1 == '_' && pair.2 == '_'
  if text.head? = some '_' ∨ text.getLast? = some '_' ∨ doubled then none
  else some (text.filter (· != '_'))

/-- The plain digits of a written integer: without white space, a plus, leading zeros, a fraction of
zeros, and underscores. -/
def cleanInteger (text : List Char) : Option (List Char) := do
  let trimmed := trimBy isWhiteSpace text
  let unsigned ←
    match trimmed with
    | '+' :: '-' :: _ => none
    | '+' :: rest => some rest
    | _ => some trimmed
  let digits := cutZeroFraction (← cutLeadingZeros unsigned)
  some ((cutUnderscores digits).getD digits)

def integerOfText (text : String) : Checked Int :=
  let chars := text.toList
  ((strictInteger chars).or ((cleanInteger chars).bind strictInteger)).getD
    (complain .notIntegerNumeral)

def integer : Value → Checked Int
  | .int number => .ok number
  | .bool value => .ok (if value then 1 else 0)
  | .text value => integerOfText value
  | .bytes bytes =>
      match ofUtf8 bytes with
      | .ok value => integerOfText value
      | .error _ => complain .notIntegerNumeral
  | .real number =>
      if !number.isFinite then complain .notFinite
      else
        match number.toInt? with
        | none => complain .fractional
        | some whole =>
            if leastWord < whole ∧ whole ≤ greatestWord then .ok whole else complain .tooLarge
  | _ => complain .notInteger

/-! ## Numbers -/

def realOfText (text : String) : Checked Binary64 :=
  let chars := text.toList
  match readAsciiDecimal (trimBy isWhiteSpace chars) with
  | some number => .ok number
  | none =>
      match (cutUnderscores chars).bind readAsciiDecimal with
      | some number => .ok number
      | none => complain .notNumeral

/-- A number. Integers beyond the range of the format are refused. -/
def real : Value → Checked Binary64
  | .real number => .ok number
  | .bool value => .ok (.ofInt (if value then 1 else 0))
  | .int number =>
      match Binary64.ofInt number with
      | .infinite _ => complain .notNumber
      | rounded => .ok rounded
  | .text value => realOfText value
  | .bytes bytes =>
      match ofUtf8 bytes with
      | .ok value => realOfText value
      | .error _ => complain .notNumeral
  | _ => complain .notNumber

end FixtureImages.Checked
