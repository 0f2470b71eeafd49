import FixtureImages.Yaml.Fault
import FixtureImages.Yaml.Cursor

/-!
# Tags

The kinds of node that documents know, and which kind a plain text is of when it has no tag: a truth
value, a null, an integer, a decimal, a time, the merge mark, the default mark, or else a text.
-/

namespace FixtureImages.Yaml

set_option autoImplicit false

inductive Tag
  | null
  | truth
  | integer
  | decimal
  | binary
  | timestamp
  | orderedPairs
  | pairs
  | set
  | text
  | sequence
  | mapping
  | merge
  | default
  | other
deriving DecidableEq, Repr

def Tag.ofName (name : String) : Tag :=
  let core := "tag:yaml.org,2002:"
  if name = core ++ "null" then .null
  else if name = core ++ "bool" then .truth
  else if name = core ++ "int" then .integer
  else if name = core ++ "float" then .decimal
  else if name = core ++ "binary" then .binary
  else if name = core ++ "timestamp" then .timestamp
  else if name = core ++ "omap" then .orderedPairs
  else if name = core ++ "pairs" then .pairs
  else if name = core ++ "set" then .set
  else if name = core ++ "str" then .text
  else if name = core ++ "seq" then .sequence
  else if name = core ++ "map" then .mapping
  else if name = core ++ "merge" then .merge
  else if name = core ++ "value" then .default
  else .other

/-! ## Plain texts -/

def isNullText (text : List Char) : Bool :=
  ["", "~", "null", "Null", "NULL"].any fun word => word.toList == text

def truthWords : List String :=
  ["yes", "Yes", "YES", "no", "No", "NO", "true", "True", "TRUE", "false", "False", "FALSE", "on",
    "On", "ON", "off", "Off", "OFF"]

def isTruthText (text : List Char) : Bool := truthWords.any fun word => word.toList == text

/-- Whether the text is a first character of a class and then characters of another. -/
def startsThen (first later : Char → Bool) : List Char → Bool
  | [] => false
  | c :: rest => first c && rest.all later

def dropSign : List Char → List Char
  | c :: rest => if c == '+' || c == '-' then rest else c :: rest
  | [] => []

def isDigitOrUnderscore (c : Char) : Bool := c.isDigit || c == '_'

def isPositiveDigit (c : Char) : Bool := c.isDigit && c != '0'

/-- A digit group below sixty. -/
def isSixtieth : List Char → Bool
  | [a] => a.isDigit
  | [a, b] => '0' ≤ a && a ≤ '5' && b.isDigit
  | _ => false

/-- A first digit group and at least one group below sixty, with colons between. -/
def isSexagesimal (first : Char → Bool) (text : List Char) : Bool :=
  match text.splitOn ':' with
  | lead :: group :: groups =>
      startsThen first isDigitOrUnderscore lead && (group :: groups).all isSixtieth
  | _ => false

def isIntegerText (text : List Char) : Bool :=
  let digits := dropSign text
  let marked (mark : Char) (accepts : Char → Bool) : Bool :=
    match digits with
    | '0' :: c :: d :: rest => c == mark && (d :: rest).all accepts
    | _ => false
  digits == ['0'] ||
    startsThen isPositiveDigit isDigitOrUnderscore digits ||
    (match digits with
      | '0' :: d :: rest => (d :: rest).all fun c => ('0' ≤ c && c ≤ '7') || c == '_'
      | _ => false) ||
    marked 'b' (fun c => c == '0' || c == '1' || c == '_') ||
    marked 'x' (fun c => isHexDigit c || c == '_') ||
    isSexagesimal isPositiveDigit digits

/-- Nothing, or an exponent with a sign. -/
def isSignedExponent : List Char → Bool
  | [] => true
  | e :: sign :: d :: rest =>
      (e == 'e' || e == 'E') && (sign == '+' || sign == '-') && (d :: rest).all Char.isDigit
  | _ => false

/-- Digits and underscores, and then nothing or an exponent. -/
def isFraction (text : List Char) : Bool := isSignedExponent (text.dropWhile isDigitOrUnderscore)

def isDecimalText (text : List Char) : Bool :=
  let unsigned := dropSign text
  let whole := unsigned.takeWhile (· != '.')
  let fraction := unsigned.drop (whole.length + 1)
  let pointed := whole.length < unsigned.length
  pointed &&
    ((startsThen Char.isDigit isDigitOrUnderscore whole && isFraction fraction) ||
      (isSexagesimal Char.isDigit whole && fraction.all isDigitOrUnderscore) ||
      (whole.isEmpty &&
        ((["inf", "Inf", "INF"].any fun word => word.toList == fraction) ||
          (unsigned.length == text.length &&
            ((["nan", "NaN", "NAN"].any fun word => word.toList == fraction) ||
              (startsThen Char.isDigit (fun _ => true) fraction && isFraction fraction))))))

/-! ## Times -/

/-- The parts of a written time of day. -/
structure TimeText where
  hour : Nat
  minute : Nat
  second : Nat
  fraction : List Char
  offset : Option Int

/-- A written date, with the width of its month and day, and perhaps a time of day. -/
structure TimestampText where
  year : Nat
  month : Nat
  day : Nat
  padded : Bool
  time : Option TimeText

def numberOf (digits : List Char) : Nat :=
  digits.foldl (fun value c => value * 10 + (c.toNat - 48)) 0

/-- Cut between `least` and `most` leading digits. -/
def takeDigits (least most : Nat) (text : List Char) : Option (List Char × List Char) :=
  let digits := (text.take most).takeWhile Char.isDigit
  if digits.length < least then none else some (digits, text.drop digits.length)

def takeChar (c : Char) : List Char → Option (List Char)
  | d :: rest => if d == c then some rest else none
  | [] => none

def isGap (c : Char) : Bool := c == ' ' || c == '\t'

/-- A zone: `Z`, or a sign with hours and perhaps minutes; nothing at all is no zone. -/
def readZone (text : List Char) : Option (Option Int) :=
  match text.dropWhile isGap with
  | [] => if text.isEmpty then some none else none
  | 'Z' :: rest => if rest.isEmpty then some (some 0) else none
  | sign :: rest => do
      guard (sign == '+' || sign == '-')
      let (hours, rest) ← takeDigits 1 2 rest
      let minutes ←
        match rest with
        | [] => some []
        | _ => do
            let (minutes, rest) ← takeDigits 2 2 (← takeChar ':' rest)
            guard rest.isEmpty
            some minutes
      let seconds : Int := (numberOf hours * 3600 + numberOf minutes * 60 : Nat)
      some (some (if sign == '-' then -seconds else seconds))

def readTime (text : List Char) : Option TimeText := do
  let (hour, rest) ← takeDigits 1 2 text
  let (minute, rest) ← takeDigits 2 2 (← takeChar ':' rest)
  let (second, rest) ← takeDigits 2 2 (← takeChar ':' rest)
  let (fraction, rest) :=
    match rest with
    | '.' :: rest => (rest.takeWhile Char.isDigit, rest.dropWhile Char.isDigit)
    | _ => ([], rest)
  let offset ← readZone rest
  some ⟨numberOf hour, numberOf minute, numberOf second, fraction, offset⟩

/-- Read a date, or a date and a time with a `T` or white space between them. -/
def readTimestamp (text : List Char) : Option TimestampText := do
  let (year, rest) ← takeDigits 4 4 text
  let (month, rest) ← takeDigits 1 2 (← takeChar '-' rest)
  let (day, rest) ← takeDigits 1 2 (← takeChar '-' rest)
  let padded := month.length == 2 && day.length == 2
  match rest with
  | [] => some ⟨numberOf year, numberOf month, numberOf day, padded, none⟩
  | c :: after => do
      guard (c == 'T' || c == 't' || isGap c)
      let time ← readTime (if isGap c then rest.dropWhile isGap else after)
      some ⟨numberOf year, numberOf month, numberOf day, padded, some time⟩

/-- A date alone has to have two digits for the month and the day. -/
def isTimestampText (text : List Char) : Bool :=
  match readTimestamp text with
  | some stamp => stamp.padded || stamp.time.isSome
  | none => false

/-- Drop one line feed behind some text. -/
def dropFinalBreak (text : List Char) : List Char :=
  if text.length ≠ 1 ∧ text.getLast? = some '\n' then text.dropLast else text

/-- The tag of a text that is to be judged by what it says. -/
def Tag.ofPlain (text : String) : Tag :=
  let chars := dropFinalBreak text.toList
  if isNullText chars then .null
  else if isTruthText chars then .truth
  else if chars == ['<', '<'] then .merge
  else if chars == ['='] then .default
  else if chars == ['!'] || chars == ['&'] || chars == ['*'] then .other
  else if isIntegerText chars then .integer
  else if isDecimalText chars then .decimal
  else if isTimestampText chars then .timestamp
  else .text

end FixtureImages.Yaml
