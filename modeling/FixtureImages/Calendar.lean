/-!
# Dates and moments

Days of the proleptic Gregorian calendar in the years 1 to 9999, and moments of such a day with an
optional distance from universal time. Only valid ones can be built; the faults name the first part
that is out of its range.
-/

namespace FixtureImages

set_option autoImplicit false

namespace Calendar

def isLeap (year : Nat) : Bool := year % 4 == 0 && (year % 100 != 0 || year % 400 == 0)

def daysInMonth (year month : Nat) : Nat :=
  if month = 2 then (if isLeap year then 29 else 28)
  else if month = 4 ∨ month = 6 ∨ month = 9 ∨ month = 11 then 30
  else 31

def isValidDate (year month day : Nat) : Bool :=
  1 ≤ year && year ≤ 9999 && 1 ≤ month && month ≤ 12 && 1 ≤ day && day ≤ daysInMonth year month

def isValidTime (hour minute second microsecond : Nat) : Bool :=
  hour < 24 && minute < 60 && second < 60 && microsecond < 1000000

/-- A time zone is less than a day away from universal time. -/
def isValidOffset (offset : Option Int) : Bool := offset.all fun seconds => seconds.natAbs < 86400

/-- A span of seconds as whole days, which may be negative, and the seconds that remain. -/
def spanText (seconds : Int) : String :=
  let days := seconds.fdiv 86400
  let rest := seconds.fmod 86400
  let parts :=
    (if days = 0 then [] else ["days=" ++ toString days]) ++
      (if rest = 0 then [] else ["seconds=" ++ toString rest])
  "datetime.timedelta(" ++ (if parts.isEmpty then "0" else ", ".intercalate parts) ++ ")"

/-- The first part of a date or moment that is out of range. -/
inductive Fault
  | year (number : Nat)
  | month
  | day
  | hour
  | minute
  | second
  | offset (seconds : Int)
deriving DecidableEq, Repr

def Fault.message : Fault → String
  | .year number => "year " ++ toString number ++ " is out of range"
  | .month => "month must be in 1..12"
  | .day => "day is out of range for month"
  | .hour => "hour must be in 0..23"
  | .minute => "minute must be in 0..59"
  | .second => "second must be in 0..59"
  | .offset seconds =>
      "offset must be a timedelta strictly between -timedelta(hours=24) and " ++
        "timedelta(hours=24), not " ++
        spanText seconds ++ "."

end Calendar

open Calendar

structure Date where
  year : Nat
  month : Nat
  day : Nat
  valid : isValidDate year month day = true
deriving DecidableEq

structure Moment where
  date : Date
  hour : Nat
  minute : Nat
  second : Nat
  microsecond : Nat
  offset : Option Int
  valid : (isValidTime hour minute second microsecond && isValidOffset offset) = true
deriving DecidableEq

def padded (width number : Nat) : String :=
  let digits := toString number
  String.ofList (List.replicate (width - digits.length) '0') ++ digits

namespace Date

def of (year month day : Nat) : Except Fault Date :=
  if proof : isValidDate year month day then .ok ⟨year, month, day, proof⟩
  else if year < 1 ∨ 9999 < year then .error (.year year)
  else if month < 1 ∨ 12 < month then .error .month
  else .error .day

def text (date : Date) : String :=
  padded 4 date.year ++ "-" ++ padded 2 date.month ++ "-" ++ padded 2 date.day

/-- Days since the first day of the year 1. -/
def ordinal (date : Date) : Nat :=
  let past := date.year - 1
  let months := (List.range (date.month - 1)).map fun index => daysInMonth date.year (index + 1)
  past * 365 + past / 4 - past / 100 + past / 400 + months.foldr (· + ·) 0 + (date.day - 1)

def inspect (date : Date) : String :=
  "datetime.date(" ++ toString date.year ++ ", " ++ toString date.month ++ ", " ++
    toString date.day ++ ")"

end Date

namespace Moment

def of (date : Date) (hour minute second microsecond : Nat) (offset : Option Int) :
    Except Fault Moment :=
  if proof : (isValidTime hour minute second microsecond && isValidOffset offset) = true then
    .ok ⟨date, hour, minute, second, microsecond, offset, proof⟩
  else if 24 ≤ hour then .error .hour
  else if 60 ≤ minute then .error .minute
  else if 60 ≤ second then .error .second
  else .error (.offset (offset.getD 0))

/-- Day and time of day without the distance from universal time. -/
def localText (moment : Moment) : String :=
  moment.date.text ++ "T" ++ padded 2 moment.hour ++ ":" ++ padded 2 moment.minute ++ ":" ++
    padded 2 moment.second ++
    (if moment.microsecond = 0 then "" else "." ++ padded 6 moment.microsecond)

/-- A distance from universal time as a sign, hours and minutes, and seconds when there are any. -/
def offsetText (seconds : Int) : String :=
  let size := seconds.natAbs
  (if seconds < 0 then "-" else "+") ++ padded 2 (size / 3600) ++ ":" ++
    padded 2 (size / 60 % 60) ++
    (if size % 60 = 0 then "" else ":" ++ padded 2 (size % 60))

def text (moment : Moment) : String :=
  moment.localText ++ (moment.offset.map offsetText).getD ""

/-- The stored form, in which universal time is marked by a `Z`. -/
def storedText (moment : Moment) : String :=
  moment.localText ++
    (moment.offset.map fun seconds => if seconds = 0 then "Z" else offsetText seconds).getD ""

/-- Microseconds since the start of the year 1, by the moment's own clock. -/
def localMicroseconds (moment : Moment) : Nat :=
  (((moment.date.ordinal * 24 + moment.hour) * 60 + moment.minute) * 60 + moment.second) * 1000000 +
    moment.microsecond

/-- Whether two moments are one and the same. A moment without a zone is never one with a zone. -/
def isSame (a b : Moment) : Bool :=
  match a.offset, b.offset with
  | none, none => a.localMicroseconds == b.localMicroseconds
  | some offsetA, some offsetB =>
      (a.localMicroseconds : Int) - offsetA * 1000000 == b.localMicroseconds - offsetB * 1000000
  | _, _ => false

def inspect (moment : Moment) : String :=
  let date := moment.date
  let parts := [date.year, date.month, date.day, moment.hour, moment.minute] ++
    (if moment.microsecond ≠ 0 then [moment.second, moment.microsecond]
     else if moment.second ≠ 0 then [moment.second] else [])
  let zone := match moment.offset with
    | none => ""
    | some seconds =>
        if seconds = 0 then ", tzinfo=datetime.timezone.utc"
        else ", tzinfo=datetime.timezone(" ++ spanText seconds ++ ")"
  "datetime.datetime(" ++ ", ".intercalate (parts.map toString) ++ zone ++ ")"

end Moment

end FixtureImages
