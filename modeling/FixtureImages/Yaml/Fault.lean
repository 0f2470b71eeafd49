import FixtureImages.Calendar
import FixtureImages.Decimal.NumeralFault

/-!
# Faults of documents

Why a text is no document, or its nodes have no value. Most are one kind, `malformed`; a node whose
tag asks for a number, a truth value or a time and whose text does not give one has a fault of its
own.
-/

namespace FixtureImages.Yaml

set_option autoImplicit false

inductive Fault
  | malformed
  | codePoint
  | wideCodePoint
  | integer (base : Nat) (text : String) (fault : IntegerFault)
  | decimal (text : String)
  | emptyNumber
  | largeBase
  | truth (text : String)
  | timestamp
  | untimed
  | calendar (fault : Calendar.Fault)
deriving DecidableEq

/-- The message of a fault; that of a malformed document is not shown. -/
def Fault.message : Fault → String
  | .malformed => ""
  | .codePoint => "chr() arg not in range(0x110000)"
  | .wideCodePoint => "Python int too large to convert to C int"
  | .integer base text fault => fault.message base text
  | .decimal text => decimalMessage text
  | .emptyNumber => "string index out of range"
  | .largeBase => "int too large to convert to float"
  | .truth text => Text.quoted text
  | .timestamp => "'NoneType' object has no attribute 'groupdict'"
  | .untimed => "expected string or bytes-like object, got 'list'"
  | .calendar fault => fault.message

end FixtureImages.Yaml
