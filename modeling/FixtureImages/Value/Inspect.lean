import FixtureImages.Decimal.Notation
import FixtureImages.Text.Quoted
import FixtureImages.Value

/-!
# How values are shown

The text of a value inside a message. A text on its own is shown bare; inside a collection it is
quoted.
-/

namespace FixtureImages.Value

set_option autoImplicit false

mutual

/-- A value as part of a collection. -/
def inspect : Value → String
  | .null => "None"
  | .bool value => if value then "True" else "False"
  | .int value => toString value
  | .real value => value.text
  | .text value => Text.quoted value
  | .bytes value => Text.quotedBytes value
  | .date value => value.inspect
  | .moment value => value.inspect
  | .list items => "[" ++ ", ".intercalate (inspectItems items) ++ "]"
  | .tuple [item] => "(" ++ inspect item ++ ",)"
  | .tuple items => "(" ++ ", ".intercalate (inspectItems items) ++ ")"
  | .map entries => "\x7b" ++ ", ".intercalate (inspectEntries entries) ++ "\x7d"
  | .set items =>
      if items.isEmpty then "set()" else "\x7b" ++ ", ".intercalate (inspectItems items) ++ "\x7d"

def inspectItems : List Value → List String
  | [] => []
  | item :: rest => inspect item :: inspectItems rest

def inspectEntries : List (Value × Value) → List String
  | [] => []
  | (key, value) :: rest => (inspect key ++ ": " ++ inspect value) :: inspectEntries rest

end

/-- A value on its own. -/
def display : Value → String
  | .text value => value
  | .date value => value.text
  | .moment value =>
      String.ofList (value.text.toList.map fun c => if c = 'T' then ' ' else c)
  | value => value.inspect

end FixtureImages.Value
