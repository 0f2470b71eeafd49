import FixtureImages.Table
import FixtureImages.Text.Utf8
import FixtureImages.Value.Inspect

/-!
# Plain data

Data that any document format can hold: texts are the only keys, and the values are texts, numbers,
truth values, nulls, and lists and mappings of them.
-/

namespace FixtureImages

set_option autoImplicit false

inductive Plain
  | null
  | bool (value : Bool)
  | int (value : Int)
  | real (value : Binary64)
  | text (value : String)
  | list (items : List Plain)
  | map (entries : List (String × Plain))
deriving Inhabited

namespace Plain

mutual

def value : Plain → Value
  | .null => .null
  | .bool value => .bool value
  | .int value => .int value
  | .real value => .real value
  | .text value => .text value
  | .list items => .list (itemValues items)
  | .map entries => .map (entryValues entries)

def itemValues : List Plain → List Value
  | [] => []
  | item :: rest => item.value :: itemValues rest

def entryValues : List (String × Plain) → List (Value × Value)
  | [] => []
  | (key, item) :: rest => (.text key, item.value) :: entryValues rest

end

open Text

/-- The text that stands for a key of any kind. -/
def keyText : Value → Except Utf8Fault String
  | .text key => .ok key
  | .bool value => .ok (if value then "true" else "false")
  | .bytes bytes => ofUtf8 bytes
  | .moment value => .ok value.storedText
  | key => .ok key.display

mutual

/-- Untyped values as plain data: dates and bytes become texts, tuples and sets become lists, and
numbers that are not finite become nulls. Keys become texts, so that several may fall together; the
last one stays. The members of a set come in the order in which they were put in, though no order is
laid down for them. -/
def ofValue : Value → Except Utf8Fault Plain
  | .null => .ok .null
  | .bool value => .ok (.bool value)
  | .int value => .ok (.int value)
  | .real value => .ok (if value.isFinite then .real value else .null)
  | .text value => .ok (.text value)
  | .bytes value => (ofUtf8 value).map .text
  | .date value => .ok (.text value.text)
  | .moment value => .ok (.text value.storedText)
  | .list items => (ofItems items).map .list
  | .tuple items => (ofItems items).map .list
  | .set items => (ofItems items).map .list
  | .map entries => (ofEntries [] entries).map .map

def ofItems : List Value → Except Utf8Fault (List Plain)
  | [] => .ok []
  | item :: rest => do
      let first ← ofValue item
      let others ← ofItems rest
      return first :: others

def ofEntries (done : List (String × Plain)) :
    List (Value × Value) → Except Utf8Fault (List (String × Plain))
  | [] => .ok done
  | (key, item) :: rest => do
      let name ← keyText key
      let content ← ofValue item
      ofEntries (insertEntry name content done) rest

end

end Plain

end FixtureImages
