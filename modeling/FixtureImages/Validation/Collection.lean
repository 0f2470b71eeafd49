import FixtureImages.Table
import FixtureImages.Validation.Scalar

/-!
# Checked collections

Lists, tables and the fields of mappings out of untyped data.
-/

namespace FixtureImages.Checked

set_option autoImplicit false

variable {α : Type}

/-- Check items one by one, from an index on. -/
def itemsFrom (check : Value → Checked α) : Nat → List Value → List (Checked α)
  | _, [] => []
  | index, item :: rest =>
      inside (.index (index : Int)) (check item) :: itemsFrom check (index + 1) rest

/-- The items of a list, a tuple or a set; anything else brings the given complaint. -/
def items (otherwise : ComplaintKind) (check : Value → Checked α) : Value → Checked (List α)
  | .list values | .tuple values | .set values => collect (itemsFrom check 0 values)
  | _ => complain otherwise

def tuple (check : Value → Checked α) : Value → Checked (List α) := items .notTuple check

def list (check : Value → Checked α) : Value → Checked (List α) := items .notList check

/-- How a key is named in a path: integers and texts as they are, other keys as they are shown. -/
def keyStep : Value → PathStep
  | .text name => .name name
  | .bool value => .index (if value then 1 else 0)
  | .int number =>
      if leastWord ≤ number ∧ number ≤ greatestWord then .index number else .name (toString number)
  | key => .name key.inspect

/-- An entry with a text for a key. A bad key is complained about before a bad value. -/
def entry (check : Value → Checked α) (key value : Value) : Checked (String × α) :=
  inside (keyStep key) <|
    apply ((inside (.name "[key]") (text key)).map Prod.mk) (check value)

def table (check : Value → Checked α) : Value → Checked (Table α)
  | .map entries => (collect (entries.map fun pair => entry check pair.1 pair.2)).map Table.ofList
  | _ => complain .notTable

/-- The entries of a mapping that is to become a model. -/
def model (name : String) : Value → Checked (List (Value × Value))
  | .map entries => .ok entries
  | _ => complain (.notModel name)

def required (entries : List (Value × Value)) (name : String) (check : Value → Checked α) :
    Checked α :=
  match Value.field? entries name with
  | some value => inside (.name name) (check value)
  | none => .error [⟨.missing, [.name name]⟩]

def optional (entries : List (Value × Value)) (name : String) (fallback : α)
    (check : Value → Checked α) : Checked α :=
  match Value.field? entries name with
  | some value => inside (.name name) (check value)
  | none => .ok fallback

def orNull (check : Value → Checked α) : Value → Checked (Option α)
  | .null => .ok none
  | value => (check value).map some

end FixtureImages.Checked
