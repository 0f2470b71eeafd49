import FixtureImages.Value.Inspect

/-!
# Complaints

Why untyped data is not of a wanted shape, with the path to the part in question. Checking goes on
after a complaint, so that data comes back with all complaints about it in order.
-/

namespace FixtureImages

set_option autoImplicit false

inductive PathStep
  | name (name : String)
  | index (index : Int)
deriving DecidableEq

inductive ComplaintKind
  | missing
  | notModel (name : String)
  | notText
  | notUnicode
  | notTruthText
  | notTruth
  | notTuple
  | notList
  | notTable
  | notNumeral
  | notNumber
  | notIntegerNumeral
  | notInteger
  | fractional
  | notFinite
  | tooLarge
  | custom (message : String)
deriving DecidableEq

structure Complaint where
  kind : ComplaintKind
  path : List PathStep
deriving DecidableEq

namespace ComplaintKind

def code : ComplaintKind → String
  | .missing => "missing"
  | .notModel _ => "model_type"
  | .notText => "string_type"
  | .notUnicode => "string_unicode"
  | .notTruthText => "bool_parsing"
  | .notTruth => "bool_type"
  | .notTuple => "tuple_type"
  | .notList => "list_type"
  | .notTable => "dict_type"
  | .notNumeral => "float_parsing"
  | .notNumber => "float_type"
  | .notIntegerNumeral => "int_parsing"
  | .notInteger => "int_type"
  | .fractional => "int_from_float"
  | .notFinite => "finite_number"
  | .tooLarge => "int_parsing_size"
  | .custom _ => "value_error"

def message : ComplaintKind → String
  | .missing => "Field required"
  | .notModel name => "Input should be a valid dictionary or instance of " ++ name
  | .notText => "Input should be a valid string"
  | .notUnicode => "Input should be a valid string, unable to parse raw data as a unicode string"
  | .notTruthText => "Input should be a valid boolean, unable to interpret input"
  | .notTruth => "Input should be a valid boolean"
  | .notTuple => "Input should be a valid tuple"
  | .notList => "Input should be a valid list"
  | .notTable => "Input should be a valid dictionary"
  | .notNumeral => "Input should be a valid number, unable to parse string as a number"
  | .notNumber => "Input should be a valid number"
  | .notIntegerNumeral => "Input should be a valid integer, unable to parse string as an integer"
  | .notInteger => "Input should be a valid integer"
  | .fractional => "Input should be a valid integer, got a number with a fractional part"
  | .notFinite => "Input should be a finite number"
  | .tooLarge => "Unable to parse input string as an integer, exceeded maximum size"
  | .custom message => "Value error, " ++ message

end ComplaintKind

/-- A checked part of the data, or the complaints about it. -/
abbrev Checked (α : Type) := Except (List Complaint) α

namespace Checked

variable {α β : Type}

def complain (kind : ComplaintKind) : Checked α := .error [⟨kind, []⟩]

/-- Move the complaints about a part one step into the whole. -/
def inside (step : PathStep) : Checked α → Checked α
  | .ok value => .ok value
  | .error complaints =>
      .error (complaints.map fun complaint => { complaint with path := step :: complaint.path })

/-- Give a function its next argument; the complaints of both are kept in order. -/
def apply : Checked (α → β) → Checked α → Checked β
  | .ok f, .ok value => .ok (f value)
  | .ok _, .error complaints => .error complaints
  | .error complaints, .ok _ => .error complaints
  | .error earlier, .error later => .error (earlier ++ later)

/-- All parts, or all complaints about any of them. -/
def collect : List (Checked α) → Checked (List α)
  | [] => .ok []
  | head :: rest => apply (head.map List.cons) (collect rest)

theorem apply_eq_ok_iff (f : Checked (α → β)) (part : Checked α) (result : β) :
    apply f part = .ok result ↔ ∃ g value, f = .ok g ∧ part = .ok value ∧ g value = result := by
  cases f <;> cases part <;> simp [apply]

theorem collect_eq_ok_iff (parts : List (Checked α)) (values : List α) :
    collect parts = .ok values ↔ parts = values.map Except.ok := by
  induction parts generalizing values with
  | nil => cases values <;> simp [collect]
  | cons head rest induction =>
      cases values with
      | nil => simp [collect, apply_eq_ok_iff]; cases head <;> simp [Except.map]
      | cons value values =>
          simp only [collect, apply_eq_ok_iff, induction, List.map_cons, List.cons.injEq]
          constructor
          · rintro ⟨g, tail, first, same, result⟩
            cases head <;> simp_all [Except.map]
            obtain ⟨rfl, rfl⟩ := first ▸ result
            exact ⟨rfl, rfl⟩
          · rintro ⟨rfl, same⟩
            exact ⟨_, values, rfl, same, rfl⟩

end Checked

end FixtureImages
