/-!
# Names

Namespaces, blueprints and instances are named by ASCII letters, digits, underscores and hyphens,
with no hyphen in front. A single line feed behind the name is let pass.
-/

namespace FixtureImages

set_option autoImplicit false

def isNameStart (c : Char) : Bool := c.isAlphanum || c == '_'

def isNameChar (c : Char) : Bool := isNameStart c || c == '-'

/-- Characters of a name up to the end, or up to a line feed at the end. -/
def isNameRest : List Char → Bool
  | [] => true
  | ['\n'] => true
  | c :: rest => isNameChar c && isNameRest rest

def isName : List Char → Bool
  | [] => false
  | c :: rest => isNameStart c && isNameRest rest

/-- A text that can be a name. -/
structure Name where
  text : String
  valid : isName text.toList = true
deriving DecidableEq

/-- What was to be named, and the text that is no name; a missing one is shown as `None`. -/
structure InvalidName where
  what : String
  text : Option String
deriving DecidableEq

def InvalidName.message (invalid : InvalidName) : String :=
  "invalid " ++ invalid.what ++ " name '" ++ invalid.text.getD "None" ++
    "': use letters, digits, '_' or '-'"

def Name.of (what : String) (text : Option String) : Except InvalidName Name :=
  match text with
  | none => .error ⟨what, none⟩
  | some text =>
      if valid : isName text.toList = true then .ok ⟨text, valid⟩ else .error ⟨what, some text⟩

/-! Names of an instance and of a blueprint, for examples. -/

theorem hs1_named : isName "hs1".toList = true := by decide

theorem bp_named : isName "bp".toList = true := by decide

end FixtureImages
