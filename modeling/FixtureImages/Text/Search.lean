/-!
# Searching texts

Whether a text occurs in another, and its first occurrence taken out.
-/

namespace FixtureImages.Text

set_option autoImplicit false

def occursIn (part : List Char) : List Char → Bool
  | [] => part.isEmpty
  | c :: rest => part.isPrefixOf (c :: rest) || occursIn part rest

/-- Take out the first occurrence of a part. -/
def dropFirst (part : List Char) : List Char → List Char
  | [] => []
  | c :: rest =>
      match part.isPrefixOf? (c :: rest) with
      | some after => after
      | none => c :: dropFirst part rest

end FixtureImages.Text
