import FixtureImages.Table

/-!
# Label directives

An image is committed with one directive for each label, in which key and value stand between double
quotes. Backslashes, double quotes and dollar signs are escaped by a backslash; whoever reads a
directive takes the character behind a backslash as it is.
-/

namespace FixtureImages.Directive

set_option autoImplicit false

def needsEscape (c : Char) : Bool := c == '\\' || c == '"' || c == '$'

def escape (c : Char) : List Char := if needsEscape c then ['\\', c] else [c]

def quote (text : List Char) : List Char := '"' :: text.flatMap escape ++ ['"']

def ofLabel (key value : String) : String :=
  String.ofList ("LABEL ".toList ++ quote key.toList ++ '=' :: quote value.toList)

def ofLabels (labels : Labels) : List String :=
  labels.entries.map fun entry => ofLabel entry.1 entry.2

/-- Read up to the closing quote: the text, and what follows the quote. -/
def unquote : List Char → Option (List Char × List Char)
  | [] => none
  | '"' :: rest => some ([], rest)
  | '\\' :: c :: rest => (unquote rest).map fun (text, after) => (c :: text, after)
  | '\\' :: [] => none
  | c :: rest => (unquote rest).map fun (text, after) => (c :: text, after)

def readQuoted : List Char → Option (List Char × List Char)
  | '"' :: rest => unquote rest
  | _ => none

def read (directive : String) : Option (String × String) := do
  let afterWord ← "LABEL ".toList.isPrefixOf? directive.toList
  let (key, afterKey) ← readQuoted afterWord
  match afterKey with
  | '=' :: rest =>
      let (value, after) ← readQuoted rest
      if after.isEmpty then some (String.ofList key, String.ofList value) else none
  | _ => none

end FixtureImages.Directive
