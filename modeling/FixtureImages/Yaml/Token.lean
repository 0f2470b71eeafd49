import FixtureImages.Yaml.Fault

/-!
# Tokens

The marks and texts that a document is made of. Indentation and simple keys are already resolved: a
block collection has a start and an end, and every key and value has its mark.
-/

namespace FixtureImages.Yaml

set_option autoImplicit false

inductive Directive
  | version (major minor : Nat)
  | tag (handle : String) (stem : String)
  | other
deriving DecidableEq

/-- A tag as it is written: its handle, unless it is written in full, and the rest. -/
structure TagText where
  handle : Option String
  suffix : String
deriving DecidableEq

inductive Token
  | directive (directive : Directive)
  | documentStart
  | documentEnd
  | blockSequence
  | blockMapping
  | blockEnd
  | flowSequence
  | flowSequenceEnd
  | flowMapping
  | flowMappingEnd
  | blockEntry
  | flowEntry
  | key
  | value
  | reference (name : String)
  | anchor (name : String)
  | tag (tag : TagText)
  | scalar (text : String) (plain : Bool)
  | streamEnd
  | broken (fault : Fault)
deriving DecidableEq

end FixtureImages.Yaml
