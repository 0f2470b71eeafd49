import FixtureImages.Text.Base64
import FixtureImages.Text.LowerCase
import FixtureImages.Value
import FixtureImages.Yaml.Node

/-!
# The data of a document

The value that a node stands for, by its tag. Values are built one level of the tree after the
other, so of several faults the one nearest to the root counts, and of those on one level the first.
-/

namespace FixtureImages.Yaml

set_option autoImplicit false

/-- A fault and the level at which it lies, counted from the node in question. -/
structure Flaw where
  depth : Nat
  fault : Fault
deriving DecidableEq

abbrev Outcome (α : Type) := Except Flaw α

namespace Outcome

variable {α β : Type}

def here (fault : Fault) : Outcome α := .error ⟨0, fault⟩

/-- The outcome of something one level below. -/
def below : Outcome α → Outcome α
  | .ok value => .ok value
  | .error flaw => .error ⟨flaw.depth + 1, flaw.fault⟩

/-- Both outcomes; of two flaws the one on the upper level, the first on a tie. -/
def both : Outcome α → Outcome β → Outcome (α × β)
  | .ok a, .ok b => .ok (a, b)
  | .ok _, .error flaw => .error flaw
  | .error flaw, .ok _ => .error flaw
  | .error first, .error second => .error (if second.depth < first.depth then second else first)

def all : List (Outcome α) → Outcome (List α)
  | [] => .ok []
  | head :: rest => (both head (all rest)).map fun pair => pair.1 :: pair.2

def ofExcept : Except Fault α → Outcome α
  | .ok value => .ok value
  | .error fault => here fault

end Outcome

/-! ## Scalars -/

/-- Cut off a sign: whether it was a minus, and what follows. -/
def cutSign : List Char → Except Fault (Bool × List Char)
  | [] => .error .emptyNumber
  | c :: rest => .ok (c == '-', if c == '-' || c == '+' then rest else c :: rest)

def readInteger (base : Nat) (digits : List Char) : Except Fault Int :=
  let text := String.ofList digits
  (FixtureImages.readInteger base text).mapError (.integer base text)

/-- An integer: binary, octal or hexadecimal by its mark, groups of base sixty, or decimal. -/
def readUnsigned (digits : List Char) : Except Fault Int :=
  match digits with
  | [] => .error .emptyNumber
  | ['0'] => .ok 0
  | '0' :: 'b' :: rest => readInteger 2 rest
  | '0' :: 'x' :: rest => readInteger 16 rest
  | '0' :: _ => readInteger 8 digits
  | _ =>
      if digits.contains ':' then do
        let groups ← (digits.splitOn ':').mapM (readInteger 10)
        return groups.foldl (fun total group => total * 60 + group) 0
      else readInteger 10 digits

def integer (text : String) : Except Fault Value := do
  let (negative, digits) ← cutSign (text.toList.filter (· != '_'))
  let number ← readUnsigned digits
  return .int (if negative then -number else number)

def readReal (digits : List Char) : Except Fault Binary64 :=
  let text := String.ofList digits
  match readDecimal text with
  | some number => .ok number
  | none => .error (.decimal text)

/-- Groups of base sixty from the last one on, each with its weight. -/
def sumGroups : (total : Binary64) → (weight : Nat) → List Binary64 → Except Fault Binary64
  | total, _, [] => .ok total
  | total, weight, group :: rest =>
      match Binary64.ofInt weight with
      | .infinite _ => .error .largeBase
      | factor => sumGroups (total.add (group.mul factor)) (weight * 60) rest

def decimal (text : String) : Except Fault Value := do
  let lowered := (Text.lower (String.ofList (text.toList.filter (· != '_')))).toList
  let (negative, digits) ← cutSign lowered
  let number ←
    if digits = ".inf".toList then pure (.infinite false)
    else if digits = ".nan".toList then pure .nan
    else if digits.contains ':' then do
      let groups ← (digits.splitOn ':').mapM readReal
      sumGroups (.zero false) 1 groups.reverse
    else readReal digits
  return .real (if negative then number.negate else number)

def truth (text : String) : Except Fault Value :=
  let word := Text.lower text
  if word = "yes" ∨ word = "true" ∨ word = "on" then .ok (.bool true)
  else if word = "no" ∨ word = "false" ∨ word = "off" then .ok (.bool false)
  else .error (.truth word)

def binary (text : String) : Except Fault Value :=
  if text.toList.all (·.toNat < 0x80) then
    match Text.ofBase64 text.toList with
    | some bytes => .ok (.bytes bytes)
    | none => .error .malformed
  else .error .malformed

/-- Microseconds from the digits of a fraction of a second. -/
def microseconds (fraction : List Char) : Nat :=
  numberOf ((fraction ++ List.replicate 6 '0').take 6)

/-- A date or a moment. The zone is judged before the date, and the date before the time of day. -/
def timestamp (text : String) : Except Fault Value :=
  match readTimestamp (dropFinalBreak text.toList) with
  | none => .error .timestamp
  | some stamp => Except.mapError Fault.calendar <|
      match stamp.time with
      | none => (Date.of stamp.year stamp.month stamp.day).map .date
      | some time =>
          if Calendar.isValidOffset time.offset then do
            let date ← Date.of stamp.year stamp.month stamp.day
            let moment ← Moment.of date time.hour time.minute time.second
              (microseconds time.fraction) time.offset
            return .moment moment
          else .error (.offset (time.offset.getD 0))

/-- What a text stands for under a tag. The tags of collections ask for contents, which lie one
level below. -/
def scalarValue (tag : Tag) (text : String) : Outcome Value :=
  match tag with
  | .null => .ok .null
  | .truth => .ofExcept (truth text)
  | .integer => .ofExcept (integer text)
  | .decimal => .ofExcept (decimal text)
  | .binary => .ofExcept (binary text)
  | .timestamp => .ofExcept (timestamp text)
  | .text => .ok (.text text)
  | .orderedPairs | .pairs | .set | .sequence | .mapping => .below (.here .malformed)
  | .merge | .default | .other => .here .malformed

/-! ## Collections -/

namespace Node

def tag? : Node → Option Tag
  | .scalar tag _ | .sequence tag _ | .mapping tag _ => some tag
  | .unfinished => none

def isMerge (node : Node) : Bool := node.tag? == some .merge

def isDefault (node : Node) : Bool := node.tag? == some .default

mutual

/-- The text of a node: a scalar's own, or that of what a mapping holds under the default mark. -/
def text? : Node → Option String
  | .scalar _ text => some text
  | .mapping _ entries => defaultText? entries
  | .sequence _ _ | .unfinished => none

def defaultText? : List (Node × Node) → Option String
  | [] => none
  | (key, value) :: rest => if key.isDefault then text? value else defaultText? rest

end

end Node

/-- A mapping from the outcomes of its entries in order. A key has to be one that can be compared;
one that has contents of its own cannot, whatever is wrong with them. -/
def entriesValue (entries : List (Outcome Value × Outcome Value)) :
    Outcome (List (Value × Value)) :=
  .all <| entries.map fun entry =>
    let key : Outcome Value :=
      match entry.1 with
      | .ok key => if key.isKey then .ok key else .here .malformed
      | .error flaw => .here (if flaw.depth = 0 then flaw.fault else .malformed)
    .both key entry.2

/-- A node with a scalar tag that is no scalar: only a text can come of it, by the default mark. -/
def valueOfDefault (tag : Tag) (text : Option String) : Outcome Value :=
  match text with
  | none => .here .malformed
  | some text => if tag = .timestamp then .here .untimed else scalarValue tag text

mutual

def Node.value : Node → Outcome Value
  | .unfinished => .ok .null
  | .scalar tag text => scalarValue tag text
  | .sequence tag items =>
      match tag with
      | .sequence => .below ((Outcome.all (itemValues items)).map .list)
      | .orderedPairs | .pairs => .below ((Outcome.all (pairValues items)).map .list)
      | .set | .mapping => .below (.here .malformed)
      | _ => .here .malformed
  | .mapping tag entries =>
      let contents : Outcome (List (Value × Value)) :=
        match mergedEntries entries with
        | some merged => entriesValue (merged ++ ownEntries entries)
        | none => .here .malformed
      match tag with
      | .mapping => .below (contents.map .ofPairs)
      | .set => .below (contents.map fun pairs => .ofMembers (pairs.map Prod.fst))
      | .sequence | .orderedPairs | .pairs => .below (.here .malformed)
      | .merge | .default | .other => .here .malformed
      | _ => valueOfDefault tag (Node.mapping tag entries).text?

def itemValues : List Node → List (Outcome Value)
  | [] => []
  | item :: rest => item.value :: itemValues rest

/-- Each item has to be a mapping of one entry, which counts as a pair. -/
def pairValues : List Node → List (Outcome Value)
  | [] => []
  | item :: rest =>
      (match item with
        | .mapping _ [(key, value)] =>
            (Outcome.both key.value value.value).map fun pair => .tuple [pair.1, pair.2]
        | _ => .here .malformed) :: pairValues rest

/-- The entries that a mapping has itself. The default mark counts as a text there. -/
def ownEntries : List (Node × Node) → List (Outcome Value × Outcome Value)
  | [] => []
  | (key, value) :: rest =>
      if key.isMerge then ownEntries rest
      else
        let keyValue : Outcome Value :=
          match key with
          | .unfinished => .here .malformed
          | _ => if key.isDefault then valueOfDefault .text key.text? else key.value
        (keyValue, value.value) :: ownEntries rest

/-- The entries that the merge marks of a mapping bring in, before its own: those of a mapping, or
of several mappings in reverse order. There are none when something else is to be merged. -/
def mergedEntries : List (Node × Node) → Option (List (Outcome Value × Outcome Value))
  | [] => some []
  | (key, value) :: rest =>
      if key.isMerge then do
        let brought ←
          match value with
          | .mapping _ entries => do
              let merged ← mergedEntries entries
              pure (merged ++ ownEntries entries)
          | .sequence _ items => mergedItems items
          | .unfinished => some []
          | .scalar _ _ => none
        let more ← mergedEntries rest
        return brought ++ more
      else mergedEntries rest

def mergedItems : List Node → Option (List (Outcome Value × Outcome Value))
  | [] => some []
  | item :: rest => do
      let brought ←
        match item with
        | .mapping _ entries => do
            let merged ← mergedEntries entries
            pure (merged ++ ownEntries entries)
        | .unfinished => some []
        | _ => none
      let later ← mergedItems rest
      return later ++ brought

end

/-- The data of the only document in a text; a text without a document has the null. -/
def read (text : String) : Except Fault Value := do
  match ← Node.ofText text with
  | none => return .null
  | some root => root.value.mapError Flaw.fault

end FixtureImages.Yaml
