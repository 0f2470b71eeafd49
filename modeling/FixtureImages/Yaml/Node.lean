import FixtureImages.Yaml.Tag
import FixtureImages.Yaml.Token.Lexer

/-!
# Nodes

The tree that a document denotes before its scalars are given values. A reference stands for the
node with its anchor; inside that node itself, which is not complete there, it stands for
`unfinished`.
-/

namespace FixtureImages.Yaml

set_option autoImplicit false

inductive Node
  | scalar (tag : Tag) (text : String)
  | sequence (tag : Tag) (items : List Node)
  | mapping (tag : Tag) (entries : List (Node × Node))
  | unfinished
deriving Inhabited

/-- What stands where a document has a place for a node and no node. -/
def Node.empty : Node := .scalar .null ""

/-- Tokens yet to be read, the stems of the tag handles, and the anchored nodes. -/
structure Reader where
  tokens : List Token
  handles : List (String × String)
  anchors : List (String × Node)

namespace Reader

def peek (reader : Reader) : Token := reader.tokens.headD .streamEnd

def next (reader : Reader) : Reader := { reader with tokens := reader.tokens.tail }

/-- The fault of a token that does not belong where it stands. -/
def misplaced (reader : Reader) : Fault :=
  match reader.peek with
  | .broken fault => fault
  | _ => .malformed

def expect (token : Token) (reader : Reader) : Except Fault Reader :=
  if reader.peek = token then .ok reader.next else .error reader.misplaced

/-- Bind an anchor; each may be bound once. -/
def bind (anchor : Option String) (node : Node) (reader : Reader) : Except Fault Reader :=
  match anchor with
  | none => .ok reader
  | some name =>
      if reader.anchors.any (·.1 == name) then .error .malformed
      else .ok { reader with anchors := (name, node) :: reader.anchors }

/-- Complete the node of an anchor that is bound. -/
def complete (anchor : Option String) (node : Node) (reader : Reader) : Reader :=
  match anchor with
  | none => reader
  | some name =>
      { reader with
        anchors := reader.anchors.map fun entry => if entry.1 == name then (name, node) else entry }

/-- Anchor and tag in front of a node, in either order. -/
def properties (reader : Reader) : Option String × Option TagText × Reader :=
  match reader.tokens with
  | .anchor name :: .tag tag :: rest => (some name, some tag, { reader with tokens := rest })
  | .anchor name :: rest => (some name, none, { reader with tokens := rest })
  | .tag tag :: .anchor name :: rest => (some name, some tag, { reader with tokens := rest })
  | .tag tag :: rest => (none, some tag, { reader with tokens := rest })
  | _ => (none, none, reader)

/-- A node's own tag: none when it has none or leaves the choice open. -/
def resolveTag (tag : Option TagText) (reader : Reader) : Except Fault (Option (Option Tag)) :=
  match tag with
  | none => .ok none
  | some ⟨none, suffix⟩ => .ok (some (if suffix = "!" then none else some (.ofName suffix)))
  | some ⟨some handle, suffix⟩ =>
      match reader.handles.lookup handle with
      | none => .error .malformed
      | some stem =>
          let name := stem ++ suffix
          .ok (some (if name = "!" then none else some (.ofName name)))

/-- The tag of a scalar. Without a tag a plain one is judged by its text; so is every one whose tag
leaves the choice open. -/
def scalarTag (tag : Option (Option Tag)) (plain : Bool) (text : String) : Tag :=
  match tag with
  | some (some tag) => tag
  | some none => .ofPlain text
  | none => if plain then .ofPlain text else .text

def collectionTag (tag : Option (Option Tag)) (usual : Tag) : Tag := (tag.getD none).getD usual

mutual

/-- One node. `block` admits block collections, and `bare` a sequence that is not indented. -/
def node : (fuel : Nat) → (block bare : Bool) → Reader → Except Fault (Node × Reader)
  | 0, _, _, _ => .error .malformed
  | fuel + 1, block, bare, reader =>
      match reader.peek with
      | .reference name =>
          match reader.anchors.lookup name with
          | some node => .ok (node, reader.next)
          | none => .error .malformed
      | _ => do
          let (anchor, tagText, reader) := reader.properties
          let tag ← reader.resolveTag tagText
          let collection {α : Type} (read : Reader → Except Fault (α × Reader)) (build : α → Node)
              (reader : Reader) : Except Fault (Node × Reader) := do
            let opened ← reader.bind anchor .unfinished
            let (content, reader) ← read opened
            let node := build content
            return (node, reader.complete anchor node)
          let sequence := Node.sequence (collectionTag tag .sequence)
          let mapping := Node.mapping (collectionTag tag .mapping)
          match reader.peek with
          | .scalar text plain =>
              let node := Node.scalar (scalarTag tag plain text) text
              let reader ← reader.next.bind anchor node
              return (node, reader)
          | .flowSequence => collection (flowItems fuel true) sequence reader.next
          | .flowMapping => collection (flowEntries fuel true) mapping reader.next
          | token =>
              if token = .blockEntry ∧ bare then collection (bareItems fuel) sequence reader
              else if token = .blockSequence ∧ block then
                collection (blockItems fuel) sequence reader.next
              else if token = .blockMapping ∧ block then
                collection (blockEntries fuel) mapping reader.next
              else if anchor.isSome ∨ tagText.isSome then do
                let node := Node.scalar (scalarTag tag true "") ""
                let reader ← reader.bind anchor node
                return (node, reader)
              else throw reader.misplaced

/-- A node, or the empty one before a token that ends its place. -/
def nodeBefore : (fuel : Nat) → (ends : List Token) → (block bare : Bool) → Reader →
    Except Fault (Node × Reader)
  | 0, _, _, _, _ => .error .malformed
  | fuel + 1, ends, block, bare, reader =>
      if ends.contains reader.peek then .ok (.empty, reader) else node fuel block bare reader

def blockItems : (fuel : Nat) → Reader → Except Fault (List Node × Reader)
  | 0, _ => .error .malformed
  | fuel + 1, reader =>
      if reader.peek = .blockEntry then do
        let (item, reader) ← nodeBefore fuel [.blockEntry, .blockEnd] true false reader.next
        let (rest, reader) ← blockItems fuel reader
        return (item :: rest, reader)
      else do
        let reader ← reader.expect .blockEnd
        return ([], reader)

/-- The entries of a block sequence at the column of the mapping around it. -/
def bareItems : (fuel : Nat) → Reader → Except Fault (List Node × Reader)
  | 0, _ => .error .malformed
  | fuel + 1, reader =>
      if reader.peek = .blockEntry then do
        let (item, reader) ←
          nodeBefore fuel [.blockEntry, .key, .value, .blockEnd] true false reader.next
        let (rest, reader) ← bareItems fuel reader
        return (item :: rest, reader)
      else .ok ([], reader)

def blockEntries : (fuel : Nat) → Reader → Except Fault (List (Node × Node) × Reader)
  | 0, _ => .error .malformed
  | fuel + 1, reader =>
      if reader.peek = .key then do
        let (key, reader) ← nodeBefore fuel [.key, .value, .blockEnd] true true reader.next
        let (value, reader) ← blockValue fuel reader
        let (rest, reader) ← blockEntries fuel reader
        return ((key, value) :: rest, reader)
      else do
        let reader ← reader.expect .blockEnd
        return ([], reader)

def blockValue : (fuel : Nat) → Reader → Except Fault (Node × Reader)
  | 0, _ => .error .malformed
  | fuel + 1, reader =>
      if reader.peek = .value then
        nodeBefore fuel [.key, .value, .blockEnd] true true reader.next
      else .ok (.empty, reader)

/-- The entries of a flow sequence, and its end. An entry with a key is a mapping of one entry. -/
def flowItems : (fuel : Nat) → (first : Bool) → Reader → Except Fault (List Node × Reader)
  | 0, _, _ => .error .malformed
  | fuel + 1, first, reader =>
      if reader.peek = .flowSequenceEnd then .ok ([], reader.next)
      else do
        let reader ← if first then pure reader else reader.expect .flowEntry
        if reader.peek = .key then
          let (key, reader) ←
            nodeBefore fuel [.value, .flowEntry, .flowSequenceEnd] false false reader.next
          let (value, reader) ← flowValue fuel .flowSequenceEnd reader
          let (rest, reader) ← flowItems fuel false reader
          return (.mapping .mapping [(key, value)] :: rest, reader)
        else if reader.peek = .flowSequenceEnd then return ([], reader.next)
        else
          let (item, reader) ← node fuel false false reader
          let (rest, reader) ← flowItems fuel false reader
          return (item :: rest, reader)

def flowValue : (fuel : Nat) → (closing : Token) → Reader → Except Fault (Node × Reader)
  | 0, _, _ => .error .malformed
  | fuel + 1, closing, reader =>
      if reader.peek = .value then nodeBefore fuel [.flowEntry, closing] false false reader.next
      else .ok (.empty, reader)

/-- The entries of a flow mapping, and its end. An entry without a key mark is a key alone. -/
def flowEntries : (fuel : Nat) → (first : Bool) → Reader →
    Except Fault (List (Node × Node) × Reader)
  | 0, _, _ => .error .malformed
  | fuel + 1, first, reader =>
      if reader.peek = .flowMappingEnd then .ok ([], reader.next)
      else do
        let reader ← if first then pure reader else reader.expect .flowEntry
        if reader.peek = .key then
          let (key, reader) ←
            nodeBefore fuel [.value, .flowEntry, .flowMappingEnd] false false reader.next
          let (value, reader) ← flowValue fuel .flowMappingEnd reader
          let (rest, reader) ← flowEntries fuel false reader
          return ((key, value) :: rest, reader)
        else if reader.peek = .flowMappingEnd then return ([], reader.next)
        else
          let (key, reader) ← node fuel false false reader
          let (rest, reader) ← flowEntries fuel false reader
          return ((key, .empty) :: rest, reader)

end

/-! ## Documents -/

def usualHandles : List (String × String) := [("!", "!"), ("!!", "tag:yaml.org,2002:")]

/-- The directives before a document: one version of the first line at most, and each handle once.
-/
def directives : (versioned : Bool) → (handles : List (String × String)) → List Token →
    Except Fault (List (String × String) × List Token)
  | versioned, handles, .directive directive :: rest =>
      match directive with
      | .version major _ =>
          if versioned || major != 1 then .error .malformed else directives true handles rest
      | .tag handle stem =>
          if handles.any (·.1 == handle) then .error .malformed
          else directives versioned (handles ++ [(handle, stem)]) rest
      | .other => directives versioned handles rest
  | _, handles, rest => .ok (handles ++ usualHandles, rest)

/-- The node of a document with its mark, which may be missing. -/
def content (fuel : Nat) (reader : Reader) : Except Fault (Node × Reader) :=
  match reader.peek with
  | .directive _ | .documentStart | .documentEnd | .streamEnd => .ok (.empty, reader)
  | _ => node fuel true false reader

/-- After the node of the only document nothing may follow but marks of its end. -/
def finish (reader : Reader) : Except Fault Unit :=
  match reader.tokens.dropWhile (· = .documentEnd) with
  | .streamEnd :: _ => .ok ()
  | .broken fault :: _ => .error fault
  | _ => .error .malformed

end Reader

/-- The root node of a stream that holds one document, or nothing when it holds none. -/
def Node.ofTokens (tokens : List Token) : Except Fault (Option Node) := do
  let fuel := 3 * tokens.length + 10
  let start (handles : List (String × String)) (tokens : List Token) : Reader :=
    ⟨tokens, handles, []⟩
  match tokens with
  | .streamEnd :: _ => return none
  | .directive _ :: _ | .documentStart :: _ => do
      let (handles, rest) ← Reader.directives false [] tokens
      let reader ← (start handles rest).expect .documentStart
      let (root, reader) ← reader.content fuel
      reader.finish
      return some root
  | _ => do
      let (root, reader) ← Reader.node fuel true false (start Reader.usualHandles tokens)
      reader.finish
      return some root

def Node.ofText (text : String) : Except Fault (Option Node) :=
  match Token.ofText? text with
  | none => .error .malformed
  | some tokens => Node.ofTokens tokens

end FixtureImages.Yaml
