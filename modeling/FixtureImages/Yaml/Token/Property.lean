import FixtureImages.Text.Utf8
import FixtureImages.Yaml.Cursor
import FixtureImages.Yaml.Token

/-!
# Directives, tags and anchors in the text of a document
-/

namespace FixtureImages.Yaml

set_option autoImplicit false

/-- Whether a class of characters holds of the next one; a fault otherwise. -/
def expect (accepts : Char → Bool) (cursor : Cursor) : Except Fault Unit :=
  if accepts cursor.peek then .ok () else .error .malformed

def wordName (cursor : Cursor) : Except Fault (String × Cursor) :=
  let (name, after) := cursor.run isWordChar
  if name.isEmpty then .error .malformed else .ok (String.ofList name, after)

/-- The name of an anchor, or of a reference to one, behind its mark. -/
def anchorName (cursor : Cursor) : Except Fault (String × Cursor) := do
  let (name, after) ← wordName cursor.next
  expect (fun c => isGapOrEnd c || "?:,]\x7d%@\x60".toList.contains c) after
  return (name, after)

/-! ## Tags -/

/-- Characters of a tag, the percent sign aside. -/
def isTagChar (c : Char) : Bool := c.isAlphanum || "-;/?:@&=+$,_.!~*'()[]".toList.contains c

/-- Bytes written as a percent sign and two hexadecimal digits each. -/
def percentBytes : List Char → List UInt8 × List Char
  | '%' :: a :: b :: rest =>
      if isHexDigit a && isHexDigit b then
        let (more, last) := percentBytes rest
        (UInt8.ofNat (((baseDigit? 16 a).getD 0) * 16 + (baseDigit? 16 b).getD 0) :: more, last)
      else ([], '%' :: a :: b :: rest)
  | rest => ([], rest)

/-- The characters of a tag with its percent escapes read as UTF-8. -/
def tagChars : Nat → Cursor → Except Fault (List Char × Cursor)
  | 0, cursor => .ok ([], cursor)
  | fuel + 1, cursor =>
      let c := cursor.peek
      if c == '%' then
        let (bytes, rest) := percentBytes cursor.rest
        if bytes.isEmpty || rest.head? == some '%' then .error .malformed
        else
          match Text.ofUtf8 bytes with
          | .error _ => .error .malformed
          | .ok text => do
              let (more, last) ← tagChars fuel (cursor.skip (3 * bytes.length))
              return (text.toList ++ more, last)
      else if isTagChar c then do
        let (more, last) ← tagChars fuel cursor.next
        return (c :: more, last)
      else .ok ([], cursor)

def tagSuffix (cursor : Cursor) : Except Fault (String × Cursor) := do
  let (text, after) ← tagChars (cursor.rest.length + 1) cursor
  if after.index = cursor.index then .error .malformed else return (String.ofList text, after)

/-- A handle: one exclamation mark, or two around a name. -/
def tagHandle (cursor : Cursor) : Except Fault (String × Cursor) := do
  expect (· == '!') cursor
  let inner := cursor.next
  if inner.peek == ' ' then return ("!", inner)
  let (name, after) := inner.run isWordChar
  expect (· == '!') after
  return ("!" ++ String.ofList name ++ "!", after.next)

def tagText (cursor : Cursor) : Except Fault (TagText × Cursor) := do
  let inner := cursor.next
  let (tag, after) ←
    if inner.peek == '<' then do
      let (suffix, after) ← tagSuffix inner.next
      expect (· == '>') after
      pure (TagText.mk none suffix, after.next)
    else if isGapOrEnd inner.peek then pure (TagText.mk none "!", inner)
    else
      let named := (inner.rest.takeWhile fun c => !isSpaceOrEnd c).contains '!'
      let (handle, body) ← if named then tagHandle cursor else pure ("!", inner)
      let (suffix, after) ← tagSuffix body
      pure (TagText.mk (some handle) suffix, after)
  expect isSpaceOrEnd after
  return (tag, after)

/-! ## Directives -/

def versionNumber (cursor : Cursor) : Except Fault (Nat × Cursor) :=
  let (digits, after) := cursor.run Char.isDigit
  if digits.isEmpty then .error .malformed
  else .ok (digits.foldl (fun value c => value * 10 + (c.toNat - 48)) 0, after)

/-- A directive with the rest of its line, from its percent sign. -/
def directiveLine (cursor : Cursor) : Except Fault (Directive × Cursor) := do
  let (name, afterName) ← wordName cursor.next
  expect isSpaceOrEnd afterName
  let (directive, after) ←
    if name = "YAML" then do
      let (major, point) ← versionNumber afterName.skipSpaces
      expect (· == '.') point
      let (minor, after) ← versionNumber point.next
      expect isSpaceOrEnd after
      pure (Directive.version major minor, after)
    else if name = "TAG" then do
      let (handle, afterHandle) ← tagHandle afterName.skipSpaces
      expect (· == ' ') afterHandle
      let (stem, after) ← tagSuffix afterHandle.skipSpaces
      expect isSpaceOrEnd after
      pure (Directive.tag handle stem, after)
    else pure (Directive.other, afterName.skipWhile fun c => !isBreakOrEnd c)
  let rest := after.skipSpaces.skipComment
  expect isBreakOrEnd rest
  return (directive, rest.lineBreak.2)

end FixtureImages.Yaml
