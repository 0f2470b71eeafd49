/-!
# UTF-8

Texts as bytes and back. Bytes are read into pieces, each a character or a defect that covers the
longest run of bytes that a well-formed sequence could begin with. Reading strictly stops at the
first defect and says where it is; reading leniently puts the replacement character in the place of
each.
-/

namespace FixtureImages.Text

set_option autoImplicit false

def utf8 (text : String) : List UInt8 := text.toList.flatMap String.utf8EncodeChar

/-- Why bytes are not UTF-8. -/
inductive Utf8Defect
  | start
  | continuation
  | truncated
deriving DecidableEq, Repr

/-- A defect with the bytes it covers: the offset of the first, its value, and their number. -/
structure Utf8Fault where
  defect : Utf8Defect
  offset : Nat
  first : UInt8
  length : Nat
deriving DecidableEq

inductive Utf8Piece
  | char (c : Char)
  | bad (defect : Utf8Defect) (bytes : List UInt8)
deriving DecidableEq

def isContinuation (byte : UInt8) : Bool := 0x80 ≤ byte && byte ≤ 0xbf

/-- Which second bytes may follow a leading byte: no overlong form, no surrogate, nothing above the
last code point. -/
def allowsSecond (lead second : UInt8) : Bool :=
  if lead == 0xe0 then 0xa0 ≤ second && second ≤ 0xbf
  else if lead == 0xed then 0x80 ≤ second && second ≤ 0x9f
  else if lead == 0xf0 then 0x90 ≤ second && second ≤ 0xbf
  else if lead == 0xf4 then 0x80 ≤ second && second ≤ 0x8f
  else isContinuation second

def low6 (byte : UInt8) : Nat := byte.toNat % 64

def utf8Pieces : List UInt8 → List Utf8Piece
  | [] => []
  | a :: rest =>
      if a < 0x80 then .char (Char.ofNat a.toNat) :: utf8Pieces rest
      else if a < 0xc2 || 0xf4 < a then .bad .start [a] :: utf8Pieces rest
      else
        match rest with
        | [] => [.bad .truncated [a]]
        | b :: rest₂ =>
            if !allowsSecond a b then .bad .continuation [a] :: utf8Pieces (b :: rest₂)
            else if a < 0xe0 then
              .char (Char.ofNat (a.toNat % 32 * 64 + low6 b)) :: utf8Pieces rest₂
            else
              match rest₂ with
              | [] => [.bad .truncated [a, b]]
              | c :: rest₃ =>
                  if !isContinuation c then .bad .continuation [a, b] :: utf8Pieces (c :: rest₃)
                  else if a < 0xf0 then
                    .char (Char.ofNat (a.toNat % 16 * 4096 + low6 b * 64 + low6 c)) ::
                      utf8Pieces rest₃
                  else
                    match rest₃ with
                    | [] => [.bad .truncated [a, b, c]]
                    | d :: rest₄ =>
                        if !isContinuation d then
                          .bad .continuation [a, b, c] :: utf8Pieces (d :: rest₄)
                        else
                          .char (Char.ofNat (a.toNat % 8 * 262144 + low6 b * 4096 + low6 c * 64 +
                            low6 d)) :: utf8Pieces rest₄

/-- The characters of well-formed bytes, or the first defect; `offset` bytes have been read. -/
def readPieces (offset : Nat) : List Utf8Piece → Except Utf8Fault (List Char)
  | [] => .ok []
  | .char c :: rest => (readPieces (offset + c.utf8Size) rest).map (c :: ·)
  | .bad defect bytes :: _ => .error ⟨defect, offset, bytes.headD 0, bytes.length⟩

def ofUtf8 (bytes : List UInt8) : Except Utf8Fault String :=
  (readPieces 0 (utf8Pieces bytes)).map String.ofList

def ofUtf8Lossy (bytes : List UInt8) : String :=
  String.ofList <| (utf8Pieces bytes).map fun
    | .char c => c
    | .bad _ _ => Char.ofNat 0xfffd

end FixtureImages.Text
