import FixtureImages.Archive

/-!
# Reading archives

The files of an archive in order. A block that does not add up to its check sum, or that is of
another kind than files and the records before them, is refused.
-/

namespace FixtureImages.Archive

set_option autoImplicit false

/-- The fields of a header that matter. -/
structure Header where
  name : List UInt8
  mode : Nat
  size : Nat
  kind : UInt8
deriving DecidableEq

/-- Bytes up to an end mark. -/
def upToZero (bytes : List UInt8) : List UInt8 := bytes.takeWhile (· != 0)

def fieldAt (offset width : Nat) (block : List UInt8) : List UInt8 := (block.drop offset).take width

def isOctalDigit (byte : UInt8) : Bool := 48 ≤ byte && byte ≤ 55

def numberAt (offset width : Nat) (block : List UInt8) : Nat :=
  ((fieldAt offset width block).takeWhile isOctalDigit).foldl
    (fun number byte => number * 8 + (byte.toNat - 48)) 0

/-- The name in a header. What stands in front of its last parts may have a field of its own, without
the slash between. -/
def headerName (block : List UInt8) : List UInt8 :=
  let name := upToZero (fieldAt 0 nameSize block)
  let stem := upToZero (fieldAt 345 155 block)
  if stem.isEmpty then name else stem ++ 47 :: name

def isEmptyBlock (block : List UInt8) : Bool := block.all (· == 0)

def readHeader (block : List UInt8) : Option Header :=
  let sum := byteSum (block.take 148) + 8 * 32 + byteSum (block.drop 156)
  if block.length = blockSize ∧ numberAt 148 8 block = sum then
    some
      { name := headerName block
        mode := numberAt 100 8 block
        size := numberAt 124 12 block
        kind := (block[156]?).getD 0 }
  else none

def isAsciiDigit (byte : UInt8) : Bool := 48 ≤ byte && byte ≤ 57

def decimalOf (digits : List UInt8) : Nat :=
  digits.foldl (fun number byte => number * 10 + (byte.toNat - 48)) 0

def readRecords : Nat → List UInt8 → Option (List (List UInt8 × List UInt8))
  | 0, bytes => if bytes.isEmpty then some [] else none
  | fuel + 1, bytes =>
      if bytes.isEmpty then some []
      else
        let digits := bytes.takeWhile isAsciiDigit
        let length := decimalOf digits
        let body := (bytes.take length).drop (digits.length + 1)
        let key := body.takeWhile (· != 61)
        let value := (body.drop (key.length + 1)).dropLast
        if length ≤ digits.length + 1 then none
        else (readRecords fuel (bytes.drop length)).map ((key, value) :: ·)

def recordFor (key : String) (records : List (List UInt8 × List UInt8)) : Option (List UInt8) :=
  records.reverse.lookup (Text.utf8 key)

/-- The files from here on, with the records that were read before the next header. -/
def membersFrom (records : List (List UInt8 × List UInt8)) :
    Nat → List UInt8 → Option (List ArchiveMember)
  | 0, _ => none
  | fuel + 1, bytes => do
      let block := bytes.take blockSize
      if isEmptyBlock block then return []
      let head ← readHeader block
      let rest := bytes.drop blockSize
      if head.kind = 120 then
        let extra ← readRecords head.size (rest.take head.size)
        membersFrom extra fuel (rest.drop (head.size + (padding blockSize head.size).length))
      else if head.kind = 48 then
        let size := ((recordFor "size" records).map decimalOf).getD head.size
        let name ← (Text.ofUtf8 ((recordFor "path" records).getD head.name)).toOption
        let later ← membersFrom [] fuel (rest.drop (size + (padding blockSize size).length))
        return { name, mode := head.mode, content := rest.take size } :: later
      else none

def read (bytes : List UInt8) : Option (List ArchiveMember) :=
  membersFrom [] (bytes.length / blockSize + 1) bytes

end FixtureImages.Archive
