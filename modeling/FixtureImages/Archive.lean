import FixtureImages.Text.Utf8

/-!
# Archives

Files in one stream of bytes, in the extended format of POSIX. Each file has a header block of fixed
fields and its content padded to whole blocks. A name that is not ASCII, or longer than its field,
and a size too large for its field are written in a record before the header. Two empty blocks end
the archive, which is padded to a whole number of records.
-/

namespace FixtureImages

set_option autoImplicit false

/-- A regular file of an archive. -/
structure ArchiveMember where
  name : String
  mode : Nat
  content : List UInt8
deriving DecidableEq

namespace Archive

def blockSize : Nat := 512

def recordSize : Nat := 10240

def nameSize : Nat := 100

/-- The least size that does not fit its field, which has eleven octal digits. -/
def sizeLimit : Nat := Nat.pow 8 11

def zeros (count : Nat) : List UInt8 := List.replicate count 0

/-- The padding behind so many bytes up to a multiple of a unit. -/
def padding (unit length : Nat) : List UInt8 := zeros ((unit - length % unit) % unit)

def padTo (unit : Nat) (bytes : List UInt8) : List UInt8 := bytes ++ padding unit bytes.length

/-- The last octal digits of a number. -/
def octal (width n : Nat) : List UInt8 :=
  match width with
  | 0 => []
  | width + 1 => octal width (n / 8) ++ [UInt8.ofNat (48 + n % 8)]

/-- A number in a field: octal digits and an end mark. Of a number that does not fit the last digits
are written, where a writer of the format would refuse it. -/
def numberField (width n : Nat) : List UInt8 := octal (width - 1) n ++ [0]

/-- A text in a field, cut or filled up. Characters outside ASCII become question marks. -/
def textField (width : Nat) (text : String) : List UInt8 :=
  let bytes := (text.toList.take width).map fun c =>
    if c.toNat < 0x80 then UInt8.ofNat c.toNat else UInt8.ofNat 63
  bytes ++ zeros (width - bytes.length)

def byteSum (bytes : List UInt8) : Nat := bytes.foldr (fun byte sum => byte.toNat + sum) 0

/-- A header block. The check sum is taken with spaces in its place. -/
def header (name : String) (mode size : Nat) (kind : Char) : List UInt8 :=
  let front :=
    textField nameSize name ++ numberField 8 mode ++ numberField 8 0 ++ numberField 8 0 ++
      numberField 12 size ++ numberField 12 0
  let back :=
    textField 1 (String.singleton kind) ++ zeros 100 ++ textField 6 "ustar" ++ textField 2 "00" ++
      zeros 247
  let sum := byteSum front + 8 * 32 + byteSum back
  front ++ numberField 7 sum ++ [32] ++ back

/-- The length of a record with so many bytes beside its own length: the number that counts its own
digits too. -/
def recordLength (others : Nat) : Nat :=
  let next (guess : Nat) : Nat := others + (toString guess).length
  next (next (next (next 0)))

/-- A record: its length, a key and a value. -/
def record (key value : String) : List UInt8 :=
  let body := Text.utf8 (" " ++ key ++ "=" ++ value ++ "\n")
  Text.utf8 (toString (recordLength body.length)) ++ body

def needsNameRecord (name : String) : Bool :=
  name.toList.any (0x80 ≤ ·.toNat) || nameSize < name.toList.length

/-- The records that a file needs. -/
def records (member : ArchiveMember) : List UInt8 :=
  let size := member.content.length
  (if needsNameRecord member.name then record "path" member.name else []) ++
    (if size < sizeLimit then [] else record "size" (toString size))

def memberBytes (member : ArchiveMember) : List UInt8 :=
  let extra := records member
  let size := member.content.length
  (if extra.isEmpty then []
    else header "././@PaxHeader" 0 extra.length 'x' ++ padTo blockSize extra) ++
    header member.name member.mode (if size < sizeLimit then size else 0) '0' ++
    padTo blockSize member.content

def write (members : List ArchiveMember) : List UInt8 :=
  padTo recordSize (members.flatMap memberBytes ++ zeros (2 * blockSize))

/-- The archive of registrations, one file for each service. -/
def ofRegistrations (registrations : List (String × String)) : List UInt8 :=
  write <| registrations.map fun registration =>
    { name := "commander/appservice/" ++ registration.1 ++ ".yaml"
      mode := 420
      content := Text.utf8 registration.2 }

end Archive

end FixtureImages
