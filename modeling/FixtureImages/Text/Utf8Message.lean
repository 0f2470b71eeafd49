import FixtureImages.Text.Quoted

/-!
# Messages about bytes that are not UTF-8

Each names the bytes that cannot be read and where they are.
-/

namespace FixtureImages.Text

set_option autoImplicit false

def Utf8Defect.reason : Utf8Defect → String
  | .start => "invalid start byte"
  | .continuation => "invalid continuation byte"
  | .truncated => "unexpected end of data"

def byteMessage (byte : UInt8) (offset : Nat) (reason : String) : String :=
  "'utf-8' codec can't decode byte 0x" ++ String.ofList (hexDigits 2 byte.toNat) ++
    " in position " ++ toString offset ++ ": " ++ reason

/-- The message with the reason and all bytes that the defect covers. -/
def Utf8Fault.message (fault : Utf8Fault) : String :=
  if fault.length ≤ 1 then byteMessage fault.first fault.offset fault.defect.reason
  else
    "'utf-8' codec can't decode bytes in position " ++ toString fault.offset ++ "-" ++
      toString (fault.offset + fault.length - 1) ++ ": " ++ fault.defect.reason

/-- The message that names only the first byte and gives no reason. -/
def Utf8Fault.briefMessage (fault : Utf8Fault) : String :=
  byteMessage fault.first fault.offset "invalid utf-8"

end FixtureImages.Text
