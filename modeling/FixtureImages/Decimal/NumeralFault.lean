import FixtureImages.Decimal.Numeral
import FixtureImages.Text.Quoted

/-!
# Messages about numerals

What is said about a text that is no integer or no decimal number.
-/

namespace FixtureImages

set_option autoImplicit false

/-- The message about a text that is no integer in a base. At most 200 characters of the text are
shown. -/
def IntegerFault.message (base : Nat) (text : String) : IntegerFault → String
  | .malformed =>
      "invalid literal for int() with base " ++ toString base ++ ": " ++
        String.ofList ((Text.quotedChars text.toList).take 200)
  | .tooLong digits =>
      "Exceeds the limit (" ++ toString digitLimit ++
        " digits) for integer string conversion: value has " ++ toString digits ++
        " digits; use sys.set_int_max_str_digits() to increase the limit"

def decimalMessage (text : String) : String :=
  "could not convert string to float: " ++ Text.quoted text

end FixtureImages
