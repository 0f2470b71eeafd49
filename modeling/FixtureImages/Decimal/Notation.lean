import FixtureImages.Decimal.Shortest

/-!
# Decimal notation

How a binary64 number is written: the shortest digits that read back, with a point, positional when
the exponent of the leading digit is from -4 to 15, and otherwise with an exponent of a sign and at
least two digits.
-/

namespace FixtureImages.Binary64

set_option autoImplicit false

/-- The exponent after its mark: a sign and at least two digits. -/
def exponentText (exponent : Int) : String :=
  let digits := toString exponent.natAbs
  (if exponent < 0 then "e-" else "e+") ++ (if digits.length < 2 then "0" ++ digits else digits)

def Decimal.text (decimal : Decimal) : String :=
  let digits := (toString decimal.digits).toList
  let leading := decimal.scale + ((digits.length : Int) - 1)
  if leading < -4 ∨ 16 ≤ leading then
    let fraction := digits.drop 1
    String.ofList (digits.take 1) ++
      (if fraction.isEmpty then "" else "." ++ String.ofList fraction) ++ exponentText leading
  else if 0 ≤ decimal.scale then
    String.ofList (digits ++ List.replicate decimal.scale.toNat '0') ++ ".0"
  else if 0 ≤ leading then
    let whole := leading.toNat + 1
    String.ofList (digits.take whole) ++ "." ++ String.ofList (digits.drop whole)
  else
    "0." ++ String.ofList (List.replicate ((-leading).toNat - 1) '0' ++ digits)

def text : Binary64 → String
  | .nan => "nan"
  | .infinite negative => if negative then "-inf" else "inf"
  | .finite negative significand exponent =>
      (if negative then "-" else "") ++
        (if significand = 0 then "0.0" else (shortest significand exponent).text)

end FixtureImages.Binary64
