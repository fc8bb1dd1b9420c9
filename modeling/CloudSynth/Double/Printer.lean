import CloudSynth.Double.Shortest

/-!
# Text of floating-point numbers

A number is written with its shortest digits and without an exponent, however large or small it
is. A whole number has no decimal point, and a negative zero keeps its sign.
-/

namespace CloudSynth.Double

/-- Decimal digits without the zeros at the end. -/
def withoutTrailingZeros (digits : List Char) : List Char :=
  (digits.reverse.dropWhile (· = '0')).reverse

/-- The positional text of a decimal form. -/
def DecimalForm.positional (form : DecimalForm) : List Char :=
  let digits := Nat.toDigits 10 form.digits
  if 0 ≤ form.exponent then digits ++ List.replicate form.exponent.toNat '0'
  else
    let places := (-form.exponent).toNat
    let padded := List.replicate (places + 1 - digits.length) '0' ++ digits
    let whole := padded.take (padded.length - places)
    let fraction := withoutTrailingZeros (padded.drop (padded.length - places))
    if fraction = [] then whole else whole ++ '.' :: fraction

/-- The text of a number. -/
def print : Double → String
  | .notANumber => "NaN"
  | .infinite negative => if negative then "-inf" else "inf"
  | .finite negative significand exponent =>
    let digits := if significand = 0 then ['0'] else (shortest significand exponent).positional
    String.ofList (if negative then '-' :: digits else digits)

end CloudSynth.Double
