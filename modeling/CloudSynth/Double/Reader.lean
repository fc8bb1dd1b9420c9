import CloudSynth.Double.Basic
import CloudSynth.Text.Digits

/-!
# Reading floating-point numbers

A decimal number is read as the nearest number of double precision; of two that are equally near,
the one with the even significand is taken.
-/

namespace CloudSynth.Double

/-- A quotient rounded to the nearest natural number, a tie going to the even one. -/
def roundedQuotient (numerator denominator : Nat) : Nat :=
  let quotient := numerator / denominator
  let twice := 2 * (numerator % denominator)
  if twice < denominator then quotient
  else if denominator < twice then quotient + 1
  else quotient + quotient % 2

/-- The nearest number to a positive quotient. -/
def ofQuotient (negative : Bool) (numerator denominator : Nat) : Double :=
  let quotientAt (exponent : Int) : Nat × Nat :=
    if 0 ≤ exponent then (numerator, denominator * Nat.pow 2 exponent.toNat)
    else (numerator * Nat.pow 2 (-exponent).toNat, denominator)
  let first : Int := (numerator.log2 : Int) - denominator.log2 - precision
  let exponent :=
    let (above, below) := quotientAt first
    if above < below * Nat.pow 2 precision then first else first + 1
  let exponent := max exponent leastExponent
  let (above, below) := quotientAt exponent
  let significand := roundedQuotient above below
  let (significand, exponent) :=
    if significand = Nat.pow 2 precision then (Nat.pow 2 (precision - 1), exponent + 1)
    else (significand, exponent)
  if greatestExponent < exponent then .infinite negative
  else .finite negative significand exponent

/-- The nearest number to `digits * 10 ^ exponent`, where `digits` is written with `width` digits. -/
def ofDecimal (negative : Bool) (digits width : Nat) (exponent : Int) : Double :=
  if digits = 0 then .finite negative 0 leastExponent
  else if exponent + width < -400 then .finite negative 0 leastExponent
  else if 400 < exponent then .infinite negative
  else if 0 ≤ exponent then ofQuotient negative (digits * Nat.pow 10 exponent.toNat) 1
  else ofQuotient negative digits (Nat.pow 10 (-exponent).toNat)

/-- An optional sign and the rest of the text. -/
def takeSign : List Char → Bool × List Char
  | '-' :: rest => (true, rest)
  | '+' :: rest => (false, rest)
  | text => (false, text)

/-- The exponent at the end of a number: nothing, or a mark with a sign and digits. -/
def exponentOf? : List Char → Option Int
  | [] => some 0
  | mark :: rest =>
    if mark = 'e' ∨ mark = 'E' then
      let (negative, digits) := takeSign rest
      if digits ≠ [] ∧ digits.all Char.isDigit then
        let magnitude : Int := Text.naturalOfDigits digits
        some (if negative then -magnitude else magnitude)
      else none
    else none

/-- The number that a text without sign stands for. -/
def unsigned? (negative : Bool) (text : List Char) : Option Double :=
  let name := text.map Char.toLower
  if name = "nan".toList then some .notANumber
  else if name = "inf".toList ∨ name = "infinity".toList then some (.infinite negative)
  else
    let whole := text.takeWhile Char.isDigit
    let afterWhole := text.dropWhile Char.isDigit
    let (fraction, afterFraction) :=
      match afterWhole with
      | '.' :: rest => (rest.takeWhile Char.isDigit, rest.dropWhile Char.isDigit)
      | _ => ([], afterWhole)
    let digits := whole ++ fraction
    if digits = [] then none
    else (exponentOf? afterFraction).map fun exponent =>
      ofDecimal negative (Text.naturalOfDigits digits) digits.length (exponent - fraction.length)

/-- Reads a number: a decimal one with optional sign, fraction and exponent, or the name of a
number that no digits stand for. -/
def read? (text : String) : Option Double :=
  let (negative, rest) := takeSign text.toList
  unsigned? negative rest

end CloudSynth.Double
