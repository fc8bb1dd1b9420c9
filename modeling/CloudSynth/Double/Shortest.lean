import CloudSynth.Double.Basic

/-!
# Shortest decimal form

The fewest decimal digits from which a floating-point number can be read back. The reals that are
read as a number form an interval around it, whose ends belong to it when the significand is even.
On each grid of decimal numbers, from coarse to fine, the two neighbours of the number are tried;
the first grid that has one inside the interval gives the digits, and of two inside the interval
the nearer one is taken.
-/

namespace CloudSynth.Double

/-- The number `digits * 10 ^ exponent`. -/
structure DecimalForm where
  digits : Nat
  exponent : Int
  deriving DecidableEq, Repr

/-- How many decimal digits a natural number is written with. -/
def digitCount (value : Nat) : Nat := (Nat.toDigits 10 value).length

/-- The least power of ten above the quotient. -/
def decimalMagnitude (numerator denominator : Nat) : Int :=
  let estimate : Int := (digitCount numerator : Int) - digitCount denominator
  let below :=
    if 0 ≤ estimate then numerator < denominator * Nat.pow 10 estimate.toNat
    else numerator * Nat.pow 10 (-estimate).toNat < denominator
  if below then estimate else estimate + 1

/-- The neighbour of `significand * 2 ^ exponent` on the grid of multiples of `10 ^ grid` that is
read back as this number: the nearer of two, the upper of two that are equally near. -/
def neighbourOnGrid? (significand : Nat) (exponent grid : Int) (isLeast : Bool) : Option Nat :=
  -- all quantities are multiples of `10 ^ min 0 grid * 2 ^ min 0 (exponent - 2)`
  let tens := Nat.pow 10 (-grid).toNat
  let twos := Nat.pow 2 (2 - exponent).toNat
  let step := Nat.pow 10 grid.toNat * twos
  let quarter := Nat.pow 2 (exponent - 2).toNat * tens
  let value := 4 * significand * quarter
  let lower := (4 * significand - (if isLeast then 1 else 2)) * quarter
  let upper := (4 * significand + 2) * quarter
  let closed := significand % 2 = 0
  let inside (point : Nat) : Bool :=
    if closed then lower ≤ point && point ≤ upper else lower < point && point < upper
  let down := value / step
  let up := down + 1
  match inside (down * step), inside (up * step) with
  | true, true => some (if 2 * value < (2 * down + 1) * step then down else up)
  | true, false => some down
  | false, true => some up
  | false, false => none

/-- The shortest decimal form of `significand * 2 ^ exponent`, for a positive significand. -/
def shortest (significand : Nat) (exponent : Int) : DecimalForm :=
  let magnitude :=
    if 0 ≤ exponent then decimalMagnitude (significand * Nat.pow 2 exponent.toNat) 1
    else decimalMagnitude significand (Nat.pow 2 (-exponent).toNat)
  let isLeast := significand = Nat.pow 2 (precision - 1) ∧ leastExponent < exponent
  let found := (List.range 17).findSome? fun index =>
    let grid := magnitude - (index + 1 : Nat)
    (neighbourOnGrid? significand exponent grid isLeast).map fun digits =>
      (⟨digits, grid⟩ : DecimalForm)
  found.getD ⟨significand, exponent⟩

end CloudSynth.Double
