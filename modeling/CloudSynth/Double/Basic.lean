/-!
# Floating-point numbers

A number of double precision is not a number, infinite, or a significand times a power of two. The
sign of zero is kept, because it is written.
-/

namespace CloudSynth

/-- A floating-point number: `finite negative significand exponent` is
`± significand * 2 ^ exponent`. -/
inductive Double
  | notANumber
  | infinite (negative : Bool)
  | finite (negative : Bool) (significand : Nat) (exponent : Int)
  deriving DecidableEq, Repr, Inhabited

namespace Double

/-- The bits of a significand. -/
def precision : Nat := 53

/-- The exponent of the smallest numbers. -/
def leastExponent : Int := -1074

/-- The exponent of the largest numbers. -/
def greatestExponent : Int := 971

/-- The integer that the number is equal to, if there is one. -/
def asInteger? : Double → Option Int
  | .notANumber | .infinite _ => none
  | .finite negative significand exponent =>
    let scaled : Option Nat :=
      if 0 ≤ exponent then some (significand * Nat.pow 2 exponent.toNat)
      else
        let unit := Nat.pow 2 (-exponent).toNat
        if significand % unit = 0 then some (significand / unit) else none
    scaled.map fun magnitude => if negative then -(magnitude : Int) else magnitude

/-- The natural number between `least` and `greatest` that the number is equal to. -/
def wholeBetween? (least greatest : Nat) (number : Double) : Option Nat :=
  match number.asInteger? with
  | some value =>
    if (least : Int) ≤ value ∧ value ≤ greatest then some value.toNat else none
  | none => none

end Double

end CloudSynth
