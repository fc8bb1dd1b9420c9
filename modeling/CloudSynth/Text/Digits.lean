/-!
# Decimal digits

The number that a sequence of decimal digits stands for; zeros in front do not matter.
-/

namespace CloudSynth.Text

/-- The number that decimal digits stand for. -/
def naturalOfDigits (digits : List Char) : Nat :=
  digits.foldl (fun value digit => value * 10 + (digit.toNat - '0'.toNat)) 0

end CloudSynth.Text
