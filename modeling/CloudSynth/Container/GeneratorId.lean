/-!
# Identities of generators

A generator is known by a number of 128 bits. It is written with twenty-six characters of an
alphabet of thirty-two that has no letters easily mistaken for digits.
-/

namespace CloudSynth

/-- The identity of a generator. -/
structure GeneratorId where
  value : Nat
  deriving DecidableEq, Repr, Inhabited

namespace GeneratorId

/-- Digits and capital letters without I, L, O and U. -/
def alphabet : List Char := "0123456789ABCDEFGHJKMNPQRSTVWXYZ".toList

/-- The number written with `count` characters, most significant first. -/
def characters (value : Nat) : Nat → List Char
  | 0 => []
  | count + 1 => alphabet.getD (value / Nat.pow 32 count % 32) '0' :: characters value count

/-- The written form. -/
def print (id : GeneratorId) : String := String.ofList (characters id.value 26)

end GeneratorId

end CloudSynth
