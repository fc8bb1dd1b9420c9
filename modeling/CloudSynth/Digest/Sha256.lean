import CloudSynth.Json.Printer

/-!
# SHA-256

The digest of a sequence of bytes: the message is padded to blocks of sixteen words, and each
block is mixed into eight words of state by sixty-four rounds.
-/

namespace CloudSynth.Digest

/-- The eight words of state. -/
structure Words where
  a : UInt32
  b : UInt32
  c : UInt32
  d : UInt32
  e : UInt32
  f : UInt32
  g : UInt32
  h : UInt32

/-- The state before the first block: fractions of the square roots of the first eight primes. -/
def initial : Words :=
  ⟨0x6a09e667, 0xbb67ae85, 0x3c6ef372, 0xa54ff53a,
   0x510e527f, 0x9b05688c, 0x1f83d9ab, 0x5be0cd19⟩

/-- One word for each round: fractions of the cube roots of the first sixty-four primes. -/
def roundWords : List UInt32 :=
  [0x428a2f98, 0x71374491, 0xb5c0fbcf, 0xe9b5dba5, 0x3956c25b, 0x59f111f1, 0x923f82a4, 0xab1c5ed5,
   0xd807aa98, 0x12835b01, 0x243185be, 0x550c7dc3, 0x72be5d74, 0x80deb1fe, 0x9bdc06a7, 0xc19bf174,
   0xe49b69c1, 0xefbe4786, 0x0fc19dc6, 0x240ca1cc, 0x2de92c6f, 0x4a7484aa, 0x5cb0a9dc, 0x76f988da,
   0x983e5152, 0xa831c66d, 0xb00327c8, 0xbf597fc7, 0xc6e00bf3, 0xd5a79147, 0x06ca6351, 0x14292967,
   0x27b70a85, 0x2e1b2138, 0x4d2c6dfc, 0x53380d13, 0x650a7354, 0x766a0abb, 0x81c2c92e, 0x92722c85,
   0xa2bfe8a1, 0xa81a664b, 0xc24b8b70, 0xc76c51a3, 0xd192e819, 0xd6990624, 0xf40e3585, 0x106aa070,
   0x19a4c116, 0x1e376c08, 0x2748774c, 0x34b0bcb5, 0x391c0cb3, 0x4ed8aa4a, 0x5b9cca4f, 0x682e6ff3,
   0x748f82ee, 0x78a5636f, 0x84c87814, 0x8cc70208, 0x90befffa, 0xa4506ceb, 0xbef9a3f7, 0xc67178f2]

/-- The word with its bits moved to the right, those that fall out coming back on the left. -/
def rotated (word amount : UInt32) : UInt32 := (word >>> amount) ||| (word <<< (32 - amount))

/-- The next word of a block's schedule, from the words before it, latest first. -/
def nextWord : List UInt32 → UInt32
  | _ :: w2 :: _ :: _ :: _ :: _ :: w7 :: _ :: _ :: _ :: _ :: _ :: _ :: _ :: w15 :: w16 :: _ =>
    w16 + (rotated w15 7 ^^^ rotated w15 18 ^^^ (w15 >>> 3)) + w7 +
      (rotated w2 17 ^^^ rotated w2 19 ^^^ (w2 >>> 10))
  | _ => 0

/-- The sixteen words of a block followed by `count` more, latest first. -/
def schedule (block : List UInt32) : Nat → List UInt32
  | 0 => block.reverse
  | count + 1 => let words := schedule block count; nextWord words :: words

/-- One round. -/
def round (state : Words) (constant word : UInt32) : Words :=
  let first := state.h + (rotated state.e 6 ^^^ rotated state.e 11 ^^^ rotated state.e 25) +
    ((state.e &&& state.f) ^^^ (~~~state.e &&& state.g)) + constant + word
  let second := (rotated state.a 2 ^^^ rotated state.a 13 ^^^ rotated state.a 22) +
    ((state.a &&& state.b) ^^^ (state.a &&& state.c) ^^^ (state.b &&& state.c))
  ⟨first + second, state.a, state.b, state.c, state.d + first, state.e, state.f, state.g⟩

/-- The state after a block. -/
def absorb (state : Words) (block : List UInt32) : Words :=
  let mixed := (roundWords.zip (schedule block 48).reverse).foldl
    (fun state words => round state words.1 words.2) state
  ⟨state.a + mixed.a, state.b + mixed.b, state.c + mixed.c, state.d + mixed.d,
   state.e + mixed.e, state.f + mixed.f, state.g + mixed.g, state.h + mixed.h⟩

/-- The bytes of a number, most significant first. -/
def bytesOf (value : Nat) : Nat → List UInt8
  | 0 => []
  | count + 1 => UInt8.ofNat (value / Nat.pow 256 count) :: bytesOf value count

/-- The message, a one bit, zeros, and the length of the message in bits. -/
def padded (message : List UInt8) : List UInt8 :=
  message ++ 0x80 :: List.replicate ((119 - message.length % 64) % 64) 0 ++
    bytesOf (8 * message.length) 8

/-- Four bytes at a time as words. -/
def wordsOf : List UInt8 → List UInt32
  | a :: b :: c :: d :: rest =>
    ((a.toUInt32 <<< 24) ||| (b.toUInt32 <<< 16) ||| (c.toUInt32 <<< 8) ||| d.toUInt32) ::
      wordsOf rest
  | _ => []

/-- The state after `count` blocks of sixteen words. -/
def absorbBlocks (state : Words) (words : List UInt32) : Nat → Words
  | 0 => state
  | count + 1 => absorbBlocks (absorb state (words.take 16)) (words.drop 16) count

/-- The SHA-256 digest of a message. -/
def sha256 (message : List UInt8) : List UInt8 :=
  let words := wordsOf (padded message)
  let state := absorbBlocks initial words (words.length / 16)
  [state.a, state.b, state.c, state.d, state.e, state.f, state.g, state.h].flatMap
    fun word => bytesOf word.toNat 4

/-- Bytes in hexadecimal digits, two a byte. -/
def hex (bytes : List UInt8) : List Char :=
  bytes.flatMap fun byte => [Json.hexDigit (byte.toNat / 16), Json.hexDigit (byte.toNat % 16)]

end CloudSynth.Digest
