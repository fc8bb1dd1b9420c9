import CloudSynth.Json.Basic

/-!
# Text of structured values

The compact text of a value: no blanks, names and texts quoted. A quote, a backslash and the five
common control characters have short escapes, other control characters are written by their code,
and everything else stands for itself.
-/

namespace CloudSynth.Json

/-- The hexadecimal digit of a number below sixteen, in lower case. -/
def hexDigit (value : Nat) : Char :=
  if value < 10 then Char.ofNat ('0'.toNat + value) else Char.ofNat ('a'.toNat + (value - 10))

/-- How a character stands inside quotes. -/
def escaped (character : Char) : List Char :=
  if character = '"' then ['\\', '"']
  else if character = '\\' then ['\\', '\\']
  else if character = '\x08' then ['\\', 'b']
  else if character = '\x0c' then ['\\', 'f']
  else if character = '\n' then ['\\', 'n']
  else if character = '\r' then ['\\', 'r']
  else if character = '\t' then ['\\', 't']
  else if character.toNat < 0x20 then
    ['\\', 'u', '0', '0', hexDigit (character.toNat / 16), hexDigit (character.toNat % 16)]
  else [character]

/-- A text in quotes. -/
def quoted (text : List Char) : List Char := '"' :: text.flatMap escaped ++ ['"']

mutual

/-- The compact text of a value. -/
def print : Json → List Char
  | .null => "null".toList
  | .boolean value => (if value then "true" else "false").toList
  | .integer value => (toString value).toList
  | .decimal literal => literal.toList
  | .text value => quoted value.toList
  | .list items => '[' :: printItems items ++ [']']
  | .object fields => '{' :: printFields fields ++ ['}']

/-- The items with commas between them. -/
def printItems : List Json → List Char
  | [] => []
  | [item] => print item
  | item :: next :: rest => print item ++ ',' :: printItems (next :: rest)

/-- The named values with commas between them. -/
def printFields : List (String × Json) → List Char
  | [] => []
  | [(name, value)] => quoted name.toList ++ ':' :: print value
  | (name, value) :: next :: rest =>
    quoted name.toList ++ ':' :: print value ++ ',' :: printFields (next :: rest)

end

/-- The compact text of a value. -/
def render (value : Json) : String := String.ofList value.print

end CloudSynth.Json
