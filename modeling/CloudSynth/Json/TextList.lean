import CloudSynth.Json.Printer

/-!
# Lists of texts

Reading back a list of texts from its written form. The reader passes over the characters once,
keeping the items it has finished, the text it is in, and what may come next. Blanks may stand
around every bracket, comma and quoted text; anything else than a list of quoted texts is refused.
-/

namespace CloudSynth.Json.TextList

/-- The part of a quoted text that has been read. A high surrogate waits for its low one. -/
structure Partial where
  characters : List Char
  high : Option Nat

/-- One more character. -/
def Partial.push (part : Partial) (character : Char) : Option Partial :=
  match part.high with
  | some _ => none
  | none => some ⟨part.characters ++ [character], none⟩

/-- One more code unit, written by its number. -/
def Partial.pushUnit (part : Partial) (code : Nat) : Option Partial :=
  match part.high with
  | some high =>
    if 0xDC00 ≤ code ∧ code ≤ 0xDFFF then
      some ⟨part.characters ++
        [Char.ofNat (0x10000 + (high - 0xD800) * 0x400 + (code - 0xDC00))], none⟩
    else none
  | none =>
    if 0xD800 ≤ code ∧ code ≤ 0xDBFF then some ⟨part.characters, some code⟩
    else if 0xDC00 ≤ code ∧ code ≤ 0xDFFF then none
    else some ⟨part.characters ++ [Char.ofNat code], none⟩

/-- Where the reader stands. -/
inductive Position
  | beforeList
  | beforeFirst
  | beforeNext
  | afterItem
  | afterList
  | inside (part : Partial)
  | afterBackslash (part : Partial)
  | inCode (part : Partial) (digits : Nat) (code : Nat)

/-- The finished items and where the reader stands. -/
structure State where
  items : List String
  position : Position

/-- The blanks that may stand between the parts of a list. -/
def isBlank (character : Char) : Bool :=
  character = ' ' || character = '\t' || character = '\n' || character = '\r'

/-- The value of a hexadecimal digit. -/
def hexValue? (character : Char) : Option Nat :=
  if '0' ≤ character ∧ character ≤ '9' then some (character.toNat - '0'.toNat)
  else if 'a' ≤ character ∧ character ≤ 'f' then some (character.toNat - 'a'.toNat + 10)
  else if 'A' ≤ character ∧ character ≤ 'F' then some (character.toNat - 'A'.toNat + 10)
  else none

/-- The character that a short escape stands for. -/
def shortEscape? (character : Char) : Option Char :=
  if character = '"' then some '"'
  else if character = '\\' then some '\\'
  else if character = '/' then some '/'
  else if character = 'b' then some '\x08'
  else if character = 'f' then some '\x0c'
  else if character = 'n' then some '\n'
  else if character = 'r' then some '\r'
  else if character = 't' then some '\t'
  else none

/-- Reads one character. -/
def step (state : State) (character : Char) : Option State :=
  let goTo (position : Position) : Option State := some { state with position }
  match state.position with
  | .beforeList =>
    if isBlank character then some state
    else if character = '[' then goTo .beforeFirst else none
  | .beforeFirst =>
    if isBlank character then some state
    else if character = '"' then goTo (.inside ⟨[], none⟩)
    else if character = ']' then goTo .afterList else none
  | .beforeNext =>
    if isBlank character then some state
    else if character = '"' then goTo (.inside ⟨[], none⟩) else none
  | .afterItem =>
    if isBlank character then some state
    else if character = ',' then goTo .beforeNext
    else if character = ']' then goTo .afterList else none
  | .afterList => if isBlank character then some state else none
  | .inside part =>
    if character = '"' then
      match part.high with
      | some _ => none
      | none => some ⟨state.items ++ [String.ofList part.characters], .afterItem⟩
    else if character = '\\' then goTo (.afterBackslash part)
    else if character.toNat < 0x20 then none
    else (part.push character).bind fun part => goTo (.inside part)
  | .afterBackslash part =>
    if character = 'u' then goTo (.inCode part 0 0)
    else (shortEscape? character).bind fun plain =>
      (part.push plain).bind fun part => goTo (.inside part)
  | .inCode part digits code =>
    (hexValue? character).bind fun digit =>
      let code := code * 16 + digit
      if digits < 3 then goTo (.inCode part (digits + 1) code)
      else (part.pushUnit code).bind fun part => goTo (.inside part)

/-- The reader has passed a whole list. -/
def State.result? (state : State) : Option (List String) :=
  match state.position with
  | .afterList => some state.items
  | _ => none

/-- Reads a written list of texts. -/
def read? (written : List Char) : Option (List String) :=
  (written.foldlM step ⟨[], .beforeList⟩).bind State.result?

end TextList

/-- The texts of a written list; a text that is no such list stands for the empty list. -/
def decodeTexts (written : String) : List String :=
  (TextList.read? written.toList).getD []

/-- The written form of a list of texts. -/
def encodeTexts (values : List String) : String := (texts values).render

end CloudSynth.Json
