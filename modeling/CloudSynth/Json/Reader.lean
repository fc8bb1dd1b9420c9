import CloudSynth.Json.TextList

/-!
# Reading structured values

A value is read from its text in one pass over the characters. The reader keeps the lists and
objects that it is inside of, innermost first, each with what has been read of it, and what may come
next. Blanks may stand between the parts. A quoted text is read as an item of a list of texts is
(`TextList.step`), and a number ends at the first character that cannot belong to it.
-/

namespace CloudSynth.Json.Reader

/-- A list or object that is not finished, with what has been read of it. -/
inductive Frame
  | list (items : List Json)
  /-- The value of the name comes next. -/
  | object (fields : List (String × Json)) (name : String)

/-- What a quoted text is read for: a value, or the name of a further field. -/
inductive Purpose
  | value
  | name (fields : List (String × Json))

/-- The part of a number that the last character belongs to. -/
inductive NumberPart
  | sign
  | zero
  | whole
  | point
  | fraction
  | exponent
  | exponentSign
  | power
  deriving DecidableEq

namespace NumberPart

/-- The part that the first character of a number belongs to. -/
def first? (character : Char) : Option NumberPart :=
  if character = '-' then some sign
  else if character = '0' then some zero
  else if character.isDigit then some whole
  else none

/-- The part that the next character belongs to, if the number goes on. -/
def next? (part : NumberPart) (character : Char) : Option NumberPart :=
  let marks (character : Char) : Bool := character = 'e' || character = 'E'
  match part with
  | sign => if character = '0' then some zero else if character.isDigit then some whole else none
  | zero => if character = '.' then some point else if marks character then some exponent else none
  | whole =>
    if character.isDigit then some whole
    else if character = '.' then some point
    else if marks character then some exponent else none
  | point => if character.isDigit then some fraction else none
  | fraction =>
    if character.isDigit then some fraction else if marks character then some exponent else none
  | exponent =>
    if character.isDigit then some power
    else if character = '+' || character = '-' then some exponentSign else none
  | exponentSign => if character.isDigit then some power else none
  | power => if character.isDigit then some power else none

/-- The number that ends in the part; none ends in a sign, a point or an exponent mark. -/
def number? (part : NumberPart) (literal : List Char) : Option Json :=
  match part with
  | zero | whole => (String.ofList literal).toInt?.map .integer
  | fraction | power => some (.decimal (String.ofList literal))
  | sign | point | exponent | exponentSign => none

end NumberPart

/-- What may come next. -/
inductive Position
  | value
  | listStart
  | objectStart
  | nextName (fields : List (String × Json))
  | afterName (fields : List (String × Json)) (name : String)
  | inText (purpose : Purpose) (read : TextList.State)
  | inWord (rest : List Char) (value : Json)
  | inNumber (literal : List Char) (part : NumberPart)
  | afterValue (value : Json)

/-- The unfinished lists and objects, innermost first, and what may come next. -/
structure State where
  frames : List Frame
  position : Position

/-- Behind an opening quote. -/
def openText : TextList.State := ⟨[], .inside ⟨[], none⟩⟩

/-- A quoted text has been read. -/
def Purpose.finish (frames : List Frame) (text : String) : Purpose → State
  | .value => ⟨frames, .afterValue (.text text)⟩
  | .name fields => ⟨frames, .afterName fields text⟩

/-- Reads the first character of a value. -/
def begin? (frames : List Frame) (character : Char) : Option State :=
  if character = '"' then some ⟨frames, .inText .value openText⟩
  else if character = '[' then some ⟨frames, .listStart⟩
  else if character = '\x7b' then some ⟨frames, .objectStart⟩
  else if character = 'n' then some ⟨frames, .inWord "ull".toList .null⟩
  else if character = 't' then some ⟨frames, .inWord "rue".toList (.boolean true)⟩
  else if character = 'f' then some ⟨frames, .inWord "alse".toList (.boolean false)⟩
  else (NumberPart.first? character).map fun part => ⟨frames, .inNumber [character] part⟩

/-- Reads the character behind a value. -/
def continue? (frames : List Frame) (value : Json) (character : Char) : Option State :=
  if TextList.isBlank character then some ⟨frames, .afterValue value⟩
  else match frames with
  | [] => none
  | .list items :: rest =>
    if character = ',' then some ⟨.list (items ++ [value]) :: rest, .value⟩
    else if character = ']' then some ⟨rest, .afterValue (.list (items ++ [value]))⟩
    else none
  | .object fields name :: rest =>
    if character = ',' then some ⟨rest, .nextName (fields ++ [(name, value)])⟩
    else if character = '\x7d' then some ⟨rest, .afterValue (.object (fields ++ [(name, value)]))⟩
    else none

/-- Reads one character. -/
def step (state : State) (character : Char) : Option State :=
  let blank := TextList.isBlank character
  match state.position with
  | .value => if blank then some state else begin? state.frames character
  | .listStart =>
    if blank then some state
    else if character = ']' then some ⟨state.frames, .afterValue (.list [])⟩
    else begin? (.list [] :: state.frames) character
  | .objectStart =>
    if blank then some state
    else if character = '"' then some ⟨state.frames, .inText (.name []) openText⟩
    else if character = '\x7d' then some ⟨state.frames, .afterValue (.object [])⟩
    else none
  | .nextName fields =>
    if blank then some state
    else if character = '"' then some ⟨state.frames, .inText (.name fields) openText⟩
    else none
  | .afterName fields name =>
    if blank then some state
    else if character = ':' then some ⟨.object fields name :: state.frames, .value⟩
    else none
  | .inText purpose read =>
    (TextList.step read character).map fun read =>
      match read with
      | ⟨[content], .afterItem⟩ => purpose.finish state.frames content
      | read => ⟨state.frames, .inText purpose read⟩
  | .inWord [] _ => none
  | .inWord (expected :: rest) value =>
    if character ≠ expected then none
    else if rest.isEmpty then some ⟨state.frames, .afterValue value⟩
    else some ⟨state.frames, .inWord rest value⟩
  | .inNumber literal part =>
    match part.next? character with
    | some part => some ⟨state.frames, .inNumber (literal ++ [character]) part⟩
    | none => (part.number? literal).bind fun value => continue? state.frames value character
  | .afterValue value => continue? state.frames value character

/-- The value, if a whole one has been read and nothing is left open. -/
def State.result? (state : State) : Option Json :=
  match state.frames, state.position with
  | [], .afterValue value => some value
  | [], .inNumber literal part => part.number? literal
  | _, _ => none

end Reader

/-- The value that is written in a text. -/
def read? (written : String) : Option Json :=
  (written.toList.foldlM Reader.step ⟨[], .value⟩).bind Reader.State.result?

end CloudSynth.Json
