import CloudSynth.Text.CaseTable

/-!
# Upper and lower case

Case conversion of whole texts. One character may become several (`ß` becomes `SS`), and a capital
sigma at the end of a word becomes the final form.
-/

namespace CloudSynth.Text

/-- The other case of a character: its own long form, else the shift of the run that covers it. -/
def otherCase (runs : List CaseRun) (long : List (Nat × List Nat)) (character : Char) :
    List Char :=
  match long.lookup character.toNat with
  | some codes => codes.map Char.ofNat
  | none =>
    match runs.find? (·.covers character.toNat) with
    | some run => [Char.ofNat (character.toNat + run.shift).toNat]
    | none => [character]

/-- The upper case of one character. -/
def upperCharacter : Char → List Char := otherCase upperRuns longUpper

/-- The lower case of one character, wherever it stands. -/
def lowerCharacter : Char → List Char := otherCase lowerRuns longLower

/-- The first character that is not skipped has a case. -/
def meetsCased (text : List Char) : Bool :=
  match text.dropWhile caseIgnorableCharacters.contains with
  | [] => false
  | character :: _ => casedCharacters.contains character

/-- Lower case of a text whose part `before` (nearest character first) has been passed. -/
def lowerAfter (before : List Char) : List Char → List Char
  | [] => []
  | character :: rest =>
    (if character = 'Σ' then
        (if meetsCased before && !meetsCased rest then ['ς'] else ['σ'])
      else lowerCharacter character) ++ lowerAfter (character :: before) rest

/-- The text in lower case. -/
def lower (text : List Char) : List Char := lowerAfter [] text

/-- The text in upper case. -/
def upper (text : List Char) : List Char := text.flatMap upperCharacter

/-- The text with its first character in upper case. -/
def capitalize : List Char → List Char
  | [] => []
  | first :: rest => upperCharacter first ++ rest

end CloudSynth.Text
