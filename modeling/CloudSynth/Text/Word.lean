import CloudSynth.Text.WordTable

/-!
# Words

A word is a run of word characters; it ends where the next character is none, or at the end of
the text.
-/

namespace CloudSynth.Text

/-- The character may stand in a word. -/
def isWord (character : Char) : Bool := wordCharacters.contains character

/-- A word that has just been read ends here. -/
def endsWord : List Char → Bool
  | [] => true
  | character :: _ => !isWord character

end CloudSynth.Text
