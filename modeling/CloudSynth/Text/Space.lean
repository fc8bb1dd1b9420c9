import CloudSynth.Text.CharSet

/-!
# White space

Which characters are blank, and the two readings of a text that depend on it: the text without
the blanks around it, and its blank-separated fields.
-/

namespace CloudSynth.Text

/-- Tabs, line ends, spaces of every width and the two separators. -/
def spaceCharacters : CharSet :=
  [(0x09, 0x0D), (0x20, 0x20), (0x85, 0x85), (0xA0, 0xA0), (0x1680, 0x1680), (0x2000, 0x200A),
   (0x2028, 0x2029), (0x202F, 0x202F), (0x205F, 0x205F), (0x3000, 0x3000)]

/-- The character is white space. -/
def isSpace (character : Char) : Bool := spaceCharacters.contains character

/-- The pieces between the separators; a text without separators is one piece. -/
def pieces (isSeparator : Char → Bool) : List Char → List (List Char)
  | [] => [[]]
  | character :: rest =>
    if isSeparator character then [] :: pieces isSeparator rest
    else match pieces isSeparator rest with
      | [] => [[character]]
      | piece :: others => (character :: piece) :: others

/-- The text without the blanks at its two ends. -/
def trim (text : List Char) : List Char :=
  ((text.dropWhile isSpace).reverse.dropWhile isSpace).reverse

/-- The non-empty runs of characters that are not blank. -/
def fields (text : List Char) : List (List Char) :=
  (pieces isSpace text).filter (· ≠ [])

end CloudSynth.Text
