import Mathlib.Tactic.SplitIfs
import CloudSynth.Json.TextList

/-!
# Written lists of texts are read back

The reader of lists passes over a written list with a state that the printer determines: after every
item it has the items so far, and inside an item it has the characters so far, whatever escapes they
were written with. So a list that was written is read back as it was
(`Json.decodeTexts_encodeTexts`), which is what outputs rely on when they append to a list in a
field.
-/

namespace CloudSynth.Json

namespace TextList

theorem hexValue?_hexDigit {value : Nat} (small : value < 16) :
    hexValue? (hexDigit value) = some value := by
  have every : ∀ value, value < 16 → hexValue? (hexDigit value) = some value := by decide
  exact every value small

theorem read_code (items : List String) (read : List Char) {character : Char}
    (control : character.toNat < 0x20) :
    ['\\', 'u', '0', '0', hexDigit (character.toNat / 16),
        hexDigit (character.toNat % 16)].foldlM step ⟨items, .inside ⟨read, none⟩⟩ =
      some ⟨items, .inside ⟨read ++ [character], none⟩⟩ := by
  have high : hexValue? (hexDigit (character.toNat / 16)) = some (character.toNat / 16) :=
    hexValue?_hexDigit (by omega)
  have low : hexValue? (hexDigit (character.toNat % 16)) = some (character.toNat % 16) :=
    hexValue?_hexDigit (by omega)
  have zero : hexValue? '0' = some 0 := by decide
  have whole : character.toNat / 16 * 16 + character.toNat % 16 = character.toNat := by omega
  have unit : (Partial.mk read none).pushUnit character.toNat =
      some ⟨read ++ [character], none⟩ := by
    have notHigh : ¬ (0xD800 ≤ character.toNat ∧ character.toNat ≤ 0xDBFF) := by omega
    have notLow : ¬ (0xDC00 ≤ character.toNat ∧ character.toNat ≤ 0xDFFF) := by omega
    simp only [Partial.pushUnit, if_neg notHigh, if_neg notLow, Char.ofNat_toNat]
  simp [List.foldlM, step, high, low, zero, whole, unit]

/-- A character that was written is read as itself. -/
theorem read_escaped (items : List String) (read : List Char) (character : Char) :
    (escaped character).foldlM step ⟨items, .inside ⟨read, none⟩⟩ =
      some ⟨items, .inside ⟨read ++ [character], none⟩⟩ := by
  unfold escaped
  split_ifs with quote backslash backspace formFeed lineFeed carriage tab control
  · subst quote; rfl
  · subst backslash; rfl
  · subst backspace; rfl
  · subst formFeed; rfl
  · subst lineFeed; rfl
  · subst carriage; rfl
  · subst tab; rfl
  · exact read_code items read control
  · simp [List.foldlM, step, quote, backslash, control, Partial.push]

theorem read_characters (items : List String) (read text : List Char) :
    (text.flatMap escaped).foldlM step ⟨items, .inside ⟨read, none⟩⟩ =
      some ⟨items, .inside ⟨read ++ text, none⟩⟩ := by
  induction text generalizing read with
  | nil => simp
  | cons character rest ih =>
      rw [List.flatMap_cons, List.foldlM_append, read_escaped]
      simp [ih]

/-- The reader stands where an item may begin. -/
def Position.BeginsItem (position : Position) : Prop :=
  position = .beforeFirst ∨ position = .beforeNext

theorem read_quoted (items : List String) {position : Position} (begins : position.BeginsItem)
    (text : String) :
    (quoted text.toList).foldlM step ⟨items, position⟩ = some ⟨items ++ [text], .afterItem⟩ := by
  have opened : step ⟨items, position⟩ '"' = some ⟨items, .inside ⟨[], none⟩⟩ := by
    rcases begins with rfl | rfl <;> rfl
  rw [quoted, List.cons_append, List.foldlM_cons, opened, Option.bind_eq_bind, Option.bind_some,
    List.foldlM_append, read_characters]
  simp [step]

theorem read_items (items : List String) {position : Position} (begins : position.BeginsItem)
    (first : String) (rest : List String) :
    (printItems ((first :: rest).map .text)).foldlM step ⟨items, position⟩ =
      some ⟨items ++ first :: rest, .afterItem⟩ := by
  induction rest generalizing items position first with
  | nil => simpa [printItems, print] using read_quoted items begins first
  | cons next rest ih =>
      have comma : step ⟨items ++ [first], .afterItem⟩ ',' =
          some ⟨items ++ [first], .beforeNext⟩ := rfl
      have others := ih (items ++ [first]) (Or.inr rfl : Position.BeginsItem .beforeNext) next
      simp only [List.map_cons, printItems, print] at others ⊢
      rw [List.foldlM_append, read_quoted items begins first]
      simp only [Option.bind_eq_bind, Option.bind_some, List.foldlM_cons, comma, others,
        List.append_assoc, List.singleton_append]

end TextList

/-- A list of texts that was written is read back. -/
@[simp]
theorem decodeTexts_encodeTexts (values : List String) :
    decodeTexts (encodeTexts values) = values := by
  cases values with
  | nil => rfl
  | cons first rest =>
      have items := TextList.read_items [] (Or.inl rfl : TextList.Position.BeginsItem .beforeFirst)
        first rest
      have opened : TextList.step ⟨[], .beforeList⟩ '[' = some ⟨[], .beforeFirst⟩ := rfl
      simp only [decodeTexts, encodeTexts, render, texts, print, TextList.read?,
        String.toList_ofList, List.cons_append, List.foldlM_cons, List.foldlM_append, opened, items,
        Option.bind_eq_bind, Option.bind_some]
      rfl

end CloudSynth.Json
