/-!
# Sets of characters

Character classes are data: inclusive ranges of code points in ascending order.
-/

namespace CloudSynth.Text

/-- Inclusive ranges of code points. -/
abbrev CharSet := List (Nat × Nat)

/-- Some range of the set holds the character. -/
def CharSet.contains (set : CharSet) (character : Char) : Bool :=
  set.any fun range => range.1 ≤ character.toNat && character.toNat ≤ range.2

theorem CharSet.contains_iff {set : CharSet} {character : Char} :
    set.contains character = true ↔
      ∃ range ∈ set, range.1 ≤ character.toNat ∧ character.toNat ≤ range.2 := by
  simp [contains]

end CloudSynth.Text
