import CloudSynth.Auth.Construct

/-!
# Occurrences of a pattern

A pattern is looked for from the left, and what follows any of its occurrences is the end of what
follows the first one (`exists_afterFirst?`). So a mark that follows some occurrence of another one
is found behind the first occurrence too, and two searches from the left find a link whenever a text
has one (`hasLink_iff`).
-/

namespace CloudSynth

section Lists

variable {pattern text rest : List Char}

theorem eq_append_of_afterFirst? (found : afterFirst? pattern text = some rest) :
    ∃ before, text = before ++ pattern ++ rest := by
  induction text with
  | nil =>
      rw [afterFirst?] at found
      split at found
      · next empty =>
          cases found
          exact ⟨[], by simp [empty]⟩
      · cases found
  | cons character text inner =>
      rw [afterFirst?] at found
      split at found
      · next begins =>
          cases found
          refine ⟨[], ?_⟩
          rw [List.nil_append]
          exact (List.prefix_iff_eq_append.mp (List.isPrefixOf_iff_prefix.mp begins)).symm
      · rcases inner found with ⟨before, rfl⟩
        exact ⟨character :: before, rfl⟩

theorem afterFirst?_self_append (pattern after : List Char) :
    afterFirst? pattern (pattern ++ after) = some after := by
  cases text : pattern ++ after with
  | nil =>
      rcases List.append_eq_nil_iff.mp text with ⟨rfl, rfl⟩
      rfl
  | cons character text' =>
      have begins : pattern.isPrefixOf (character :: text') = true := by
        rw [← text, List.isPrefixOf_iff_prefix]
        exact List.prefix_append pattern after
      rw [afterFirst?, if_pos begins, ← text, List.drop_left]

theorem exists_afterFirst? (pattern before after : List Char) :
    ∃ rest, afterFirst? pattern (before ++ pattern ++ after) = some rest ∧ after <:+ rest := by
  induction before with
  | nil => exact ⟨after, afterFirst?_self_append pattern after, List.suffix_rfl⟩
  | cons character before inner =>
      rw [List.cons_append, List.cons_append, afterFirst?]
      split
      · have long : pattern.length ≤ (character :: (before ++ pattern)).length := by
          rw [List.length_cons, List.length_append]
          omega
        refine ⟨_, rfl, ?_⟩
        rw [← List.cons_append, List.drop_append_of_le_length long]
        exact List.suffix_append _ after
      · exact inner

theorem occurs_iff : occurs pattern text = true ↔ pattern <:+: text := by
  rw [occurs, Option.isSome_iff_exists]
  constructor
  · rintro ⟨rest, found⟩
    rcases eq_append_of_afterFirst? found with ⟨before, rfl⟩
    exact ⟨before, rest, rfl⟩
  · rintro ⟨before, after, rfl⟩
    rcases exists_afterFirst? pattern before after with ⟨rest, found, _⟩
    exact ⟨rest, found⟩

theorem hasLink_iff_exists : hasLink text = true ↔
    ∃ before between after,
      text = before ++ "\x7b##".toList ++ (between ++ "##\x7d".toList ++ after) := by
  rw [hasLink]
  constructor
  · intro linked
    split at linked
    · next rest found =>
        rcases eq_append_of_afterFirst? found with ⟨before, rfl⟩
        rcases occurs_iff.mp linked with ⟨between, after, rfl⟩
        exact ⟨before, between, after, rfl⟩
    · cases linked
  · rintro ⟨before, between, after, rfl⟩
    rcases exists_afterFirst? "\x7b##".toList before (between ++ "##\x7d".toList ++ after) with
      ⟨rest, found, later⟩
    have closes : "##\x7d".toList <:+: between ++ "##\x7d".toList ++ after := ⟨between, after, rfl⟩
    simp only [found]
    exact occurs_iff.mpr (closes.trans later.isInfix)

end Lists

/-! ## Messages -/

/-- The text has the pattern somewhere. -/
def Contains (text pattern : String) : Prop := ∃ before after, text = before ++ pattern ++ after

/-- The text has the mark that begins a link and, behind it, the mark that ends one. What is between
them may be any text, line breaks included, but the marks do not share characters. -/
def ContainsLink (text : String) : Prop :=
  ∃ before between after, text = before ++ "\x7b##" ++ between ++ "##\x7d" ++ after

theorem contains_iff {text pattern : String} :
    Contains text pattern ↔ pattern.toList <:+: text.toList := by
  constructor
  · rintro ⟨before, after, rfl⟩
    exact ⟨before.toList, after.toList, by simp only [String.toList_append]⟩
  · rintro ⟨before, after, same⟩
    refine ⟨String.ofList before, String.ofList after, String.toList_inj.mp ?_⟩
    simp only [String.toList_append, String.toList_ofList, same]

theorem MessageTemplate.showsCode_iff {template : MessageTemplate} :
    template.showsCode = true ↔ Contains (template.render codePlaceholder) codePlaceholder := by
  rw [showsCode, occurs_iff, contains_iff]

theorem hasLink_iff {text : String} : hasLink text.toList = true ↔ ContainsLink text := by
  rw [hasLink_iff_exists]
  constructor
  · rintro ⟨before, between, after, same⟩
    refine ⟨String.ofList before, String.ofList between, String.ofList after, ?_⟩
    apply String.toList_inj.mp
    simp only [same, String.toList_append, String.toList_ofList, List.append_assoc]
  · rintro ⟨before, between, after, rfl⟩
    refine ⟨before.toList, between.toList, after.toList, ?_⟩
    simp only [String.toList_append, List.append_assoc]

example : hasLink "Open \x7b##\nthis page##\x7d".toList = true ∧
    hasLink "Open \x7b##\x7d".toList = false := by
  decide

theorem MessageTemplate.showsLink_iff {template : MessageTemplate} :
    template.showsLink = true ↔ ContainsLink (template.render linkPlaceholder) :=
  hasLink_iff

end CloudSynth
