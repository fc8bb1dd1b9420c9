import Mathlib.Data.List.Basic

/-!
# Joined texts

Names are put together from texts that may hold any characters. What such a name says about its
parts depends on how they were joined. A fixed ending can be taken off if the endings that are in
use differ in their last characters (`eq_of_append_ending`), and so can a number after a text that
does not end in a digit (`append_toString_inj`). Two texts with a separator between them cannot be
told apart from others: either side may reach over the separator into the other one
(`append_separator_eq_iff`).
-/

namespace CloudSynth

/-! ## Endings -/

/-- Endings that differ in a number of last characters tell what is before them. -/
theorem eq_of_append_ending {endings : List String} {count : Nat}
    (long : ∀ ending ∈ endings, count ≤ ending.toList.length)
    (apart : ∀ first ∈ endings, ∀ second ∈ endings,
      first.toList.reverse.take count = second.toList.reverse.take count → first = second)
    {first second name other : String} (isFirst : first ∈ endings) (isSecond : second ∈ endings)
    (same : name ++ first = other ++ second) : name = other ∧ first = second := by
  have last : ∀ ending ∈ endings, ∀ name : String,
      (name ++ ending).toList.reverse.take count = ending.toList.reverse.take count := by
    intro ending ending_mem name
    rw [String.toList_append, List.reverse_append, List.take_append_of_le_length]
    rw [List.length_reverse]
    exact long ending ending_mem
  have equal : first = second := by
    apply apart first isFirst second isSecond
    rw [← last first isFirst name, same, last second isSecond other]
  subst equal
  exact ⟨(String.append_left_inj first).mp same, rfl⟩

/-- The text has a last character, which is not a digit. -/
def EndsUnnumbered (text : String) : Prop :=
  ∃ last rest, text.toList.reverse = last :: rest ∧ last.isDigit = false

theorem EndsUnnumbered.append {text : String} (ends : EndsUnnumbered text) (before : String) :
    EndsUnnumbered (before ++ text) := by
  rcases ends with ⟨last, rest, reversed, noDigit⟩
  refine ⟨last, rest ++ before.toList.reverse, ?_, noDigit⟩
  rw [String.toList_append, List.reverse_append, reversed, List.cons_append]

/-- The digits of a number are the last ones of the text. -/
theorem takeWhile_isDigit_append {text : String} {digits : List Char} (ends : EndsUnnumbered text)
    (areDigits : ∀ digit ∈ digits, digit.isDigit) :
    (text ++ String.ofList digits).toList.reverse.takeWhile Char.isDigit = digits.reverse := by
  rcases ends with ⟨last, rest, reversed, noDigit⟩
  have reversedDigits : ∀ digit ∈ digits.reverse, digit.isDigit = true :=
    fun digit digit_mem => areDigits digit (List.mem_reverse.mp digit_mem)
  simp only [String.toList_append, String.toList_ofList, List.reverse_append, reversed]
  rw [List.takeWhile_append_of_pos reversedDigits, List.takeWhile_cons_of_neg (by simp [noDigit]),
    List.append_nil]

theorem append_digits_inj {text other : String} {digits others : List Char}
    (ends : EndsUnnumbered text) (endsOther : EndsUnnumbered other)
    (areDigits : ∀ digit ∈ digits, digit.isDigit) (areOthers : ∀ digit ∈ others, digit.isDigit)
    (same : text ++ String.ofList digits = other ++ String.ofList others) :
    text = other ∧ digits = others := by
  have equal : digits = others := by
    have reversed := takeWhile_isDigit_append ends areDigits
    rw [same, takeWhile_isDigit_append endsOther areOthers] at reversed
    exact List.reverse_injective reversed.symm
  rw [equal] at same
  exact ⟨(String.append_left_inj _).mp same, equal⟩

theorem append_toString_inj {text other : String} {number otherNumber : Nat}
    (ends : EndsUnnumbered text) (endsOther : EndsUnnumbered other)
    (same : text ++ toString number = other ++ toString otherNumber) :
    text = other ∧ number = otherNumber := by
  have areDigits : ∀ number, ∀ digit ∈ Nat.toDigits 10 number, digit.isDigit := fun number digit =>
    Nat.isDigit_of_mem_toDigits (by decide) (by decide)
  rw [Nat.toString_eq_ofList_toDigits, Nat.toString_eq_ofList_toDigits] at same
  rcases append_digits_inj ends endsOther (areDigits number) (areDigits otherNumber) same with
    ⟨texts, digits⟩
  refine ⟨texts, ?_⟩
  rw [← @Nat.ofDigitChars_ten_toDigits number, digits, Nat.ofDigitChars_ten_toDigits]

/-! ## Separators -/

/-- Lists around one element are equal if they are split at the same place, or if one side goes on
beyond the place where the other one is split. -/
theorem append_cons_eq_append_cons_iff {α : Type} {separator : α}
    {before after before' after' : List α} :
    before ++ separator :: after = before' ++ separator :: after' ↔
      (before = before' ∧ after = after') ∨
        (∃ between, before = before' ++ separator :: between ∧
          after' = between ++ separator :: after) ∨
        (∃ between, before' = before ++ separator :: between ∧
          after = between ++ separator :: after') := by
  constructor
  · intro same
    rcases List.append_eq_append_iff.mp same with ⟨rest, split, tail⟩ | ⟨rest, split, tail⟩
    · rcases rest with _ | ⟨first, between⟩
      · exact Or.inl ⟨by simpa using split.symm, by simpa using tail⟩
      · rcases List.cons.inj tail with ⟨rfl, joined⟩
        exact Or.inr (Or.inr ⟨between, split, joined⟩)
    · rcases rest with _ | ⟨first, between⟩
      · exact Or.inl ⟨by simpa using split, by simpa using tail.symm⟩
      · rcases List.cons.inj tail with ⟨rfl, joined⟩
        exact Or.inr (Or.inl ⟨between, split, joined⟩)
  · rintro (⟨rfl, rfl⟩ | ⟨between, rfl, rfl⟩ | ⟨between, rfl, rfl⟩) <;> simp

/-- The text before a separator is that before another one, and goes on beyond it into the text
that follows there. -/
def ReachesOver (separator before after before' after' : String) : Prop :=
  ∃ between, before = before' ++ separator ++ between ∧ after' = between ++ separator ++ after

theorem append_separator_eq_iff {separator : String} {character : Char}
    (single : separator = String.singleton character) {before after before' after' : String} :
    before ++ separator ++ after = before' ++ separator ++ after' ↔
      (before = before' ∧ after = after') ∨
        ReachesOver separator before after before' after' ∨
        ReachesOver separator before' after' before after := by
  have reaches : ∀ first second first' second' : String,
      (∃ between, first.toList = first'.toList ++ character :: between ∧
          second'.toList = between ++ character :: second.toList) ↔
        ReachesOver separator first second first' second' := by
    intro first second first' second'
    constructor
    · rintro ⟨between, isFirst, isSecond⟩
      refine ⟨String.ofList between, String.toList_inj.mp ?_, String.toList_inj.mp ?_⟩
      · simp [single, isFirst]
      · simp [single, isSecond]
    · rintro ⟨between, rfl, rfl⟩
      exact ⟨between.toList, by simp [single], by simp [single]⟩
  rw [← reaches, ← reaches, ← String.toList_inj, ← @String.toList_inj before,
    ← @String.toList_inj after, ← append_cons_eq_append_cons_iff]
  simp [single]

end CloudSynth
