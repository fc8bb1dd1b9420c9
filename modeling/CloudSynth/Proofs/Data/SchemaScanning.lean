import CloudSynth.Data.Schema
import CloudSynth.Proofs.Text.Blanks

/-!
# What a scan of a schema sees

A type is marked as a model by a text of a certain shape (`Marks`), which contains nothing but
words, blanks and one sign. So no mark reaches over any other character, and what is scanned before
such a break does not depend on what follows behind it (`scan_append_break`): the induction is on
the text before the break, with what is still to be passed over as a parameter.

A brace is a break. The models of a schema are those of its parts between closing braces, one part
after the other (`modelNames_parts`).
-/

namespace CloudSynth.Schema

open Text (Blank BeginsWithout isSpace isWord endsWord)

/-! ## The readers of a mark -/

theorem after?_eq_some_iff {beginning text rest : List Char} :
    after? beginning text = some rest ↔ text = beginning ++ rest := by
  rw [after?, Option.ite_none_right_eq_some, List.isPrefixOf_iff_prefix]
  constructor
  · rintro ⟨⟨behind, rfl⟩, dropped⟩
    cases dropped
    rw [List.drop_left]
  · rintro rfl
    exact ⟨List.prefix_append _ _, by rw [List.drop_left]⟩

theorem run?_eq_some_iff {condition : Char → Bool} {text run rest : List Char} :
    run? condition text = some (run, rest) ↔ run ≠ [] ∧
      (∀ character ∈ run, condition character = true) ∧ BeginsWithout condition rest ∧
      text = run ++ rest := by
  constructor
  · intro read
    have stops : BeginsWithout condition (text.dropWhile condition) :=
      Text.beginsWithout_dropWhile text
    have inside : ∀ character ∈ text.takeWhile condition, condition character = true :=
      fun character character_mem => List.mem_takeWhile_imp character_mem
    have split : text.takeWhile condition ++ text.dropWhile condition = text :=
      List.takeWhile_append_dropWhile
    unfold run? at read
    split at read
    · cases read
    · next run nonempty =>
        cases read
        refine ⟨?_, inside, stops, split.symm⟩
        rintro empty
        exact nonempty empty
  · rintro ⟨nonempty, inside, stops, rfl⟩
    unfold run?
    rw [Text.takeWhile_run inside stops, Text.dropWhile_run inside stops]
    cases run with
    | nil => exact absurd rfl nonempty
    | cons first run => rfl

/-! ## Marks -/

/-- A run of at least one character of a word. -/
structure IsName (name : List Char) : Prop where
  nonempty : name ≠ []
  word : ∀ character ∈ name, isWord character = true

instance : DecidablePred IsName := fun name =>
  decidable_of_iff (name ≠ [] ∧ name.all isWord = true)
    ⟨fun checked => ⟨checked.1, List.all_eq_true.mp checked.2⟩,
      fun isName => ⟨isName.nonempty, List.all_eq_true.mpr isName.word⟩⟩

theorem isName_type : IsName "type".toList := by decide +kernel

theorem isName_model : IsName "model".toList := by decide +kernel

/-- The text begins with a type that is marked as a model: `type`, blanks, its name, perhaps blanks,
and `@model` as a whole word. -/
inductive Marks : List Char → Occurrence → Prop
  | intro {gap name space rest : List Char} (gap_blank : Blank gap) (gap_nonempty : gap ≠ [])
      (isName : IsName name) (space_blank : Blank space) (ends : endsWord rest = true) :
      Marks ("type".toList ++ gap ++ name ++ space ++ "@model".toList ++ rest) ⟨name, rest⟩

theorem IsName.beginsWithout_isSpace {name rest : List Char} (isName : IsName name) :
    BeginsWithout isSpace (name ++ rest) := by
  refine BeginsWithout.append ?_ isName.nonempty
  intro first isFirst
  exact Text.isSpace_of_isWord (isName.word first (List.mem_of_mem_head? isFirst))

theorem beginsWithout_isWord_of_blank {space rest : List Char} (blank : Blank space)
    (stops : BeginsWithout isWord rest) : BeginsWithout isWord (space ++ rest) := by
  cases space with
  | nil => exact stops
  | cons first space =>
      simp only [List.cons_append, Text.beginsWithout_cons]
      exact Text.isWord_of_isSpace (blank first (by simp))

theorem marks_of_modelAt? {text : List Char} {found : Occurrence}
    (read : modelAt? text = some found) : Marks text found := by
  simp only [modelAt?, Option.bind_eq_bind, Option.bind_eq_some_iff] at read
  obtain ⟨behindType, isType, ⟨gap, behindGap⟩, isGap, ⟨name, behindName⟩, isName, rest, isMark,
    whole⟩ := read
  obtain ⟨ends, found_eq⟩ := Option.ite_none_right_eq_some.mp whole
  cases found_eq
  rw [after?_eq_some_iff] at isType isMark
  rw [run?_eq_some_iff] at isGap isName
  obtain ⟨gap_nonempty, gap_blank, -, rfl⟩ := isGap
  obtain ⟨name_nonempty, name_word, -, rfl⟩ := isName
  have split : behindName.takeWhile isSpace ++ behindName.dropWhile isSpace = behindName :=
    List.takeWhile_append_dropWhile
  have space_blank : Blank (behindName.takeWhile isSpace) := fun _ character_mem =>
    List.mem_takeWhile_imp character_mem
  have marks := Marks.intro gap_blank gap_nonempty ⟨name_nonempty, name_word⟩ space_blank ends
  rwa [List.append_assoc _ _ rest, ← isMark, List.append_assoc, split, List.append_assoc,
    List.append_assoc, ← isType] at marks

theorem modelAt?_of_marks {text : List Char} {found : Occurrence} (marks : Marks text found) :
    modelAt? text = some found := by
  cases marks with
  | @intro gap name space rest gap_blank gap_nonempty isName space_blank ends =>
      have isMark : BeginsWithout isSpace ("@model".toList ++ rest) ∧
          BeginsWithout isWord ("@model".toList ++ rest) := by
        constructor <;> exact Text.beginsWithout_cons.mpr (by decide +kernel)
      have type : after? "type".toList
          ("type".toList ++ (gap ++ (name ++ (space ++ ("@model".toList ++ rest))))) =
            some (gap ++ (name ++ (space ++ ("@model".toList ++ rest)))) :=
        after?_eq_some_iff.mpr rfl
      have blanks : run? isSpace (gap ++ (name ++ (space ++ ("@model".toList ++ rest)))) =
          some (gap, name ++ (space ++ ("@model".toList ++ rest))) :=
        run?_eq_some_iff.mpr ⟨gap_nonempty, gap_blank, isName.beginsWithout_isSpace, rfl⟩
      have word : run? isWord (name ++ (space ++ ("@model".toList ++ rest))) =
          some (name, space ++ ("@model".toList ++ rest)) :=
        run?_eq_some_iff.mpr ⟨isName.nonempty, isName.word,
          beginsWithout_isWord_of_blank space_blank isMark.2, rfl⟩
      have mark : after? "@model".toList
          ((space ++ ("@model".toList ++ rest)).dropWhile isSpace) = some rest := by
        rw [Text.dropWhile_run space_blank isMark.1]
        exact after?_eq_some_iff.mpr rfl
      simp only [List.append_assoc, modelAt?, Option.bind_eq_bind, type, blanks, word, mark,
        Option.bind_some, if_pos ends]

theorem modelAt?_eq_some_iff {text : List Char} {found : Occurrence} :
    modelAt? text = some found ↔ Marks text found :=
  ⟨marks_of_modelAt?, modelAt?_of_marks⟩

/-! ## Breaks -/

/-- A character that no mark contains. -/
structure IsBreak (character : Char) : Prop where
  no_word : isWord character = false
  no_space : isSpace character = false
  no_sign : character ≠ '@'

/-- A mark is a text without breaks, which marks whatever rest follows behind it. -/
theorem Marks.exists_mark {text : List Char} {found : Occurrence} (marks : Marks text found) :
    endsWord found.rest = true ∧ ∃ mark, text = mark ++ found.rest ∧
      (∀ character ∈ mark, ¬ IsBreak character) ∧
      ∀ rest, endsWord rest = true → Marks (mark ++ rest) ⟨found.name, rest⟩ := by
  cases marks with
  | @intro gap name space rest gap_blank gap_nonempty isName space_blank ends =>
      refine ⟨ends, "type".toList ++ gap ++ name ++ space ++ "@model".toList, rfl, ?_, ?_⟩
      · intro character character_mem isBreak
        have mark : "@model".toList = '@' :: "model".toList := rfl
        simp only [List.mem_append, mark, List.mem_cons] at character_mem
        rcases character_mem with (((inType | inGap) | inName) | inSpace) | (sign | inModel)
        · simpa [isBreak.no_word] using isName_type.word character inType
        · simpa [isBreak.no_space] using gap_blank character inGap
        · simpa [isBreak.no_word] using isName.word character inName
        · simpa [isBreak.no_space] using space_blank character inSpace
        · exact isBreak.no_sign sign
        · simpa [isBreak.no_word] using isName_model.word character inModel
      · intro rest ends
        exact .intro gap_blank gap_nonempty isName space_blank ends

/-- The occurrence when more text follows. -/
def Occurrence.extend (found : Occurrence) (more : List Char) : Occurrence :=
  ⟨found.name, found.rest ++ more⟩

variable {separator : Char}

theorem endsWord_append_break (isBreak : IsBreak separator) (before after : List Char) :
    endsWord (before ++ separator :: after) = endsWord before := by
  cases before with
  | nil => simp [endsWord, isBreak.no_word]
  | cons first before => rfl

theorem modelAt?_append_break (isBreak : IsBreak separator) (before after : List Char) :
    modelAt? (before ++ separator :: after) =
      (modelAt? before).map (·.extend (separator :: after)) := by
  ext found
  rw [modelAt?_eq_some_iff, Option.map_eq_some_iff]
  constructor
  · intro marks
    obtain ⟨ends, mark, split, noBreak, marksAll⟩ := marks.exists_mark
    -- The mark ends before the separator, or else it would contain it.
    rcases List.append_eq_append_iff.mp split with ⟨rest, isMark, isRest⟩ | ⟨rest, isBefore, isRest⟩
    · cases rest with
      | nil =>
          have marksBefore := marksAll [] rfl
          rw [List.append_nil, isMark, List.append_nil] at marksBefore
          refine ⟨_, modelAt?_of_marks marksBefore, ?_⟩
          simp only [Occurrence.extend, List.nil_append] at isRest ⊢
          rw [isRest]
      | cons first rest =>
          cases isRest
          exact absurd isBreak (noBreak separator (by simp [isMark]))
    · rw [isRest, endsWord_append_break isBreak] at ends
      have marksBefore := marksAll rest ends
      rw [← isBefore] at marksBefore
      refine ⟨_, modelAt?_of_marks marksBefore, ?_⟩
      simp only [Occurrence.extend, ← isRest]
  · rintro ⟨inner, read, rfl⟩
    obtain ⟨ends, mark, split, -, marksAll⟩ := (marks_of_modelAt? read).exists_mark
    rw [split, List.append_assoc]
    apply marksAll
    rwa [endsWord_append_break isBreak]

/-! ## Scans -/

section Scans

variable {find : List Char → Option Occurrence}

/-- Nothing that is found reaches over the separator. -/
structure StopsBefore (find : List Char → Option Occurrence) (separator : Char) : Prop where
  nothing : find [] = none
  apart : ∀ before after, find (before ++ separator :: after) =
    (find before).map (·.extend (separator :: after))

theorem scan_append_separator (stops : StopsBefore find separator) (before after : List Char) :
    scan find 0 (before ++ separator :: after) = scan find 0 before ++ scan find 0 after := by
  -- Behind an occurrence, no more is passed over than remains before the separator.
  have passing : ∀ before passed, passed ≤ before.length →
      scan find passed (before ++ separator :: after) =
        scan find passed before ++ scan find 0 after := by
    intro before
    induction before with
    | nil =>
        intro passed within
        have none := stops.apart [] after
        rw [stops.nothing, Option.map_none, List.nil_append] at none
        obtain rfl : passed = 0 := by simpa using within
        simp [scan, none]
    | cons character before ih =>
        intro passed within
        cases passed with
        | succ passed =>
            simp only [List.cons_append, scan]
            exact ih passed (by simpa using within)
        | zero =>
            have here := stops.apart (character :: before) after
            rw [List.cons_append] at here ⊢
            cases read : find (character :: before) with
            | none =>
                rw [read, Option.map_none] at here
                simp only [scan, here, read]
                exact ih 0 (by simp)
            | some found =>
                rw [read, Option.map_some] at here
                have same : (before ++ separator :: after).length -
                    (found.extend (separator :: after)).rest.length =
                      before.length - found.rest.length := by
                  simp only [Occurrence.extend, List.length_append]
                  omega
                simp only [scan, here, read, same, List.cons_append]
                rw [ih _ (Nat.sub_le _ _)]
                rfl
  exact passing before 0 (Nat.zero_le _)

end Scans

theorem stopsBefore_break (isBreak : IsBreak separator) : StopsBefore modelAt? separator where
  nothing := by decide
  apart := modelAt?_append_break isBreak

theorem scan_append_break (isBreak : IsBreak separator) (before after : List Char) :
    scan modelAt? 0 (before ++ separator :: after) =
      scan modelAt? 0 before ++ scan modelAt? 0 after :=
  scan_append_separator (stopsBefore_break isBreak) before after

theorem isBreak_closingBrace : IsBreak '\x7d' := ⟨by decide +kernel, by decide, by decide⟩

/-- What a part before or behind a closing brace contributes does not depend on the other parts. -/
theorem modelNames_parts :
    (∀ first second : String,
        modelNames (first ++ "\x7d" ++ second) = modelNames first ++ modelNames second) ∧
      ∀ parts : List String,
        modelNames ("\x7d".intercalate parts) = parts.flatMap modelNames := by
  have two : ∀ first second : String,
      modelNames (first ++ "\x7d" ++ second) = modelNames first ++ modelNames second := by
    intro first second
    simp only [modelNames, String.toList_append, List.append_assoc]
    rw [← List.map_append, ← scan_append_break isBreak_closingBrace]
    rfl
  refine ⟨two, ?_⟩
  intro parts
  induction parts with
  | nil => rfl
  | cons first parts ih =>
      cases parts with
      | nil => simp
      | cons next parts => rw [String.intercalate_cons_cons, two, ih, ← List.flatMap_cons]

end CloudSynth.Schema
