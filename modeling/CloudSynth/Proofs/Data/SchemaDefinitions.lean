import Mathlib.Data.List.Basic
import CloudSynth.Proofs.Data.SchemaScanning

/-!
# Schemas of object types

A schema that consists of definitions of object types is described by a grammar (`WritesSchema`):
each definition has a name, a list of directives, and fields. Of such a schema the scan reads
exactly the types whose first directive is `@model` (`modelNames_of_writes`).

Parentheses and braces are breaks, so arguments and fields are scanned apart, and they contribute
nothing as long as they do not mention `@model`. What remains of the directives is a sequence of
signs, names and blanks, in which no name follows a blank: a mark cannot begin there. So a mark
begins at the word `type` of a definition, and it ends in the first directive.
-/

namespace CloudSynth.Schema

open Text (Blank BeginsBlank BeginsWithout isSpace isWord endsWord)

/-! ## The grammar -/

/-- Somewhere in the text stands `@model`, as a whole word. -/
def MentionsModel (text : List Char) : Prop :=
  ∃ before after, text = before ++ "@model".toList ++ after ∧ endsWord after = true

/-- The text consists of directives of the given names, without or with arguments, with blanks
between them and perhaps around them. -/
inductive WritesDirectives : List Char → List String → Prop
  | nil {text : List Char} (blank : Blank text) : WritesDirectives text []
  | plain {before rest : List Char} {name : String} {names : List String} (blank : Blank before)
      (isName : IsName name.toList) (apart : BeginsBlank rest)
      (later : WritesDirectives rest names) :
      WritesDirectives (before ++ '@' :: (name.toList ++ rest)) (name :: names)
  | applied {before arguments rest : List Char} {name : String} {names : List String}
      (blank : Blank before) (isName : IsName name.toList) (clear : ¬ MentionsModel arguments)
      (apart : BeginsBlank rest) (later : WritesDirectives rest names) :
      WritesDirectives (before ++ '@' :: (name.toList ++ '(' :: (arguments ++ ')' :: rest)))
        (name :: names)

/-- The definition of an object type: its name and the names of its directives. -/
structure Definition where
  name : String
  directives : List String

/-- Some directive of the definition is `@model`. -/
def Definition.IsModel (definition : Definition) : Prop := "model" ∈ definition.directives

/-- The first directive of the definition is `@model`. -/
def Definition.IsMarked (definition : Definition) : Prop :=
  definition.directives.head? = some "model"

instance : DecidablePred Definition.IsModel := fun definition =>
  inferInstanceAs (Decidable ("model" ∈ definition.directives))

instance : DecidablePred Definition.IsMarked := fun definition =>
  inferInstanceAs (Decidable (definition.directives.head? = some "model"))

/-- The text is a definition: `type`, blanks, the name, the directives, and the fields in braces. -/
inductive WritesDefinition : List Char → Definition → Prop
  | intro {gap text fields : List Char} {name : String} {directives : List String}
      (gap_blank : Blank gap) (gap_nonempty : gap ≠ []) (isName : IsName name.toList)
      (written : WritesDirectives text directives) (clear : ¬ MentionsModel fields) :
      WritesDefinition
        ("type".toList ++ (gap ++ (name.toList ++ text)) ++ '\x7b' :: (fields ++ ['\x7d']))
        ⟨name, directives⟩

/-- The text consists of definitions, perhaps with blanks between and around them. -/
inductive WritesSchema : List Char → List Definition → Prop
  | nil {text : List Char} (blank : Blank text) : WritesSchema text []
  | cons {before text rest : List Char} {definition : Definition} {definitions : List Definition}
      (blank : Blank before) (written : WritesDefinition text definition)
      (later : WritesSchema rest definitions) :
      WritesSchema (before ++ (text ++ rest)) (definition :: definitions)

/-! ## Where no mark begins -/

theorem endsWord_iff {text : List Char} : endsWord text = true ↔ BeginsWithout isWord text := by
  cases text <;> simp [endsWord]

theorem Marks.mentionsModel {text : List Char} {found : Occurrence} (marks : Marks text found) :
    MentionsModel text := by
  cases marks with
  | intro gap_blank gap_nonempty isName space_blank ends => exact ⟨_, _, rfl, ends⟩

theorem Marks.begins {first : Char} {text : List Char} {found : Occurrence}
    (marks : Marks (first :: text) found) : first = 't' := by
  generalize whole : first :: text = all at marks
  cases marks with
  | intro gap_blank gap_nonempty isName space_blank ends => exact (List.cons.inj whole).1

theorem scan_cons_of_not_marks {first : Char} {text : List Char}
    (unmarked : ∀ found, ¬ Marks (first :: text) found) :
    scan modelAt? 0 (first :: text) = scan modelAt? 0 text := by
  have none : modelAt? (first :: text) = none := by
    rw [Option.eq_none_iff_forall_ne_some]
    intro found read
    exact unmarked found (marks_of_modelAt? read)
  simp [scan, none]

theorem scan_eq_nil_of_clear {text : List Char} (clear : ¬ MentionsModel text) :
    scan modelAt? 0 text = [] := by
  induction text with
  | nil => rfl
  | cons first text ih =>
      have unmarked : ∀ found, ¬ Marks (first :: text) found := fun found marks =>
        clear marks.mentionsModel
      rw [scan_cons_of_not_marks unmarked]
      apply ih
      rintro ⟨before, after, rfl, ends⟩
      exact clear ⟨first :: before, after, rfl, ends⟩

theorem scan_append_of_other {skipped rest : List Char}
    (other : 't' ∉ skipped) :
    scan modelAt? 0 (skipped ++ rest) = scan modelAt? 0 rest := by
  induction skipped with
  | nil => rfl
  | cons first skipped ih =>
      simp only [List.mem_cons, not_or] at other
      rw [List.cons_append, scan_cons_of_not_marks fun found marks => other.1 marks.begins.symm]
      exact ih other.2

theorem scan_append_of_blank {blanks rest : List Char} (blank : Blank blanks) :
    scan modelAt? 0 (blanks ++ rest) = scan modelAt? 0 rest := by
  apply scan_append_of_other
  intro letter_mem
  exact absurd (blank 't' letter_mem) (by decide)

theorem scan_of_blank {blanks : List Char} (blank : Blank blanks) :
    scan modelAt? 0 blanks = [] := by
  have nothing : scan modelAt? 0 (blanks ++ []) = scan modelAt? 0 [] := scan_append_of_blank blank
  simpa [scan] using nothing

/-- No name follows, not even after blanks. -/
def NoNameNext (rest : List Char) : Prop := BeginsWithout isWord (rest.dropWhile isSpace)

theorem NoNameNext.beginsWithout_isWord {rest : List Char} (noName : NoNameNext rest) :
    BeginsWithout isWord rest := by
  cases rest with
  | nil => simp
  | cons first rest =>
      rw [Text.beginsWithout_cons]
      by_cases blank : isSpace first = true
      · exact Text.isWord_of_isSpace blank
      · simpa [NoNameNext, blank] using noName

/-- A word behind which no name follows is not the beginning of a mark. -/
theorem not_marks_of_noNameNext {word rest : List Char} {found : Occurrence}
    (isWord' : ∀ character ∈ word, isWord character = true) (noName : NoNameNext rest) :
    ¬ Marks (word ++ rest) found := by
  generalize whole : word ++ rest = text
  rintro (@⟨gap, name, space, behind, gap_blank, gap_nonempty, isName, space_blank, ends⟩)
  have stops : BeginsWithout isWord (gap ++ (name ++ (space ++ ("@model".toList ++ behind)))) := by
    refine BeginsWithout.append ?_ gap_nonempty
    intro first isFirst
    exact Text.isWord_of_isSpace (gap_blank first (List.mem_of_mem_head? isFirst))
  simp only [List.append_assoc] at whole
  obtain ⟨-, rfl⟩ :=
    Text.run_append_inj isWord' isName_type.word noName.beginsWithout_isWord stops whole
  rw [NoNameNext, Text.dropWhile_run gap_blank isName.beginsWithout_isSpace] at noName
  cases name with
  | nil => exact isName.nonempty rfl
  | cons first name =>
      have word := isName.word first (by simp)
      simp only [List.cons_append, Text.beginsWithout_cons] at noName
      rw [word] at noName
      cases noName

theorem scan_append_of_word {word rest : List Char}
    (isWord' : ∀ character ∈ word, isWord character = true) (noName : NoNameNext rest) :
    scan modelAt? 0 (word ++ rest) = scan modelAt? 0 rest := by
  induction word with
  | nil => rfl
  | cons first word ih =>
      have unmarked : ∀ found, ¬ Marks (first :: (word ++ rest)) found := fun found =>
        not_marks_of_noNameNext isWord' noName
      rw [List.cons_append, scan_cons_of_not_marks unmarked]
      exact ih fun character character_mem => isWord' character (by simp [character_mem])

/-! ## Directives -/

theorem isBreak_openingParenthesis : IsBreak '(' := ⟨by decide +kernel, by decide, by decide⟩

theorem isBreak_closingParenthesis : IsBreak ')' := ⟨by decide +kernel, by decide, by decide⟩

theorem isBreak_openingBrace : IsBreak '\x7b' := ⟨by decide +kernel, by decide, by decide⟩

variable {text : List Char} {directives : List String}

/-- There are no directives, or a first one, and behind its name nothing is found. -/
inductive OpensDirectives : List Char → List String → Prop
  | nil {text : List Char} (blank : Blank text) : OpensDirectives text []
  | cons {before rest : List Char} {name : String} {names : List String} (blank : Blank before)
      (isName : IsName name.toList) (noName : NoNameNext rest)
      (unmarked : scan modelAt? 0 rest = []) :
      OpensDirectives (before ++ '@' :: (name.toList ++ rest)) (name :: names)

theorem OpensDirectives.noNameNext (opens : OpensDirectives text directives) :
    NoNameNext text := by
  cases opens with
  | nil blank =>
      rw [NoNameNext, List.dropWhile_eq_nil_iff.mpr blank]
      simp
  | cons blank isName noName unmarked =>
      have sign : isSpace '@' = false := by decide
      rw [NoNameNext, Text.dropWhile_run blank (by simp [sign])]
      exact Text.beginsWithout_cons.mpr (by decide +kernel)

theorem OpensDirectives.scan_eq_nil (opens : OpensDirectives text directives) :
    scan modelAt? 0 text = [] := by
  cases opens with
  | nil blank => exact scan_of_blank blank
  | @cons before rest name names blank isName noName unmarked =>
      have sign : scan modelAt? 0 (['@'] ++ (name.toList ++ rest)) =
          scan modelAt? 0 (name.toList ++ rest) := scan_append_of_other (by decide)
      rw [scan_append_of_blank blank, ← List.singleton_append, sign,
        scan_append_of_word isName.word noName, unmarked]

theorem WritesDirectives.opens (written : WritesDirectives text directives) :
    OpensDirectives text directives := by
  induction written with
  | nil blank => exact .nil blank
  | plain blank isName apart later ih => exact .cons blank isName ih.noNameNext ih.scan_eq_nil
  | @applied before arguments rest name names blank isName clear apart later ih =>
      -- The parentheses set the arguments apart from the name and from what follows.
      refine .cons blank isName ?_ ?_
      · have solid : isSpace '(' = false := by decide
        rw [NoNameNext, List.dropWhile_cons_of_neg (by simp [solid])]
        exact Text.beginsWithout_cons.mpr isBreak_openingParenthesis.no_word
      · have inside := scan_append_break isBreak_openingParenthesis [] (arguments ++ ')' :: rest)
        rw [List.nil_append] at inside
        rw [inside, scan_append_break isBreak_closingParenthesis, scan_eq_nil_of_clear clear,
          ih.scan_eq_nil]
        rfl

/-! ## Definitions -/

theorem scan_eq_drop {find : List Char → Option Occurrence} (passed : Nat) (text : List Char) :
    scan find passed text = scan find 0 (text.drop passed) := by
  induction text generalizing passed with
  | nil => cases passed <;> rfl
  | cons first text ih =>
      cases passed with
      | zero => rfl
      | succ passed => exact ih passed

theorem scan_of_marks {mark name rest : List Char} (marks : Marks (mark ++ rest) ⟨name, rest⟩)
    (nonempty : mark ≠ []) :
    scan modelAt? 0 (mark ++ rest) = name :: scan modelAt? 0 rest := by
  cases mark with
  | nil => exact absurd rfl nonempty
  | cons first mark =>
      have read := modelAt?_of_marks marks
      rw [List.cons_append] at read ⊢
      simp only [scan, read]
      rw [scan_eq_drop, List.length_append, Nat.add_sub_cancel, List.drop_left]

section Head

variable {gap name : List Char} (gap_blank : Blank gap) (isName : IsName name)
include gap_blank isName

/-- A mark that begins with a definition has its name, and ends behind the name. -/
theorem exists_mark_behind {found : Occurrence} (stops : BeginsWithout isWord text)
    (marks : Marks ("type".toList ++ (gap ++ (name ++ text))) found) :
    ∃ space rest, Blank space ∧ endsWord rest = true ∧
      text = space ++ '@' :: ("model".toList ++ rest) := by
  generalize whole : "type".toList ++ (gap ++ (name ++ text)) = all at marks
  rcases marks with @⟨gap', name', space, rest, gap_blank', _, isName', space_blank, ends⟩
  have sign : BeginsWithout isWord ("@model".toList ++ rest) :=
    Text.beginsWithout_cons.mpr (by decide +kernel)
  simp only [List.append_assoc] at whole
  obtain ⟨-, whole⟩ := Text.run_append_inj gap_blank gap_blank' isName.beginsWithout_isSpace
    isName'.beginsWithout_isSpace (List.append_cancel_left whole)
  obtain ⟨-, whole⟩ := Text.run_append_inj isName.word isName'.word stops
    (beginsWithout_isWord_of_blank space_blank sign) whole
  exact ⟨space, rest, space_blank, ends, whole⟩

theorem not_marks_of_first (opens : OpensDirectives text directives)
    (other : directives.head? ≠ some "model") (found : Occurrence) :
    ¬ Marks ("type".toList ++ (gap ++ (name ++ text))) found := by
  intro marks
  have signs : isSpace '@' = false := by decide
  obtain ⟨space, behind, space_blank, ends, split⟩ := exists_mark_behind gap_blank isName
    opens.noNameNext.beginsWithout_isWord marks
  cases opens with
  | nil blank =>
      have sign := blank '@' (by simp [split])
      rw [signs] at sign
      cases sign
  | @cons before rest first names blank isFirst noName unmarked =>
      obtain ⟨-, split⟩ := Text.run_append_inj blank space_blank
        (Text.beginsWithout_cons.mpr signs) (Text.beginsWithout_cons.mpr signs) split
      obtain ⟨same, -⟩ := Text.run_append_inj isFirst.word isName_model.word
        noName.beginsWithout_isWord (endsWord_iff.mp ends) (List.cons.inj split).2
      exact other (by rw [List.head?_cons, String.toList_inj.mp same])

/-- Of the part of a definition before its fields, the name is read if `@model` comes first. -/
theorem scan_head (gap_nonempty : gap ≠ []) (opens : OpensDirectives text directives) :
    scan modelAt? 0 ("type".toList ++ (gap ++ (name ++ text))) =
      if directives.head? = some "model" then [name] else [] := by
  split
  · next first =>
      cases opens with
      | nil blank => cases first
      | @cons before rest directive names blank isDirective noName unmarked =>
          obtain rfl : directive = "model" := by simpa using first
          have marks := Marks.intro gap_blank gap_nonempty isName blank
            (endsWord_iff.mpr noName.beginsWithout_isWord)
          simpa [unmarked] using scan_of_marks marks (by simp)
  · next other =>
      -- A mark might only begin at the first letter, and there it would have to end in `text`.
      have unmarked := not_marks_of_first gap_blank isName opens other
      calc scan modelAt? 0 ("type".toList ++ (gap ++ (name ++ text)))
          = scan modelAt? 0 ("ype".toList ++ (gap ++ (name ++ text))) :=
            scan_cons_of_not_marks unmarked
        _ = scan modelAt? 0 (gap ++ (name ++ text)) := scan_append_of_other (by decide)
        _ = scan modelAt? 0 (name ++ text) := scan_append_of_blank gap_blank
        _ = scan modelAt? 0 text := scan_append_of_word isName.word opens.noNameNext
        _ = [] := opens.scan_eq_nil

end Head

theorem scan_definition {definition : Definition} {rest : List Char}
    (written : WritesDefinition text definition) :
    scan modelAt? 0 (text ++ rest) =
      (if definition.IsMarked then [definition.name.toList] else []) ++
        scan modelAt? 0 rest := by
  rcases written with @⟨gap, head, fields, name, directives, gap_blank, gap_nonempty, isName,
    written, clear⟩
  have behind : scan modelAt? 0 ((fields ++ ['\x7d']) ++ rest) = scan modelAt? 0 rest := by
    rw [List.append_assoc, List.singleton_append, scan_append_break isBreak_closingBrace,
      scan_eq_nil_of_clear clear, List.nil_append]
  rw [List.append_assoc, List.cons_append, scan_append_break isBreak_openingBrace, behind,
    scan_head gap_blank isName gap_nonempty written.opens]
  rfl

theorem scan_schema {definitions : List Definition} (written : WritesSchema text definitions) :
    scan modelAt? 0 text = (definitions.filter (·.IsMarked)).map (·.name.toList) := by
  induction written with
  | nil blank => rw [scan_of_blank blank]; rfl
  | @cons before text rest definition definitions blank written later ih =>
      rw [scan_append_of_blank blank, scan_definition written, ih]
      by_cases marked : definition.IsMarked <;> simp [marked]

/-! ## Schemas -/

theorem Definition.IsMarked.isModel {definition : Definition} (marked : definition.IsMarked) :
    definition.IsModel := by
  obtain ⟨others, split⟩ := List.head?_eq_some_iff.mp marked
  simp [IsModel, split]

/-- The marked ones are all models only if each model is marked. -/
theorem names_marked_eq_iff {definitions : List Definition} :
    (definitions.filter (·.IsMarked)).map (·.name) =
        (definitions.filter (·.IsModel)).map (·.name) ↔
      ∀ definition ∈ definitions, definition.IsModel → definition.IsMarked := by
  constructor
  · intro same definition definition_mem isModel
    have sublist : (definitions.filter (·.IsMarked)).Sublist (definitions.filter (·.IsModel)) := by
      apply List.monotone_filter_right
      intro other marked
      exact decide_eq_true (of_decide_eq_true marked).isModel
    have lengths := congrArg List.length same
    simp only [List.length_map] at lengths
    have there : definition ∈ definitions.filter (·.IsModel) := by
      simpa using ⟨definition_mem, isModel⟩
    rw [← sublist.eq_of_length lengths] at there
    simpa using (List.mem_filter.mp there).2
  · intro allMarked
    congr 1
    apply List.filter_congr
    intro definition definition_mem
    simpa using ⟨Definition.IsMarked.isModel, allMarked definition definition_mem⟩

/-- The types whose first directive is `@model` are read, in the order of the schema. These are all
types with the directive exactly if none of them has it in a later place. -/
theorem modelNames_of_writes {schema : String} {definitions : List Definition}
    (written : WritesSchema schema.toList definitions) :
    modelNames schema = (definitions.filter (·.IsMarked)).map (·.name) ∧
      (modelNames schema = (definitions.filter (·.IsModel)).map (·.name) ↔
        ∀ definition ∈ definitions, definition.IsModel → definition.IsMarked) := by
  have read : modelNames schema = (definitions.filter (·.IsMarked)).map (·.name) := by
    rw [modelNames, scan_schema written, List.map_map]
    exact List.map_congr_left fun definition _ => String.ofList_toList
  exact ⟨read, by rw [read, names_marked_eq_iff]⟩

/-! ### A journal -/

/-- A model whose first directive is another one. -/
def guardedLog : String := "type Log @auth(rules: owner) @model \x7b at: Int \x7d"

def journal : String := "type Note @model \x7b text: String \x7d" ++ guardedLog

theorem not_mentionsModel {text : List Char} (noSign : '@' ∉ text) : ¬ MentionsModel text := by
  rintro ⟨before, after, rfl, ends⟩
  simp at noSign

theorem writes_model : WritesDirectives " @model ".toList ["model"] := by
  have written : WritesDirectives (" ".toList ++ '@' :: ("model".toList ++ " ".toList)) ["model"] :=
    .plain (by decide) (by decide +kernel) (by decide) (.nil (by decide))
  exact written

theorem writes_auth_model :
    WritesDirectives " @auth(rules: owner) @model ".toList ["auth", "model"] := by
  have written : WritesDirectives (" ".toList ++ '@' :: ("auth".toList ++ '(' ::
      ("rules: owner".toList ++ ')' :: " @model ".toList))) ["auth", "model"] :=
    .applied (by decide) (by decide +kernel) (not_mentionsModel (by decide)) (by decide)
      writes_model
  exact written

theorem writes_guardedLog : WritesSchema guardedLog.toList [⟨"Log", ["auth", "model"]⟩] := by
  have log : WritesDefinition ("type".toList ++ (" ".toList ++ ("Log".toList ++
      " @auth(rules: owner) @model ".toList)) ++ '\x7b' :: (" at: Int ".toList ++ ['\x7d']))
      ⟨"Log", ["auth", "model"]⟩ :=
    .intro (by decide) (by decide) (by decide +kernel) writes_auth_model
      (not_mentionsModel (by decide))
  exact .cons (by decide : Blank []) log (.nil (by decide : Blank []))

theorem writes_note :
    WritesDefinition "type Note @model \x7b text: String \x7d".toList ⟨"Note", ["model"]⟩ := by
  have note : WritesDefinition ("type".toList ++ (" ".toList ++ ("Note".toList ++
      " @model ".toList)) ++ '\x7b' :: (" text: String ".toList ++ ['\x7d']))
      ⟨"Note", ["model"]⟩ :=
    .intro (by decide) (by decide) (by decide +kernel) writes_model
      (not_mentionsModel (by decide))
  exact note

theorem writes_journal :
    WritesSchema journal.toList [⟨"Note", ["model"]⟩, ⟨"Log", ["auth", "model"]⟩] := by
  have both := WritesSchema.cons (by decide : Blank []) writes_note writes_guardedLog
  rwa [List.nil_append, ← String.toList_append] at both

theorem modelNames_of_writes_journal :
    WritesSchema journal.toList [⟨"Note", ["model"]⟩, ⟨"Log", ["auth", "model"]⟩] ∧
      modelNames journal = ["Note"] ∧ modelNames journal ≠ ["Note", "Log"] := by
  have read := modelNames_of_writes writes_journal
  refine ⟨writes_journal, read.1.trans (by decide), ?_⟩
  intro all
  have marked := read.2.mp (all.trans (by decide)) ⟨"Log", ["auth", "model"]⟩ (by simp)
  exact absurd (marked (by decide)) (by decide)

/-- The name of a model is not read if another directive stands before `@model`. -/
theorem guardedLog_not_read :
    WritesSchema guardedLog.toList [⟨"Log", ["auth", "model"]⟩] ∧
      Definition.IsModel ⟨"Log", ["auth", "model"]⟩ ∧ modelNames guardedLog = [] :=
  ⟨writes_guardedLog, by decide, by decide +kernel⟩

end CloudSynth.Schema
