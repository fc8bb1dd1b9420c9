import Mathlib.Data.List.TakeWhile
import CloudSynth.Text.Space
import CloudSynth.Text.Word

/-!
# Blanks around and between

Which text remains when the blanks around it are taken away (`Trims`), and which fields a text has
between its blanks (`HasFields`), said without the functions that compute them. Both are told by the
characters at which a run of blanks, or of other characters, comes to its end, so the facts about
runs are stated first. A text of fields that were joined by single spaces has these fields again.
-/

namespace CloudSynth.Text

/-! ## Runs -/

section Runs

variable {α : Type} {condition : α → Bool} {run rest : List α}

/-- The list is empty or begins with another element. -/
def BeginsWithout (condition : α → Bool) (list : List α) : Prop :=
  ∀ first ∈ list.head?, condition first = false

@[simp]
theorem beginsWithout_nil : BeginsWithout condition [] := by
  simp [BeginsWithout]

@[simp]
theorem beginsWithout_cons {first : α} :
    BeginsWithout condition (first :: rest) ↔ condition first = false := by
  simp [BeginsWithout]

instance : DecidablePred (BeginsWithout condition) := fun list =>
  match list with
  | [] => .isTrue beginsWithout_nil
  | _ :: _ => decidable_of_iff _ beginsWithout_cons.symm

theorem BeginsWithout.append (begins : BeginsWithout condition run) (nonempty : run ≠ []) :
    BeginsWithout condition (run ++ rest) := by
  cases run with
  | nil => exact absurd rfl nonempty
  | cons first run => simpa using begins

theorem beginsWithout_dropWhile (list : List α) :
    BeginsWithout condition (list.dropWhile condition) := by
  intro first isFirst
  have stopped := List.head?_dropWhile_not condition list
  rw [isFirst] at stopped
  exact stopped

theorem takeWhile_run (inside : ∀ element ∈ run, condition element = true)
    (stops : BeginsWithout condition rest) : (run ++ rest).takeWhile condition = run := by
  rw [List.takeWhile_append_of_pos inside]
  cases rest with
  | nil => simp
  | cons first rest => simp [beginsWithout_cons.mp stops]

theorem dropWhile_run (inside : ∀ element ∈ run, condition element = true)
    (stops : BeginsWithout condition rest) : (run ++ rest).dropWhile condition = rest := by
  rw [List.dropWhile_append_of_pos inside]
  cases rest with
  | nil => simp
  | cons first rest => simp [beginsWithout_cons.mp stops]

/-- Where a run comes to its end is told by what follows. -/
theorem run_append_inj {run' rest' : List α} (inside : ∀ element ∈ run, condition element = true)
    (inside' : ∀ element ∈ run', condition element = true) (stops : BeginsWithout condition rest)
    (stops' : BeginsWithout condition rest') (same : run ++ rest = run' ++ rest') :
    run = run' ∧ rest = rest' := by
  have runs := congrArg (List.takeWhile condition) same
  have rests := congrArg (List.dropWhile condition) same
  rw [takeWhile_run inside stops, takeWhile_run inside' stops'] at runs
  rw [dropWhile_run inside stops, dropWhile_run inside' stops'] at rests
  exact ⟨runs, rests⟩

end Runs

/-! ## Blanks and words -/

/-- Nothing but blanks. -/
def Blank (text : List Char) : Prop := ∀ character ∈ text, isSpace character = true

instance : DecidablePred Blank := fun _ => decidable_of_iff _ List.all_eq_true

/-- The text is empty or begins with a blank. -/
def BeginsBlank (text : List Char) : Prop := ∀ first ∈ text.head?, isSpace first = true

@[simp]
theorem beginsBlank_nil : BeginsBlank [] := by
  simp [BeginsBlank]

@[simp]
theorem beginsBlank_cons {first : Char} {rest : List Char} :
    BeginsBlank (first :: rest) ↔ isSpace first = true := by
  simp [BeginsBlank]

instance : DecidablePred BeginsBlank := fun text =>
  match text with
  | [] => .isTrue beginsBlank_nil
  | _ :: _ => decidable_of_iff _ beginsBlank_cons.symm

/-- Sets without a common code point have no common character. -/
theorem CharSet.not_contains_of_apart {set other : CharSet} {character : Char}
    (apart : ∀ range ∈ set, ∀ range' ∈ other, range.2 < range'.1 ∨ range'.2 < range.1)
    (inSet : set.contains character = true) : other.contains character = false := by
  rw [Bool.eq_false_iff]
  intro inOther
  rcases CharSet.contains_iff.mp inSet with ⟨range, range_mem, lower, upper⟩
  rcases CharSet.contains_iff.mp inOther with ⟨range', range'_mem, lower', upper'⟩
  rcases apart range range_mem range' range'_mem with before | behind
  · omega
  · omega

theorem isWord_of_isSpace {character : Char} (blank : isSpace character = true) :
    isWord character = false :=
  CharSet.not_contains_of_apart (by decide +kernel) blank

theorem isSpace_of_isWord {character : Char} (word : isWord character = true) :
    isSpace character = false := by
  by_contra blank
  have noWord := isWord_of_isSpace (Bool.of_not_eq_false blank)
  rw [word] at noWord
  cases noWord

/-! ## Trimmed texts -/

/-- The text is the core with blanks around it, and the core has none at its own ends. -/
structure Trims (text core : List Char) : Prop where
  around : ∃ before after, Blank before ∧ Blank after ∧ text = before ++ core ++ after
  begins : BeginsWithout isSpace core
  ends : BeginsWithout isSpace core.reverse

theorem trims_trim (text : List Char) : Trims text (trim text) := by
  let rest := text.dropWhile isSpace
  let after := (rest.reverse.takeWhile isSpace).reverse
  have split : rest = trim text ++ after := by
    simp only [trim, after, rest]
    rw [← List.reverse_append, List.takeWhile_append_dropWhile, List.reverse_reverse]
  refine ⟨⟨text.takeWhile isSpace, after, ?_, ?_, ?_⟩, ?_, ?_⟩
  · intro character character_mem
    exact List.mem_takeWhile_imp character_mem
  · intro character character_mem
    exact List.mem_takeWhile_imp (List.mem_reverse.mp character_mem)
  · rw [List.append_assoc, ← split, List.takeWhile_append_dropWhile]
  · have begins : BeginsWithout isSpace rest := beginsWithout_dropWhile text
    rw [split] at begins
    cases core : trim text with
    | nil => simp
    | cons first core => simpa [core] using begins
  · simp only [trim, List.reverse_reverse]
    apply beginsWithout_dropWhile

theorem Trims.trim_eq {text core : List Char} (trims : Trims text core) : trim text = core := by
  rcases trims with ⟨⟨before, after, blankBefore, blankAfter, rfl⟩, begins, ends⟩
  simp only [trim, List.append_assoc]
  rw [List.dropWhile_append_of_pos blankBefore]
  cases core with
  | nil =>
      have nothing : after.dropWhile isSpace = [] := List.dropWhile_eq_nil_iff.mpr blankAfter
      simp [nothing]
  | cons first core =>
      have kept : ((first :: core) ++ after).dropWhile isSpace = (first :: core) ++ after := by
        simp [beginsWithout_cons.mp begins]
      have blankReversed : ∀ character ∈ after.reverse, isSpace character = true := by
        intro character character_mem
        exact blankAfter character (List.mem_reverse.mp character_mem)
      rw [kept, List.reverse_append, dropWhile_run blankReversed ends, List.reverse_reverse]

theorem trim_eq_iff {text core : List Char} : trim text = core ↔ Trims text core := by
  constructor
  · rintro rfl
    exact trims_trim text
  · exact Trims.trim_eq

/-! ## Fields -/

/-- A run of at least one character that is not blank. -/
structure IsField (field : List Char) : Prop where
  nonempty : field ≠ []
  solid : ∀ character ∈ field, isSpace character = false

instance : DecidablePred IsField := fun field =>
  decidable_of_iff (field ≠ [] ∧ field.all (!isSpace ·) = true)
    ⟨fun checked => ⟨checked.1, by simpa using checked.2⟩,
      fun isField => ⟨isField.nonempty, by simpa using isField.solid⟩⟩

/-- The text consists of the fields, with blanks between them and perhaps around them. -/
inductive HasFields : List Char → List (List Char) → Prop
  | nil {text : List Char} (blank : Blank text) : HasFields text []
  | cons {before field rest : List Char} {fields : List (List Char)} (blank : Blank before)
      (isField : IsField field) (apart : BeginsBlank rest)
      (later : HasFields rest fields) : HasFields (before ++ field ++ rest) (field :: fields)

theorem IsField.begins {field : List Char} (isField : IsField field) :
    BeginsWithout isSpace field := by
  intro first isFirst
  exact isField.solid first (List.mem_of_mem_head? isFirst)

theorem IsField.reverse {field : List Char} (isField : IsField field) : IsField field.reverse := by
  refine ⟨by simpa using isField.nonempty, ?_⟩
  intro character character_mem
  exact isField.solid character (List.mem_reverse.mp character_mem)

theorem HasFields.isField {text : List Char} {fields : List (List Char)}
    (hasFields : HasFields text fields) : ∀ field ∈ fields, IsField field := by
  induction hasFields with
  | nil blank => simp
  | cons blank isField apart later ih => simpa using ⟨isField, ih⟩

theorem HasFields.blank_append {before text : List Char} {fields : List (List Char)}
    (blank : Blank before) (hasFields : HasFields text fields) :
    HasFields (before ++ text) fields := by
  have longer : ∀ {others}, Blank others → Blank (before ++ others) := by
    intro others blankOthers character character_mem
    rcases List.mem_append.mp character_mem with here | there
    · exact blank character here
    · exact blankOthers character there
  cases hasFields with
  | nil blankText => exact .nil (longer blankText)
  | @cons others field rest fields blankOthers isField apart later =>
      simpa using HasFields.cons (longer blankOthers) isField apart later

theorem exists_first_field {text : List Char} (notBlank : ¬ Blank text) :
    ∃ before field rest, Blank before ∧ IsField field ∧
      BeginsBlank rest ∧ text = before ++ field ++ rest := by
  let solid := text.dropWhile isSpace
  refine ⟨text.takeWhile isSpace, solid.takeWhile (!isSpace ·), solid.dropWhile (!isSpace ·),
    ?_, ⟨?_, ?_⟩, ?_, ?_⟩
  · intro character character_mem
    exact List.mem_takeWhile_imp character_mem
  · have begins : BeginsWithout isSpace solid := beginsWithout_dropWhile text
    cases remains : solid with
    | nil => exact absurd (List.dropWhile_eq_nil_iff.mp remains) notBlank
    | cons first others =>
        rw [remains, beginsWithout_cons] at begins
        simp [begins]
  · intro character character_mem
    simpa using List.mem_takeWhile_imp character_mem
  · have begins : BeginsWithout (!isSpace ·) (solid.dropWhile (!isSpace ·)) :=
      beginsWithout_dropWhile solid
    intro next isNext
    simpa using begins next isNext
  · rw [List.append_assoc, List.takeWhile_append_dropWhile, List.takeWhile_append_dropWhile]

theorem exists_hasFields (text : List Char) : ∃ fields, HasFields text fields := by
  -- On the length: after the leading blanks and the first field, less text remains.
  induction sized : text.length using Nat.strong_induction_on generalizing text with
  | _ size ih =>
      by_cases blank : Blank text
      · exact ⟨[], .nil blank⟩
      · rcases exists_first_field blank with ⟨before, field, rest, blankBefore, isField, apart, rfl⟩
        have shorter : rest.length < size := by
          have positive := List.length_pos_iff.mpr isField.nonempty
          simp only [List.length_append] at sized
          omega
        rcases ih rest.length shorter rest rfl with ⟨fields, later⟩
        exact ⟨field :: fields, .cons blankBefore isField apart later⟩

theorem fields_blank_append {before text : List Char} (blank : Blank before) :
    fields (before ++ text) = fields text := by
  induction before with
  | nil => rfl
  | cons first before ih =>
      simp only [Blank, List.forall_mem_cons] at blank
      rw [List.cons_append, fields, pieces, if_pos blank.1, List.filter_cons_of_neg (by simp)]
      exact ih blank.2

theorem pieces_append {isSeparator : Char → Bool} {piece rest : List Char}
    (inside : ∀ character ∈ piece, isSeparator character = false) {first : List Char}
    {others : List (List Char)} (split : pieces isSeparator rest = first :: others) :
    pieces isSeparator (piece ++ rest) = (piece ++ first) :: others := by
  induction piece with
  | nil => exact split
  | cons character piece ih =>
      simp only [List.forall_mem_cons] at inside
      rw [List.cons_append, pieces, if_neg (by simp [inside.1]), ih inside.2]
      rfl

theorem fields_field_append {field rest : List Char} (isField : IsField field)
    (apart : BeginsBlank rest) :
    fields (field ++ rest) = field :: fields rest := by
  have stops : pieces isSpace rest = [] :: (pieces isSpace rest).tail ∧
      (pieces isSpace rest).tail.filter (· ≠ []) = fields rest := by
    cases rest with
    | nil => simp [pieces, fields]
    | cons next rest =>
        have blank := beginsBlank_cons.mp apart
        simp [pieces, fields, blank]
  rw [fields, pieces_append isField.solid stops.1, List.append_nil,
    List.filter_cons_of_pos (by simpa using isField.nonempty), stops.2]

theorem HasFields.fields_eq {text : List Char} {found : List (List Char)}
    (hasFields : HasFields text found) : fields text = found := by
  induction hasFields with
  | @nil text blank =>
      have nothing : fields (text ++ []) = fields [] := fields_blank_append blank
      simpa [fields, pieces] using nothing
  | cons blank isField apart later ih =>
      rw [List.append_assoc, fields_blank_append blank, fields_field_append isField apart, ih]

theorem fields_eq_iff {text : List Char} {found : List (List Char)} :
    fields text = found ↔ HasFields text found := by
  constructor
  · rintro rfl
    rcases exists_hasFields text with ⟨found, hasFields⟩
    rwa [hasFields.fields_eq]
  · exact HasFields.fields_eq

/-! ## Fields joined by single spaces -/

/-- The fields with a single space between each two. -/
def spaced (fields : List (List Char)) : List Char := [' '].intercalate fields

theorem spaced_cons {field : List Char} {fields : List (List Char)} (more : fields ≠ []) :
    spaced (field :: fields) = field ++ ' ' :: spaced fields := by
  simp [spaced, List.intercalate_cons_of_ne_nil more]

theorem spaced_singleton (field : List Char) : spaced [field] = field := by
  simp [spaced]

theorem hasFields_spaced {fields : List (List Char)} (areFields : ∀ field ∈ fields, IsField field) :
    HasFields (spaced fields) fields := by
  induction fields with
  | nil => exact .nil (by simp [Blank, spaced])
  | cons field fields ih =>
      simp only [List.forall_mem_cons] at areFields
      rcases areFields with ⟨isField, areFields⟩
      cases fields with
      | nil =>
          have whole : HasFields ([] ++ field ++ []) [field] :=
            .cons (by simp [Blank]) isField (by simp) (.nil (by simp [Blank]))
          simpa [spaced_singleton] using whole
      | cons next fields =>
          have single : isSpace ' ' = true := by decide
          have blank : Blank [' '] := by simp [Blank, single]
          have later : HasFields (' ' :: spaced (next :: fields)) (next :: fields) :=
            (ih areFields).blank_append blank
          have whole : HasFields ([] ++ field ++ ' ' :: spaced (next :: fields))
              (field :: next :: fields) := .cons (by simp [Blank]) isField (by simp [single]) later
          rwa [spaced_cons (by simp)]

theorem trims_spaced {fields : List (List Char)} (areFields : ∀ field ∈ fields, IsField field) :
    Trims (spaced fields) (spaced fields) := by
  refine ⟨⟨[], [], by simp [Blank], by simp [Blank], by simp⟩, ?_, ?_⟩
  · cases fields with
    | nil => simp [spaced]
    | cons field fields =>
        simp only [List.forall_mem_cons] at areFields
        cases fields with
        | nil => simpa [spaced_singleton] using areFields.1.begins
        | cons next fields =>
            rw [spaced_cons (by simp)]
            exact areFields.1.begins.append areFields.1.nonempty
  · -- The last field stays the last one, so the induction is on what stands before it.
    induction fields with
    | nil => simp [spaced]
    | cons field fields ih =>
        simp only [List.forall_mem_cons] at areFields
        cases fields with
        | nil => simpa [spaced_singleton] using areFields.1.reverse.begins
        | cons next fields =>
            rw [spaced_cons (by simp), List.reverse_append, List.reverse_cons, List.append_assoc]
            refine (ih areFields.2).append ?_
            have nonempty := (areFields.2 next (by simp)).nonempty
            cases fields <;> simp [spaced, List.intercalate_cons_cons, nonempty]

end CloudSynth.Text
