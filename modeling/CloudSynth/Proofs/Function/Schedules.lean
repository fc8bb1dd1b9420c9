import CloudSynth.Function.Schedule
import CloudSynth.Proofs.Text.Blanks

/-!
# The language of schedules

A schedule, without the blanks around it, is one of four phrases, a rate, or the fields of a cron
expression (`Means`). The conversion accepts exactly these and writes the six fields that they mean
(`cron?_writes_meaning`). Each of the two readers below it is described first, by the texts that it
accepts; a phrase is no rate, and neither is read as fields, since all of them begin alike.

What was written is itself a schedule with the same meaning, with one exception
(`cron?_of_written`): a field at the front may be the word with which phrases and rates begin.
-/

namespace CloudSynth.Schedule

/-! ## What schedules mean -/

/-- Decimal digits for a number, perhaps with zeros in front. -/
structure IsNumeral (digits : List Char) (number : Nat) : Prop where
  nonempty : digits ≠ []
  decimal : ∀ digit ∈ digits, digit.isDigit = true
  value : Nat.ofDigitChars 10 digits 0 = number

/-- A field of a cron expression. -/
structure IsCronField (field : List Char) : Prop where
  nonempty : field ≠ []
  allowed : ∀ character ∈ field, isFieldCharacter character = true

instance : DecidablePred IsCronField := fun field =>
  decidable_of_iff (field ≠ [] ∧ field.all isFieldCharacter = true)
    ⟨fun checked => ⟨checked.1, List.all_eq_true.mp checked.2⟩,
      fun isCronField => ⟨isCronField.nonempty, List.all_eq_true.mpr isCronField.allowed⟩⟩

/-- The six fields that a schedule without blanks around it means. -/
inductive Means : List Char → List (List Char) → Prop
  | day : Means "every day".toList (["0", "0", "*", "*", "?", "*"].map String.toList)
  | week : Means "every week".toList (["0", "0", "?", "*", "1", "*"].map String.toList)
  | month : Means "every month".toList (["0", "0", "1", "*", "?", "*"].map String.toList)
  | year : Means "every year".toList (["0", "0", "1", "1", "?", "*"].map String.toList)
  | minutes {digits : List Char} {number : Nat} (isNumeral : IsNumeral digits number)
      (positive : 1 ≤ number) (bounded : number ≤ 59) :
      Means ("every ".toList ++ digits ++ ['m'])
        (["*/" ++ toString number, "*", "*", "*", "?", "*"].map String.toList)
  | hours {digits : List Char} {number : Nat} (isNumeral : IsNumeral digits number)
      (positive : 1 ≤ number) (bounded : number ≤ 23) :
      Means ("every ".toList ++ digits ++ ['h'])
        (["0", "*/" ++ toString number, "*", "*", "?", "*"].map String.toList)
  | fiveFields {text : List Char} {fields : List (List Char)} (noRate : ¬ "every ".toList <+: text)
      (hasFields : Text.HasFields text fields) (five : fields.length = 5)
      (areCronFields : ∀ field ∈ fields, IsCronField field) : Means text (fields ++ [['*']])
  | sixFields {text : List Char} {fields : List (List Char)} (noRate : ¬ "every ".toList <+: text)
      (hasFields : Text.HasFields text fields) (six : fields.length = 6)
      (areCronFields : ∀ field ∈ fields, IsCronField field) : Means text fields

theorem isSpace_of_isFieldCharacter {character : Char}
    (allowed : isFieldCharacter character = true) : Text.isSpace character = false := by
  have apart : ∀ first last : UInt32,
      (∀ range ∈ Text.spaceCharacters, last.toNat < range.1 ∨ range.2 < first.toNat) →
      first ≤ character.val ∧ character.val ≤ last → Text.isSpace character = false := by
    intro first last outside bounds
    have inside : Text.CharSet.contains [(first.toNat, last.toNat)] character = true := by
      simpa [Text.CharSet.contains, UInt32.le_iff_toNat_le] using bounds
    exact Text.CharSet.not_contains_of_apart (by simpa using outside) inside
  simp only [isFieldCharacter, Bool.or_eq_true, List.contains_iff_mem] at allowed
  rcases allowed with alphanumeric | symbol
  · have classes : (character.isUpper || character.isLower || character.isDigit) = true :=
      alphanumeric
    rw [Bool.or_eq_true, Bool.or_eq_true] at classes
    rcases classes with (upper | lower) | digit
    · exact apart 'A'.val 'Z'.val (by decide) (of_decide_eq_true upper)
    · have bounds := Bool.and_eq_true_iff.mp lower
      exact apart 'a'.val 'z'.val (by decide) (bounds.imp of_decide_eq_true of_decide_eq_true)
    · have bounds := Bool.and_eq_true_iff.mp digit
      exact apart '0'.val '9'.val (by decide) (bounds.imp of_decide_eq_true of_decide_eq_true)
  · have solid : "*?/,-#".toList.all (!Text.isSpace ·) = true := by decide
    simpa using List.all_eq_true.mp solid character symbol

theorem IsCronField.isField {field : List Char} (isCronField : IsCronField field) :
    Text.IsField field := by
  refine ⟨isCronField.nonempty, ?_⟩
  intro character character_mem
  exact isSpace_of_isFieldCharacter (isCronField.allowed character character_mem)

theorem isFieldCharacter_of_isDigit {digit : Char} (isDigit : digit.isDigit = true) :
    isFieldCharacter digit = true := by
  simp [isFieldCharacter, Char.isAlphanum, isDigit]

theorem isCronField_step (number : Nat) : IsCronField ("*/" ++ toString number).toList := by
  refine ⟨by simp, ?_⟩
  intro character character_mem
  rw [Nat.toString_eq_ofList_toDigits, String.toList_append] at character_mem
  rcases List.mem_append.mp character_mem with mark | digit
  · have allowed : "*/".toList.all isFieldCharacter = true := by decide
    exact List.all_eq_true.mp allowed character mark
  · rw [String.toList_ofList] at digit
    exact isFieldCharacter_of_isDigit (Nat.isDigit_of_mem_toDigits (by decide) (by decide) digit)

/-- A schedule means six fields. -/
theorem Means.six {text : List Char} {fields : List (List Char)} (means : Means text fields) :
    fields.length = 6 ∧ ∀ field ∈ fields, IsCronField field := by
  cases means with
  | day | week | month | year => exact ⟨rfl, by decide⟩
  | @minutes digits number isNumeral positive bounded =>
      exact ⟨rfl, List.forall_mem_cons.mpr ⟨isCronField_step number, by decide⟩⟩
  | @hours digits number isNumeral positive bounded =>
      refine ⟨rfl, List.forall_mem_cons.mpr ⟨by decide, ?_⟩⟩
      exact List.forall_mem_cons.mpr ⟨isCronField_step number, by decide⟩
  | @fiveFields text fields noRate hasFields five areCronFields =>
      refine ⟨by simp [five], ?_⟩
      intro field field_mem
      rcases List.mem_append.mp field_mem with given | added
      · exact areCronFields field given
      · cases List.mem_singleton.mp added
        decide
  | sixFields noRate hasFields six areCronFields => exact ⟨six, areCronFields⟩

/-! ## Rates -/

theorem naturalOfDigits_eq (digits : List Char) :
    Text.naturalOfDigits digits = Nat.ofDigitChars 10 digits 0 := by
  simp only [Text.naturalOfDigits, Nat.ofDigitChars, Nat.mul_comm]

theorem spaced_minutes (number : Nat) :
    Text.spaced (["*/" ++ toString number, "*", "*", "*", "?", "*"].map String.toList) =
      "*/".toList ++ Nat.toDigits 10 number ++ " * * * ? *".toList := by
  simp [Text.spaced, List.intercalate_cons_cons]

theorem spaced_hours (number : Nat) :
    Text.spaced (["0", "*/" ++ toString number, "*", "*", "?", "*"].map String.toList) =
      "0 */".toList ++ Nat.toDigits 10 number ++ " * * ? *".toList := by
  simp [Text.spaced, List.intercalate_cons_cons]

theorem means_of_rateFields? {rate written : List Char} (read : rateFields? rate = some written) :
    ∃ fields, Means ("every ".toList ++ rate) fields ∧ written = Text.spaced fields := by
  have split : rate.takeWhile Char.isDigit ++ rate.dropWhile Char.isDigit = rate :=
    List.takeWhile_append_dropWhile
  have decimal : ∀ digit ∈ rate.takeWhile Char.isDigit, digit.isDigit = true :=
    fun digit digit_mem => List.mem_takeWhile_imp digit_mem
  simp only [rateFields?, naturalOfDigits_eq] at read
  generalize rate.takeWhile Char.isDigit = digits at read split decimal
  by_cases empty : digits = []
  · simp [empty] at read
  rw [if_neg empty] at read
  have isNumeral : IsNumeral digits (Nat.ofDigitChars 10 digits 0) := ⟨empty, decimal, rfl⟩
  split at read
  · next unit =>
      obtain ⟨bounds, written_eq⟩ := Option.ite_none_right_eq_some.mp read
      cases written_eq
      rw [← split, unit, ← List.append_assoc]
      exact ⟨_, .minutes isNumeral bounds.1 (by omega), (spaced_minutes _).symm⟩
  · next unit =>
      obtain ⟨bounds, written_eq⟩ := Option.ite_none_right_eq_some.mp read
      cases written_eq
      rw [← split, unit, ← List.append_assoc]
      exact ⟨_, .hours isNumeral bounds.1 (by omega), (spaced_hours _).symm⟩
  · cases read

section Numeral

variable {digits : List Char} {number : Nat} {unit : Char}

theorem IsNumeral.takeWhile_isDigit (isNumeral : IsNumeral digits number)
    (noDigit : unit.isDigit = false) : (digits ++ [unit]).takeWhile Char.isDigit = digits :=
  Text.takeWhile_run isNumeral.decimal (by simpa using noDigit)

theorem IsNumeral.dropWhile_isDigit (isNumeral : IsNumeral digits number)
    (noDigit : unit.isDigit = false) : (digits ++ [unit]).dropWhile Char.isDigit = [unit] :=
  Text.dropWhile_run isNumeral.decimal (by simpa using noDigit)

theorem rateFields?_minutes (isNumeral : IsNumeral digits number) (positive : 1 ≤ number)
    (bounded : number ≤ 59) : rateFields? (digits ++ ['m']) =
      some ("*/".toList ++ Nat.toDigits 10 number ++ " * * * ? *".toList) := by
  have bounds : 1 ≤ number ∧ number < 60 := by omega
  have noDigit : 'm'.isDigit = false := rfl
  simp only [rateFields?, isNumeral.takeWhile_isDigit noDigit, isNumeral.dropWhile_isDigit noDigit,
    naturalOfDigits_eq, isNumeral.value, if_neg isNumeral.nonempty, if_pos bounds]

theorem rateFields?_hours (isNumeral : IsNumeral digits number) (positive : 1 ≤ number)
    (bounded : number ≤ 23) : rateFields? (digits ++ ['h']) =
      some ("0 */".toList ++ Nat.toDigits 10 number ++ " * * ? *".toList) := by
  have bounds : 1 ≤ number ∧ number < 24 := by omega
  have noDigit : 'h'.isDigit = false := rfl
  simp only [rateFields?, isNumeral.takeWhile_isDigit noDigit, isNumeral.dropWhile_isDigit noDigit,
    naturalOfDigits_eq, isNumeral.value, if_neg isNumeral.nonempty, if_pos bounds]

end Numeral

/-! ## Fields -/

variable {text : List Char} {fields : List (List Char)}

theorem allowed_iff (areFields : ∀ field ∈ fields, Text.IsField field) :
    (fields.all fun field => field.all isFieldCharacter) = true ↔
      ∀ field ∈ fields, IsCronField field := by
  simp only [List.all_eq_true]
  constructor
  · intro allowed field field_mem
    exact ⟨(areFields field field_mem).nonempty, allowed field field_mem⟩
  · intro areCronFields field field_mem
    exact (areCronFields field field_mem).allowed

theorem means_of_cronFields? {written : List Char} (noRate : ¬ "every ".toList <+: text)
    (read : cronFields? text = some written) :
    ∃ fields, Means text fields ∧ written = Text.spaced fields := by
  have hasFields : Text.HasFields text (Text.fields text) := Text.fields_eq_iff.mp rfl
  simp only [cronFields?] at read
  generalize Text.fields text = fields at read hasFields
  obtain ⟨allowed, read⟩ := Option.ite_none_right_eq_some.mp read
  have areCronFields := (allowed_iff hasFields.isField).mp allowed
  split at read
  · next five =>
      cases read
      exact ⟨_, .fiveFields noRate hasFields five areCronFields, rfl⟩
  · next six =>
      cases read
      exact ⟨_, .sixFields noRate hasFields six areCronFields, rfl⟩
  · cases read

theorem cronFields?_five (hasFields : Text.HasFields text fields) (five : fields.length = 5)
    (areCronFields : ∀ field ∈ fields, IsCronField field) :
    cronFields? text = some (Text.spaced (fields ++ [['*']])) := by
  have allowed := (allowed_iff hasFields.isField).mpr areCronFields
  simp only [cronFields?, hasFields.fields_eq, if_pos allowed, five, Text.spaced]

theorem cronFields?_six (hasFields : Text.HasFields text fields) (six : fields.length = 6)
    (areCronFields : ∀ field ∈ fields, IsCronField field) :
    cronFields? text = some (Text.spaced fields) := by
  have allowed := (allowed_iff hasFields.isField).mpr areCronFields
  simp only [cronFields?, hasFields.fields_eq, if_pos allowed, six, Text.spaced]

/-! ## Schedules -/

theorem isPrefix_of_mem_phrases {phrase : List Char × List Char} (known : phrase ∈ phrases) :
    "every ".toList <+: phrase.1 := by
  revert phrase
  decide

theorem means_of_lookup {text written : List Char} (known : phrases.lookup text = some written) :
    ∃ fields, Means text fields ∧ written = Text.spaced fields := by
  have listed : (text, written) ∈ phrases := by
    obtain ⟨before, after, split, _⟩ := List.lookup_eq_some_iff.mp known
    simp [split]
  simp only [phrases, List.mem_cons, Prod.mk.injEq, List.not_mem_nil, or_false] at listed
  rcases listed with ⟨rfl, rfl⟩ | ⟨rfl, rfl⟩ | ⟨rfl, rfl⟩ | ⟨rfl, rfl⟩
  · exact ⟨_, .day, by decide⟩
  · exact ⟨_, .week, by decide⟩
  · exact ⟨_, .month, by decide⟩
  · exact ⟨_, .year, by decide⟩

theorem lookup_of_noRate {text : List Char} (noRate : ¬ "every ".toList <+: text) :
    phrases.lookup text = none := by
  rw [List.lookup_eq_none_iff]
  intro phrase known
  have different : text ≠ phrase.1 := by
    rintro rfl
    exact noRate (isPrefix_of_mem_phrases known)
  simpa using different

/-- No phrase goes on with a digit. -/
theorem lookup_of_numeral {digits rest : List Char} {number : Nat}
    (isNumeral : IsNumeral digits number) :
    phrases.lookup ("every ".toList ++ digits ++ rest) = none := by
  have letters : ∀ phrase ∈ phrases, Text.BeginsWithout Char.isDigit (phrase.1.drop 6) := by decide
  rw [List.lookup_eq_none_iff]
  intro phrase known
  cases digits with
  | nil => exact absurd rfl isNumeral.nonempty
  | cons first digits =>
      have different : "every ".toList ++ (first :: digits) ++ rest ≠ phrase.1 := by
        intro same
        have isFirst : first ∈ (phrase.1.drop 6).head? := by simp [← same]
        have isDigit := isNumeral.decimal first (by simp)
        rw [letters phrase known first isFirst] at isDigit
        cases isDigit
      simpa using different

theorem fields?_of_numeral {schedule digits rest : List Char} {number : Nat}
    (trimmed : Text.trim schedule = "every ".toList ++ digits ++ rest)
    (isNumeral : IsNumeral digits number) : fields? schedule = rateFields? (digits ++ rest) := by
  have isRate : rateStart.isPrefixOf ("every ".toList ++ digits ++ rest) = true := by
    rw [List.isPrefixOf_iff_prefix, List.append_assoc]
    exact List.prefix_append _ _
  have behind : ("every ".toList ++ digits ++ rest).drop rateStart.length = digits ++ rest := by
    rw [List.append_assoc]
    exact List.drop_left
  simp only [fields?, trimmed, lookup_of_numeral isNumeral, if_pos isRate, behind]

theorem fields?_of_noRate {schedule : List Char}
    (noRate : ¬ "every ".toList <+: Text.trim schedule) :
    fields? schedule = cronFields? (Text.trim schedule) := by
  have notRate : ¬ rateStart.isPrefixOf (Text.trim schedule) = true := fun isPrefix =>
    noRate (List.isPrefixOf_iff_prefix.mp isPrefix)
  simp only [fields?, lookup_of_noRate noRate, if_neg notRate]

theorem exists_means {schedule written : List Char} (read : fields? schedule = some written) :
    ∃ fields, Means (Text.trim schedule) fields ∧ written = Text.spaced fields := by
  simp only [fields?] at read
  split at read
  · next known =>
      cases read
      exact means_of_lookup known
  · split_ifs at read with isRate
    · obtain ⟨rate, split⟩ := List.isPrefixOf_iff_prefix.mp isRate
      rw [← split, List.drop_left] at read
      rw [← split]
      exact means_of_rateFields? read
    · have noRate : ¬ "every ".toList <+: Text.trim schedule := fun isPrefix =>
        isRate (List.isPrefixOf_iff_prefix.mpr isPrefix)
      exact means_of_cronFields? noRate read

theorem fields?_of_means {schedule text : List Char} {fields : List (List Char)}
    (trimmed : Text.trim schedule = text) (means : Means text fields) :
    fields? schedule = some (Text.spaced fields) := by
  cases means with
  | day | week | month | year =>
      simp only [fields?, trimmed]
      decide
  | minutes isNumeral positive bounded =>
      rw [fields?_of_numeral trimmed isNumeral, rateFields?_minutes isNumeral positive bounded,
        spaced_minutes]
  | hours isNumeral positive bounded =>
      rw [fields?_of_numeral trimmed isNumeral, rateFields?_hours isNumeral positive bounded,
        spaced_hours]
  | fiveFields noRate hasFields five areCronFields =>
      subst trimmed
      rw [fields?_of_noRate noRate, cronFields?_five hasFields five areCronFields]
  | sixFields noRate hasFields six areCronFields =>
      subst trimmed
      rw [fields?_of_noRate noRate, cronFields?_six hasFields six areCronFields]

/-- The expression with the given fields. -/
def expression (fields : List (List Char)) : String :=
  "cron(" ++ String.ofList (Text.spaced fields) ++ ")"

theorem cron?_eq_some_iff {schedule written : String} :
    cron? schedule = some written ↔
      ∃ fields, Means (Text.trim schedule.toList) fields ∧ written = expression fields := by
  simp only [cron?, Option.map_eq_some_iff]
  constructor
  · rintro ⟨joined, read, rfl⟩
    obtain ⟨fields, means, rfl⟩ := exists_means read
    exact ⟨fields, means, rfl⟩
  · rintro ⟨fields, means, rfl⟩
    exact ⟨Text.spaced fields, fields?_of_means rfl means, rfl⟩

/-- Exactly the schedules that mean something are converted, to the expression with the six fields
that they mean. -/
theorem cron?_writes_meaning (schedule : String) :
    ((cron? schedule).isSome ↔
        ∃ text fields, Text.Trims schedule.toList text ∧ Means text fields) ∧
      ∀ text fields, Text.Trims schedule.toList text → Means text fields →
        cron? schedule = some ("cron(" ++ String.ofList ([' '].intercalate fields) ++ ")") ∧
          fields.length = 6 ∧ ∀ field ∈ fields, IsCronField field := by
  have writes : ∀ text fields, Text.Trims schedule.toList text → Means text fields →
      cron? schedule = some (expression fields) := by
    intro text fields trims means
    rw [← Text.trim_eq_iff.mpr trims] at means
    exact cron?_eq_some_iff.mpr ⟨fields, means, rfl⟩
  constructor
  · rw [Option.isSome_iff_exists]
    constructor
    · rintro ⟨written, read⟩
      obtain ⟨fields, means, -⟩ := cron?_eq_some_iff.mp read
      exact ⟨_, fields, Text.trim_eq_iff.mp rfl, means⟩
    · rintro ⟨text, fields, trims, means⟩
      exact ⟨expression fields, writes text fields trims means⟩
  · intro text fields trims means
    exact ⟨writes text fields trims means, means.six⟩

example : cron? "\tevery 007m" = some "cron(*/7 * * * ? *)" := by decide

/-! ## Written fields as schedules -/

/-- What begins like a phrase or a rate and means something has two fields. -/
theorem Means.two_fields {text : List Char} {fields : List (List Char)} (means : Means text fields)
    (begins : "every ".toList <+: text) : (Text.fields text).length = 2 := by
  have rate : ∀ {digits number unit}, IsNumeral digits number → Text.isSpace unit = false →
      (Text.fields ("every ".toList ++ digits ++ [unit])).length = 2 := by
    intro digits number unit isNumeral solid
    have isField : Text.IsField (digits ++ [unit]) := by
      refine ⟨by simp, ?_⟩
      intro character character_mem
      rcases List.mem_append.mp character_mem with digit | last
      · exact isSpace_of_isFieldCharacter
          (isFieldCharacter_of_isDigit (isNumeral.decimal character digit))
      · cases List.mem_singleton.mp last
        exact solid
    have every : Text.IsField "every".toList := by decide
    have joined : "every ".toList ++ digits ++ [unit] =
        Text.spaced ["every".toList, digits ++ [unit]] := by
      simp [Text.spaced, List.intercalate_cons_cons]
    have areFields := List.forall_mem_cons.mpr ⟨every, List.forall_mem_singleton.mpr isField⟩
    rw [joined, (Text.hasFields_spaced areFields).fields_eq]
    rfl
  cases means with
  | day | week | month | year => decide
  | minutes isNumeral positive bounded => exact rate isNumeral (by decide)
  | hours isNumeral positive bounded => exact rate isNumeral (by decide)
  | fiveFields noRate hasFields five areCronFields => exact absurd begins noRate
  | sixFields noRate hasFields six areCronFields => exact absurd begins noRate

/-- The fields of a written expression are a schedule with the same expression, unless they begin
with the word that phrases and rates begin with; then they are no schedule. -/
theorem cron?_of_written {schedule fields : String}
    (converted : cron? schedule = some ("cron(" ++ fields ++ ")")) :
    (¬ "every ".toList <+: fields.toList → cron? fields = some ("cron(" ++ fields ++ ")")) ∧
      ("every ".toList <+: fields.toList → cron? fields = none) := by
  obtain ⟨found, means, same⟩ := cron?_eq_some_iff.mp converted
  obtain ⟨six, areCronFields⟩ := means.six
  have areFields : ∀ field ∈ found, Text.IsField field := fun field field_mem =>
    (areCronFields field field_mem).isField
  have written : fields = String.ofList (Text.spaced found) := by
    rw [expression, String.append_left_inj, String.append_right_inj] at same
    exact same
  have characters : fields.toList = Text.spaced found := by rw [written, String.toList_ofList]
  have trimmed : Text.trim fields.toList = fields.toList := by
    rw [characters]
    exact (Text.trims_spaced areFields).trim_eq
  have hasFields : Text.HasFields fields.toList found := by
    rw [characters]
    exact Text.hasFields_spaced areFields
  constructor
  · intro noRate
    rw [cron?_eq_some_iff, trimmed]
    exact ⟨found, .sixFields noRate hasFields six areCronFields, same⟩
  · -- Six fields are too many for what begins like a rate.
    intro begins
    rw [Option.eq_none_iff_forall_ne_some]
    intro other accepted
    obtain ⟨others, otherMeans, -⟩ := cron?_eq_some_iff.mp accepted
    rw [trimmed] at otherMeans
    have two := otherMeans.two_fields begins
    rw [hasFields.fields_eq, six] at two
    cases two

theorem cron?_of_written_weekday :
    cron? " 0 9 * *  MON-FRI\n" = some ("cron(" ++ "0 9 * * MON-FRI *" ++ ")") ∧
      cron? "0 9 * * MON-FRI *" = some ("cron(" ++ "0 9 * * MON-FRI *" ++ ")") := by
  have converted : cron? " 0 9 * *  MON-FRI\n" = some ("cron(" ++ "0 9 * * MON-FRI *" ++ ")") := by
    decide
  exact ⟨converted, (cron?_of_written converted).1 (by decide)⟩

/-- A tab behind the word keeps a schedule from being read as a rate; in what is written, a space
stands there. -/
theorem tabbed_not_converted_again :
    cron? "every\t1 2 3 4" = some ("cron(" ++ "every 1 2 3 4 *" ++ ")") ∧
      cron? "every 1 2 3 4 *" ≠ some ("cron(" ++ "every 1 2 3 4 *" ++ ")") := by
  decide

end CloudSynth.Schedule
