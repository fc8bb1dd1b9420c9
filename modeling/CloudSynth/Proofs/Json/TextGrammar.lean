import Mathlib.Data.List.Basic
import Mathlib.Tactic.ByContra
import Mathlib.Tactic.SplitIfs
import CloudSynth.Json.TextList

/-!
# The grammar of written lists of texts

Which texts are lists of texts, said without the reader: a character is spelled by itself or by an
escape, a text is a sequence of spelled characters between quotes, and a list has texts between
brackets, with commas between them and blanks around everything (`WritesList`).

The reader accepts exactly these and returns what they spell (`TextList.read?_eq_some_iff`). For
every position of the reader it is said which written parts may follow there, in the order from the
parts of an escape to the whole list. Each such statement is an equivalence, so that the reader
neither refuses a list nor accepts anything else; the induction inside of a text is on what is left
to read, since an escape takes up to twelve characters at once.
-/

namespace CloudSynth.Json

/-! ## The grammar -/

/-- Four hexadecimal digits and the code unit they stand for. -/
inductive SpellsUnit : List Char → Nat → Prop
  | digits {first second third fourth : Char} {a b c d : Nat}
      (first_value : TextList.hexValue? first = some a)
      (second_value : TextList.hexValue? second = some b)
      (third_value : TextList.hexValue? third = some c)
      (fourth_value : TextList.hexValue? fourth = some d) :
      SpellsUnit [first, second, third, fourth] (((a * 16 + b) * 16 + c) * 16 + d)

/-- The code units that begin a pair. -/
def IsHigh (unit : Nat) : Prop := 0xD800 ≤ unit ∧ unit ≤ 0xDBFF

/-- The code units that end a pair. -/
def IsLow (unit : Nat) : Prop := 0xDC00 ≤ unit ∧ unit ≤ 0xDFFF

/-- The ways to write a character between quotes. -/
inductive Spells : List Char → Char → Prop
  | plain {character : Char} (no_quote : character ≠ '"') (no_backslash : character ≠ '\\')
      (no_control : 0x20 ≤ character.toNat) : Spells [character] character
  | short {letter character : Char} (stands : TextList.shortEscape? letter = some character) :
      Spells ['\\', letter] character
  | code {digits : List Char} {unit : Nat} (spelled : SpellsUnit digits unit)
      (no_high : ¬ IsHigh unit) (no_low : ¬ IsLow unit) :
      Spells ('\\' :: 'u' :: digits) (Char.ofNat unit)
  | pair {first second : List Char} {high low : Nat} (first_spelled : SpellsUnit first high)
      (second_spelled : SpellsUnit second low) (is_high : IsHigh high) (is_low : IsLow low) :
      Spells ('\\' :: 'u' :: first ++ '\\' :: 'u' :: second)
        (Char.ofNat (0x10000 + (high - 0xD800) * 0x400 + (low - 0xDC00)))

/-- The ways to write a text between quotes. -/
inductive SpellsText : List Char → List Char → Prop
  | nil : SpellsText [] []
  | cons {first rest : List Char} {character : Char} {text : List Char}
      (spelled : Spells first character) (later : SpellsText rest text) :
      SpellsText (first ++ rest) (character :: text)

/-- Nothing but blanks. -/
def Blank (written : List Char) : Prop := ∀ character ∈ written, TextList.isBlank character = true

/-- Quoted texts, at least one, with commas between them. -/
inductive WritesItems : List Char → List String → Prop
  | last {before written text after : List Char} (blank_before : Blank before)
      (spelled : SpellsText written text) (blank_after : Blank after) :
      WritesItems (before ++ '"' :: written ++ '"' :: after) [String.ofList text]
  | cons {before written text after rest : List Char} {values : List String}
      (blank_before : Blank before) (spelled : SpellsText written text)
      (blank_after : Blank after) (later : WritesItems rest values) :
      WritesItems (before ++ '"' :: written ++ '"' :: after ++ ',' :: rest)
        (String.ofList text :: values)

/-- Quoted texts between brackets. -/
inductive WritesList : List Char → List String → Prop
  | empty {before between after : List Char} (blank_before : Blank before)
      (blank_between : Blank between) (blank_after : Blank after) :
      WritesList (before ++ '[' :: between ++ ']' :: after) []
  | items {before between after : List Char} {values : List String} (blank_before : Blank before)
      (written : WritesItems between values) (blank_after : Blank after) :
      WritesList (before ++ '[' :: between ++ ']' :: after) values

/-! ## The reader, position by position -/

namespace TextList

/-- From a state on, the reader passes over the rest and returns the values. -/
def Finishes (state : State) (rest : List Char) (values : List String) : Prop :=
  (rest.foldlM step state).bind State.result? = some values

variable {items values : List String} {rest : List Char}

theorem finishes_nil {state : State} : Finishes state [] values ↔ state.result? = some values :=
  Iff.rfl

theorem finishes_cons {state : State} {character : Char} :
    Finishes state (character :: rest) values ↔
      ∃ next, step state character = some next ∧ Finishes next rest values := by
  unfold Finishes
  rw [List.foldlM_cons]
  cases step state character <;> simp

theorem finishes_cons_of_step {state next : State} {character : Char}
    (stepped : step state character = some next) :
    Finishes state (character :: rest) values ↔ Finishes next rest values := by
  rw [finishes_cons, stepped]
  simp

/-! ### Inside of a text -/

theorem finishes_inCode_of_lt {part : Partial} {digits code : Nat} (more : digits < 3) :
    Finishes ⟨items, .inCode part digits code⟩ rest values ↔
      ∃ digit value after, rest = digit :: after ∧ hexValue? digit = some value ∧
        Finishes ⟨items, .inCode part (digits + 1) (code * 16 + value)⟩ after values := by
  constructor
  · intro finishes
    rcases rest with _ | ⟨digit, after⟩
    · cases finishes_nil.mp finishes
    rcases finishes_cons.mp finishes with ⟨_, stepped, finishes⟩
    rcases Option.bind_eq_some_iff.mp stepped with ⟨value, has_value, here⟩
    rw [if_pos more] at here
    cases here
    exact ⟨digit, value, after, rfl, has_value, finishes⟩
  · rintro ⟨digit, value, after, rfl, has_value, finishes⟩
    exact (finishes_cons_of_step (by simp [step, has_value, more])).mpr finishes

theorem finishes_inCode_last {part : Partial} {code : Nat} :
    Finishes ⟨items, .inCode part 3 code⟩ rest values ↔
      ∃ digit value after, rest = digit :: after ∧ hexValue? digit = some value ∧
        ∃ whole, part.pushUnit (code * 16 + value) = some whole ∧
          Finishes ⟨items, .inside whole⟩ after values := by
  constructor
  · intro finishes
    rcases rest with _ | ⟨digit, after⟩
    · cases finishes_nil.mp finishes
    rcases finishes_cons.mp finishes with ⟨_, stepped, finishes⟩
    rcases Option.bind_eq_some_iff.mp stepped with ⟨value, has_value, here⟩
    rcases Option.bind_eq_some_iff.mp here with ⟨whole, pushed, here⟩
    cases here
    exact ⟨digit, value, after, rfl, has_value, whole, pushed, finishes⟩
  · rintro ⟨digit, value, after, rfl, has_value, whole, pushed, finishes⟩
    exact (finishes_cons_of_step (by simp [step, has_value, pushed])).mpr finishes

/-- An escaped code unit is passed as a whole. -/
theorem finishes_inCode {part : Partial} :
    Finishes ⟨items, .inCode part 0 0⟩ rest values ↔
      ∃ digits unit after, rest = digits ++ after ∧ SpellsUnit digits unit ∧
        ∃ whole, part.pushUnit unit = some whole ∧
          Finishes ⟨items, .inside whole⟩ after values := by
  rw [finishes_inCode_of_lt (by decide)]
  constructor
  · rintro ⟨first, a, _, rfl, first_value, finishes⟩
    rcases (finishes_inCode_of_lt (by decide)).mp finishes with
      ⟨second, b, _, rfl, second_value, finishes⟩
    rcases (finishes_inCode_of_lt (by decide)).mp finishes with
      ⟨third, c, _, rfl, third_value, finishes⟩
    rcases finishes_inCode_last.mp finishes with
      ⟨fourth, d, after, rfl, fourth_value, whole, pushed, finishes⟩
    rw [Nat.zero_mul, Nat.zero_add] at pushed
    exact ⟨[first, second, third, fourth], _, after, rfl,
      ⟨first_value, second_value, third_value, fourth_value⟩, whole, pushed, finishes⟩
  · rintro ⟨_, _, after, rfl, ⟨first_value, second_value, third_value, fourth_value⟩, whole,
      pushed, finishes⟩
    refine ⟨_, _, _, rfl, first_value, (finishes_inCode_of_lt (by decide)).mpr
      ⟨_, _, _, rfl, second_value, (finishes_inCode_of_lt (by decide)).mpr
        ⟨_, _, _, rfl, third_value, finishes_inCode_last.mpr
          ⟨_, _, _, rfl, fourth_value, whole, ?_, finishes⟩⟩⟩⟩
    rw [Nat.zero_mul, Nat.zero_add]
    exact pushed

theorem finishes_escapedUnit {part : Partial} :
    Finishes ⟨items, .afterBackslash part⟩ ('u' :: rest) values ↔
      Finishes ⟨items, .inCode part 0 0⟩ rest values :=
  finishes_cons_of_step rfl

/-- After the first half of a pair only the second half may follow. -/
theorem finishes_afterHigh {read : List Char} {high : Nat} :
    Finishes ⟨items, .inside ⟨read, some high⟩⟩ rest values ↔
      ∃ digits low after, rest = '\\' :: 'u' :: digits ++ after ∧ SpellsUnit digits low ∧
        IsLow low ∧ Finishes ⟨items, .inside ⟨read ++
          [Char.ofNat (0x10000 + (high - 0xD800) * 0x400 + (low - 0xDC00))], none⟩⟩
            after values := by
  constructor
  · intro finishes
    rcases rest with _ | ⟨backslash, rest⟩
    · cases finishes_nil.mp finishes
    rcases finishes_cons.mp finishes with ⟨_, stepped, finishes⟩
    have escapes : backslash = '\\' := by
      by_contra other
      simp only [step, if_neg other, Partial.push] at stepped
      split_ifs at stepped
      cases stepped
    subst escapes
    cases stepped
    rcases rest with _ | ⟨letter, rest⟩
    · cases finishes_nil.mp finishes
    have unit : letter = 'u' := by
      by_contra other
      rcases finishes_cons.mp finishes with ⟨_, stepped, _⟩
      simp only [step, if_neg other, Partial.push] at stepped
      rcases Option.bind_eq_some_iff.mp stepped with ⟨_, _, refused⟩
      cases refused
    subst unit
    rcases finishes_inCode.mp (finishes_escapedUnit.mp finishes) with
      ⟨digits, low, after, rfl, spelled, whole, pushed, finishes⟩
    simp only [Partial.pushUnit] at pushed
    split_ifs at pushed with is_low
    cases pushed
    exact ⟨digits, low, after, rfl, spelled, is_low, finishes⟩
  · rintro ⟨digits, low, after, rfl, spelled, is_low, finishes⟩
    refine (finishes_cons_of_step rfl).mpr (finishes_escapedUnit.mpr (finishes_inCode.mpr
      ⟨digits, low, after, rfl, spelled, _, ?_, finishes⟩))
    exact if_pos is_low

/-- A spelled character is passed as a whole. -/
theorem finishes_of_spells {read written after : List Char} {character : Char}
    (spelled : Spells written character)
    (finishes : Finishes ⟨items, .inside ⟨read ++ [character], none⟩⟩ after values) :
    Finishes ⟨items, .inside ⟨read, none⟩⟩ (written ++ after) values := by
  cases spelled with
  | plain no_quote no_backslash no_control =>
      refine (finishes_cons_of_step ?_).mpr finishes
      simp [step, no_quote, no_backslash, Nat.not_lt.mpr no_control, Partial.push]
  | @short letter _ stands =>
      have no_unit : letter ≠ 'u' := by
        rintro rfl
        cases stands
      refine (finishes_cons_of_step rfl).mpr ((finishes_cons_of_step ?_).mpr finishes)
      simp [step, no_unit, stands, Partial.push]
  | code spelled no_high no_low =>
      refine (finishes_cons_of_step rfl).mpr (finishes_escapedUnit.mpr (finishes_inCode.mpr
        ⟨_, _, _, rfl, spelled, _, ?_, finishes⟩))
      exact (if_neg no_high).trans (if_neg no_low)
  | @pair first second high low first_spelled second_spelled is_high is_low =>
      have second_half := finishes_afterHigh.mpr
        ⟨second, low, after, rfl, second_spelled, is_low, finishes⟩
      rw [List.append_assoc]
      refine (finishes_cons_of_step rfl).mpr (finishes_escapedUnit.mpr (finishes_inCode.mpr
        ⟨_, _, _, rfl, first_spelled, _, ?_, second_half⟩))
      exact if_pos is_high

/-- Between quotes there is a spelled character, or the text ends. -/
theorem ends_or_spells {read : List Char}
    (finishes : Finishes ⟨items, .inside ⟨read, none⟩⟩ rest values) :
    (∃ after, rest = '"' :: after ∧
      Finishes ⟨items ++ [String.ofList read], .afterItem⟩ after values) ∨
    ∃ written character after, rest = written ++ after ∧ Spells written character ∧
      Finishes ⟨items, .inside ⟨read ++ [character], none⟩⟩ after values := by
  rcases rest with _ | ⟨character, rest⟩
  · cases finishes_nil.mp finishes
  rcases finishes_cons.mp finishes with ⟨next, stepped, finishes⟩
  by_cases quote : character = '"'
  · subst quote
    cases stepped
    exact Or.inl ⟨rest, rfl, finishes⟩
  right
  by_cases backslash : character = '\\'
  · subst backslash
    cases stepped
    rcases rest with _ | ⟨letter, rest⟩
    · cases finishes_nil.mp finishes
    by_cases unit : letter = 'u'
    · subst unit
      rcases finishes_inCode.mp (finishes_escapedUnit.mp finishes) with
        ⟨digits, unit, after, rfl, spelled, whole, pushed, finishes⟩
      simp only [Partial.pushUnit] at pushed
      split_ifs at pushed with high low
      · cases pushed
        rcases finishes_afterHigh.mp finishes with
          ⟨second, low, after, rfl, second_spelled, is_low, finishes⟩
        exact ⟨_, _, after, by simp, .pair spelled second_spelled high is_low, finishes⟩
      · cases pushed
        exact ⟨_, _, after, rfl, .code spelled high low, finishes⟩
    · rcases finishes_cons.mp finishes with ⟨_, stepped, finishes⟩
      simp only [step, if_neg unit, Partial.push] at stepped
      rcases Option.bind_eq_some_iff.mp stepped with ⟨plain, stands, here⟩
      cases here
      exact ⟨['\\', letter], plain, rest, rfl, .short stands, finishes⟩
  · simp only [step, if_neg quote, if_neg backslash, Partial.push] at stepped
    split_ifs at stepped with control
    cases stepped
    exact ⟨[character], character, rest, rfl, .plain quote backslash (Nat.not_lt.mp control),
      finishes⟩

theorem finishes_inside {read : List Char} :
    Finishes ⟨items, .inside ⟨read, none⟩⟩ rest values ↔
      ∃ written text after, rest = written ++ '"' :: after ∧ SpellsText written text ∧
        Finishes ⟨items ++ [String.ofList (read ++ text)], .afterItem⟩ after values := by
  constructor
  · intro finishes
    induction length_eq : rest.length using Nat.strongRecOn generalizing read rest with
    | _ length ih =>
      rcases ends_or_spells finishes with
        ⟨after, rfl, ends⟩ | ⟨first, character, left, rfl, spelled, finishes⟩
      · exact ⟨[], [], after, rfl, .nil, by rwa [List.append_nil]⟩
      · have shorter : left.length < length := by
          cases spelled <;> simp at length_eq <;> omega
        rcases ih left.length shorter finishes rfl with ⟨written, text, after, rfl, later, ends⟩
        refine ⟨first ++ written, character :: text, after, (List.append_assoc _ _ _).symm,
          .cons spelled later, ?_⟩
        rwa [List.append_assoc, List.singleton_append] at ends
  · rintro ⟨written, text, after, rfl, spelled, ends⟩
    induction spelled generalizing read with
    | nil =>
        rw [List.append_nil] at ends
        exact (finishes_cons_of_step rfl).mpr ends
    | cons first_spelled _ ih =>
        rw [List.append_assoc]
        refine finishes_of_spells first_spelled (ih ?_)
        rwa [List.append_assoc, List.singleton_append]

/-! ### Between the texts -/

/-- Where blanks may stand. -/
def Position.Outside : Position → Prop
  | .beforeList | .beforeFirst | .beforeNext | .afterItem | .afterList => True
  | .inside _ | .afterBackslash _ | .inCode _ _ _ => False

/-- Outside of the texts there are blanks, and then a mark that is no blank, or nothing. -/
theorem finishes_outside (position : Position) (outside : position.Outside) :
    Finishes ⟨items, position⟩ rest values ↔
      Blank rest ∧ State.result? ⟨items, position⟩ = some values ∨
      ∃ blanks mark after, rest = blanks ++ mark :: after ∧ Blank blanks ∧ isBlank mark = false ∧
        ∃ next, step ⟨items, position⟩ mark = some next ∧ Finishes next after values := by
  have passed : ∀ character, isBlank character = true →
      step ⟨items, position⟩ character = some ⟨items, position⟩ := by
    intro character blank
    cases position <;> simp_all [step, Position.Outside]
  constructor
  · intro finishes
    induction rest with
    | nil => exact Or.inl ⟨nofun, finishes_nil.mp finishes⟩
    | cons character rest ih =>
        by_cases blank : isBlank character = true
        · rcases ih ((finishes_cons_of_step (passed character blank)).mp finishes) with
            ⟨blank_rest, result⟩ | ⟨blanks, mark, after, rfl, blank_before, marked⟩
          · exact Or.inl ⟨List.forall_mem_cons.mpr ⟨blank, blank_rest⟩, result⟩
          · exact Or.inr ⟨character :: blanks, mark, after, rfl,
              List.forall_mem_cons.mpr ⟨blank, blank_before⟩, marked⟩
        · exact Or.inr ⟨[], character, rest, rfl, nofun, eq_false_of_ne_true blank,
            finishes_cons.mp finishes⟩
  · have skip : ∀ {blanks after : List Char}, Blank blanks →
        Finishes ⟨items, position⟩ after values →
          Finishes ⟨items, position⟩ (blanks ++ after) values := by
      intro blanks after blank finishes
      induction blanks with
      | nil => exact finishes
      | cons character blanks ih =>
          rcases List.forall_mem_cons.mp blank with ⟨here, later⟩
          exact (finishes_cons_of_step (passed character here)).mpr (ih later)
    rintro (⟨blank, result⟩ | ⟨blanks, mark, after, rfl, blank, _, next, stepped, finishes⟩)
    · rw [← List.append_nil rest]
      exact skip blank (finishes_nil.mpr result)
    · exact skip blank ((finishes_cons_of_step stepped).mpr finishes)

theorem finishes_afterList :
    Finishes ⟨items, .afterList⟩ rest values ↔ Blank rest ∧ values = items := by
  rw [finishes_outside .afterList trivial]
  constructor
  · rintro (⟨blank, result⟩ | ⟨_, mark, _, _, _, no_blank, _, stepped, _⟩)
    · cases result
      exact ⟨blank, rfl⟩
    · simp [step, no_blank] at stepped
  · rintro ⟨blank, rfl⟩
    exact Or.inl ⟨blank, rfl⟩

theorem finishes_afterItem :
    Finishes ⟨items, .afterItem⟩ rest values ↔ ∃ blanks after, Blank blanks ∧
      (rest = blanks ++ ']' :: after ∧ Blank after ∧ values = items ∨
        rest = blanks ++ ',' :: after ∧ Finishes ⟨items, .beforeNext⟩ after values) := by
  rw [finishes_outside .afterItem trivial]
  constructor
  · rintro (⟨_, result⟩ | ⟨blanks, mark, after, rfl, blank, no_blank, next, stepped, finishes⟩)
    · cases result
    simp only [step, no_blank, Bool.false_eq_true, if_false] at stepped
    split_ifs at stepped with comma bracket
    · subst comma
      cases stepped
      exact ⟨blanks, after, blank, Or.inr ⟨rfl, finishes⟩⟩
    · subst bracket
      cases stepped
      exact ⟨blanks, after, blank, Or.inl ⟨rfl, finishes_afterList.mp finishes⟩⟩
  · rintro ⟨blanks, after, blank, ⟨rfl, ends⟩ | ⟨rfl, finishes⟩⟩
    · exact Or.inr ⟨blanks, _, after, rfl, blank, rfl, _, rfl, finishes_afterList.mpr ends⟩
    · exact Or.inr ⟨blanks, _, after, rfl, blank, rfl, _, rfl, finishes⟩

theorem finishes_beforeNext :
    Finishes ⟨items, .beforeNext⟩ rest values ↔
      ∃ blanks written text after, rest = blanks ++ '"' :: written ++ '"' :: after ∧
        Blank blanks ∧ SpellsText written text ∧
          Finishes ⟨items ++ [String.ofList text], .afterItem⟩ after values := by
  rw [finishes_outside .beforeNext trivial]
  constructor
  · rintro (⟨_, result⟩ | ⟨blanks, mark, after, rfl, blank, no_blank, next, stepped, finishes⟩)
    · cases result
    simp only [step, no_blank, Bool.false_eq_true, if_false] at stepped
    split_ifs at stepped with quote
    subst quote
    cases stepped
    rcases finishes_inside.mp finishes with ⟨written, text, after, rfl, spelled, ends⟩
    exact ⟨blanks, written, text, after, by simp, blank, spelled, ends⟩
  · rintro ⟨blanks, written, text, after, rfl, blank, spelled, ends⟩
    exact Or.inr ⟨blanks, _, _, List.append_assoc _ _ _, blank, rfl, _, rfl,
      finishes_inside.mpr ⟨written, text, after, rfl, spelled, ends⟩⟩

/-- Before the first item the reader does what it does before another one, or the list ends. -/
theorem finishes_beforeFirst :
    Finishes ⟨items, .beforeFirst⟩ rest values ↔
      (∃ blanks after, rest = blanks ++ ']' :: after ∧ Blank blanks ∧ Blank after ∧
        values = items) ∨ Finishes ⟨items, .beforeNext⟩ rest values := by
  rw [finishes_outside .beforeFirst trivial, finishes_outside .beforeNext trivial]
  constructor
  · rintro (⟨_, result⟩ | ⟨blanks, mark, after, rfl, blank, no_blank, next, stepped, finishes⟩)
    · cases result
    simp only [step, no_blank, Bool.false_eq_true, if_false] at stepped
    split_ifs at stepped with quote bracket
    · subst quote
      cases stepped
      exact Or.inr (Or.inr ⟨blanks, _, after, rfl, blank, no_blank, _, rfl, finishes⟩)
    · subst bracket
      cases stepped
      exact Or.inl ⟨blanks, after, rfl, blank, finishes_afterList.mp finishes⟩
  · rintro (⟨blanks, after, rfl, blank, ends⟩ |
      ⟨_, result⟩ | ⟨blanks, mark, after, rfl, blank, no_blank, next, stepped, finishes⟩)
    · exact Or.inr ⟨blanks, _, after, rfl, blank, rfl, _, rfl, finishes_afterList.mpr ends⟩
    · cases result
    · simp only [step, no_blank, Bool.false_eq_true, if_false] at stepped
      split_ifs at stepped with quote
      subst quote
      cases stepped
      exact Or.inr ⟨blanks, _, after, rfl, blank, rfl, _, rfl, finishes⟩

theorem finishes_items :
    Finishes ⟨items, .beforeNext⟩ rest values ↔
      ∃ written more after, rest = written ++ ']' :: after ∧ WritesItems written more ∧
        Blank after ∧ values = items ++ more := by
  constructor
  · intro finishes
    induction length_eq : rest.length using Nat.strongRecOn generalizing items rest with
    | _ length ih =>
      rcases finishes_beforeNext.mp finishes with
        ⟨before, written, text, _, rfl, blank_before, spelled, ends⟩
      rcases finishes_afterItem.mp ends with
        ⟨blanks, after, blank, ⟨rfl, blank_after, rfl⟩ | ⟨rfl, continues⟩⟩
      · exact ⟨_, _, after, by simp, .last blank_before spelled blank, blank_after, rfl⟩
      · have shorter : after.length < length := by
          simp at length_eq
          omega
        rcases ih after.length shorter continues rfl with
          ⟨rest, more, after, rfl, later, blank_after, rfl⟩
        exact ⟨_, _, after, by simp, .cons blank_before spelled blank later, blank_after, by simp⟩
  · rintro ⟨written, more, after, rfl, written_items, blank_after, rfl⟩
    induction written_items generalizing items with
    | @last before written text blanks blank_before spelled blank =>
        refine finishes_beforeNext.mpr
          ⟨before, written, text, blanks ++ ']' :: after, by simp, blank_before, spelled, ?_⟩
        exact finishes_afterItem.mpr ⟨blanks, after, blank, Or.inl ⟨rfl, blank_after, rfl⟩⟩
    | @cons before written text blanks rest more blank_before spelled blank _ ih =>
        refine finishes_beforeNext.mpr ⟨before, written, text,
          blanks ++ ',' :: (rest ++ ']' :: after), by simp, blank_before, spelled, ?_⟩
        refine finishes_afterItem.mpr ⟨blanks, _, blank, Or.inr ⟨rfl, ?_⟩⟩
        rw [List.append_cons items (String.ofList text) more]
        exact ih

/-- The reader accepts the lists of texts and returns what they spell. -/
theorem read?_eq_some_iff {written : List Char} :
    read? written = some values ↔ WritesList written values := by
  refine (finishes_outside .beforeList trivial).trans ?_
  constructor
  · rintro (⟨_, result⟩ | ⟨before, mark, after, rfl, blank_before, no_blank, next, stepped,
      finishes⟩)
    · cases result
    simp only [step, no_blank, Bool.false_eq_true, if_false] at stepped
    split_ifs at stepped with bracket
    subst bracket
    cases stepped
    rcases finishes_beforeFirst.mp finishes with
      ⟨between, after, rfl, blank_between, blank_after, rfl⟩ | finishes
    · have here := WritesList.empty blank_before blank_between blank_after
      rwa [List.append_assoc] at here
    · rcases finishes_items.mp finishes with ⟨between, more, after, rfl, written, blank_after, rfl⟩
      have here := WritesList.items blank_before written blank_after
      rwa [List.append_assoc] at here
  · rintro (⟨blank_before, blank_between, blank_after⟩ | ⟨blank_before, written, blank_after⟩)
    · exact Or.inr ⟨_, _, _, List.append_assoc _ _ _, blank_before, rfl, _, rfl,
        finishes_beforeFirst.mpr (Or.inl ⟨_, _, rfl, blank_between, blank_after, rfl⟩)⟩
    · exact Or.inr ⟨_, _, _, List.append_assoc _ _ _, blank_before, rfl, _, rfl,
        finishes_beforeFirst.mpr (Or.inr (finishes_items.mpr
          ⟨_, _, _, rfl, written, blank_after, rfl⟩))⟩

end TextList

/-- A text that is a list of texts is decoded to these. -/
theorem decodeTexts_of_writesList {written : String} {values : List String}
    (writes : WritesList written.toList values) : decodeTexts written = values := by
  rw [decodeTexts, TextList.read?_eq_some_iff.mpr writes, Option.getD_some]

/-- Any other text stands for the empty list. -/
theorem decodeTexts_of_not_writesList {written : String}
    (refused : ∀ values, ¬ WritesList written.toList values) : decodeTexts written = [] := by
  have none : TextList.read? written.toList = none := by
    rw [Option.eq_none_iff_forall_not_mem]
    exact fun values there => refused values (TextList.read?_eq_some_iff.mp there)
  rw [decodeTexts, none, Option.getD_none]

end CloudSynth.Json
