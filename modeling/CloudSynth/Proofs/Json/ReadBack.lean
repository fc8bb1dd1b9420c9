import CloudSynth.Json.Reader
import CloudSynth.Proofs.Json.WrittenTexts

/-!
# Written values are read back

A value that is printed is read back as it was (`Json.read?_render`). The induction is on the value,
along with its items and fields: in whatever lists and objects a value stands, the reader passes
over its text and then has the value, and the lists and objects are as before. Numbers are left out,
because only the character behind a number tells that it has ended.
-/

namespace CloudSynth.Json

mutual

/-- No number is part of the value. -/
def Unnumbered : Json → Prop
  | .null | .boolean _ | .text _ => True
  | .integer _ | .decimal _ => False
  | .list items => UnnumberedItems items
  | .object fields => UnnumberedFields fields

/-- No number is part of the items. -/
def UnnumberedItems : List Json → Prop
  | [] => True
  | item :: rest => item.Unnumbered ∧ UnnumberedItems rest

/-- No number is part of the values of the fields. -/
def UnnumberedFields : List (String × Json) → Prop
  | [] => True
  | (_, value) :: rest => value.Unnumbered ∧ UnnumberedFields rest

end

/-! ## Quoted texts -/

namespace TextList

/-- Items are only added. -/
theorem length_items_le_of_step {state after : State} {character : Char}
    (read : step state character = some after) : state.items.length ≤ after.items.length := by
  rcases state with ⟨items, position⟩
  cases position <;> simp only [step] at read <;> grind [Option.bind_eq_some_iff]

theorem length_items_le {state after : State} {text : List Char}
    (read : text.foldlM step state = some after) : state.items.length ≤ after.items.length := by
  induction text generalizing state with
  | nil =>
      cases read
      exact Nat.le_refl _
  | cons character rest ih =>
      rw [List.foldlM_cons, Option.bind_eq_bind, Option.bind_eq_some_iff] at read
      rcases read with ⟨next, stepped, continued⟩
      exact Nat.le_trans (length_items_le_of_step stepped) (ih continued)

end TextList

namespace Reader

variable {frames : List Frame}

/-- Inside quotes the reader does what the reader of lists of texts does. -/
theorem foldlM_inText {purpose : Purpose} {read after : TextList.State} {text : List Char}
    (begun : text.foldlM TextList.step read = some after) (unfinished : after.items = []) :
    text.foldlM step ⟨frames, .inText purpose read⟩ = some ⟨frames, .inText purpose after⟩ := by
  induction text generalizing read with
  | nil =>
      cases begun
      rfl
  | cons character rest ih =>
      rw [List.foldlM_cons, Option.bind_eq_bind, Option.bind_eq_some_iff] at begun
      rcases begun with ⟨next, stepped, continued⟩
      have none : next.items = [] := by
        have fewer := TextList.length_items_le continued
        rw [unfinished] at fewer
        exact List.length_eq_zero_iff.mp (Nat.le_zero.mp fewer)
      rw [List.foldlM_cons, Option.bind_eq_bind]
      have moved : step ⟨frames, .inText purpose read⟩ character =
          some ⟨frames, .inText purpose next⟩ := by
        rcases next with ⟨items, position⟩
        subst none
        simp [step, stepped]
      rw [moved]
      exact ih continued

theorem foldlM_quoted (purpose : Purpose) (text : String) (frames : List Frame) :
    (text.toList.flatMap escaped ++ ['"']).foldlM step ⟨frames, .inText purpose openText⟩ =
      some (purpose.finish frames text) := by
  have characters := TextList.read_characters [] [] text.toList
  rw [List.foldlM_append, openText, foldlM_inText characters rfl]
  simp [step, TextList.step]

/-! ## Values -/

theorem exists_print_eq_cons {value : Json} (unnumbered : value.Unnumbered) :
    ∃ first rest, value.print = first :: rest ∧ TextList.isBlank first = false ∧ first ≠ ']' := by
  cases value with
  | null => exact ⟨'n', _, rfl, by decide⟩
  | boolean value =>
      cases value with
      | false => exact ⟨'f', _, rfl, by decide⟩
      | true => exact ⟨'t', _, rfl, by decide⟩
  | integer value => exact unnumbered.elim
  | decimal literal => exact unnumbered.elim
  | text value => exact ⟨'"', _, rfl, by decide⟩
  | list items => exact ⟨'[', _, rfl, by decide⟩
  | object fields => exact ⟨'\x7b', _, rfl, by decide⟩

/-- The first item of a list is read as a value is. -/
theorem foldlM_listStart {first : Json} (unnumbered : first.Unnumbered) (rest : List Json)
    (more : List Char) (frames : List Frame) :
    (printItems (first :: rest) ++ more).foldlM step ⟨frames, .listStart⟩ =
      (printItems (first :: rest) ++ more).foldlM step ⟨.list [] :: frames, .value⟩ := by
  rcases exists_print_eq_cons unnumbered with ⟨head, others, printed, notBlank, notClosing⟩
  have begun : ∃ others, printItems (first :: rest) = head :: others := by
    cases rest with
    | nil => exact ⟨_, by rw [printItems, printed]⟩
    | cons next rest => exact ⟨_, by rw [printItems, printed, List.cons_append]⟩
  rcases begun with ⟨others, begun⟩
  rw [begun, List.cons_append, List.foldlM_cons, List.foldlM_cons]
  simp only [step, notBlank, if_neg notClosing, Bool.false_eq_true, if_false]

/-- The first name of an object is read as a further name is. -/
theorem foldlM_objectStart (first : String × Json) (rest : List (String × Json))
    (more : List Char) (frames : List Frame) :
    (printFields (first :: rest) ++ more).foldlM step ⟨frames, .objectStart⟩ =
      (printFields (first :: rest) ++ more).foldlM step ⟨frames, .nextName []⟩ := by
  have begun : ∃ others, printFields (first :: rest) = '"' :: others := by
    cases rest <;> exact ⟨_, rfl⟩
  rcases begun with ⟨others, begun⟩
  rw [begun]
  rfl

/-- A name and its value, up to the end of the value. -/
theorem foldlM_field {value : Json}
    (read : ∀ frames, value.print.foldlM step ⟨frames, .value⟩ = some ⟨frames, .afterValue value⟩)
    (name : String) (fields : List (String × Json)) (frames : List Frame) :
    (quoted name.toList ++ ':' :: value.print).foldlM step ⟨frames, .nextName fields⟩ =
      some ⟨.object fields name :: frames, .afterValue value⟩ := by
  have opened : step ⟨frames, .nextName fields⟩ '"' =
      some ⟨frames, .inText (.name fields) openText⟩ := rfl
  have colon : step ((Purpose.name fields).finish frames name) ':' =
      some ⟨.object fields name :: frames, .value⟩ := rfl
  rw [List.foldlM_append, quoted, List.cons_append, List.foldlM_cons, opened,
    Option.bind_eq_bind, Option.bind_some, foldlM_quoted]
  simp only [Option.bind_eq_bind, Option.bind_some, List.foldlM_cons, colon, read]

mutual

theorem foldlM_print (value : Json) (unnumbered : value.Unnumbered) (frames : List Frame) :
    value.print.foldlM step ⟨frames, .value⟩ = some ⟨frames, .afterValue value⟩ := by
  match value with
  | .null => rfl
  | .boolean false => rfl
  | .boolean true => rfl
  | .text content => exact foldlM_quoted .value content frames
  | .list [] => rfl
  | .list (first :: rest) =>
      have opened : step ⟨frames, .value⟩ '[' = some ⟨frames, .listStart⟩ := rfl
      have items := foldlM_printItems first rest unnumbered frames []
      rw [print, List.cons_append, List.foldlM_cons, opened, Option.bind_eq_bind, Option.bind_some,
        foldlM_listStart unnumbered.1, items, List.nil_append]
  | .object [] => rfl
  | .object ((name, value) :: rest) =>
      have opened : step ⟨frames, .value⟩ '\x7b' = some ⟨frames, .objectStart⟩ := rfl
      have fields := foldlM_printFields name value rest unnumbered frames []
      rw [print, List.cons_append, List.foldlM_cons, opened, Option.bind_eq_bind, Option.bind_some,
        foldlM_objectStart, fields, List.nil_append]
termination_by sizeOf value

theorem foldlM_printItems (first : Json) (rest : List Json)
    (unnumbered : UnnumberedItems (first :: rest)) (frames : List Frame) (items : List Json) :
    (printItems (first :: rest) ++ [']']).foldlM step ⟨.list items :: frames, .value⟩ =
      some ⟨frames, .afterValue (.list (items ++ first :: rest))⟩ := by
  have item := foldlM_print first unnumbered.1 (.list items :: frames)
  match rest with
  | [] =>
      rw [printItems, List.foldlM_append, item]
      rfl
  | next :: rest =>
      have comma : step ⟨.list items :: frames, .afterValue first⟩ ',' =
          some ⟨.list (items ++ [first]) :: frames, .value⟩ := rfl
      have others := foldlM_printItems next rest unnumbered.2 frames (items ++ [first])
      rw [printItems, List.append_assoc, List.foldlM_append, item]
      simp only [Option.bind_eq_bind, Option.bind_some, List.cons_append, List.foldlM_cons, comma,
        others, List.append_assoc, List.nil_append]
termination_by sizeOf (first :: rest)

theorem foldlM_printFields (name : String) (value : Json) (rest : List (String × Json))
    (unnumbered : UnnumberedFields ((name, value) :: rest)) (frames : List Frame)
    (fields : List (String × Json)) :
    (printFields ((name, value) :: rest) ++ ['\x7d']).foldlM step ⟨frames, .nextName fields⟩ =
      some ⟨frames, .afterValue (.object (fields ++ (name, value) :: rest))⟩ := by
  have field := foldlM_field (foldlM_print value unnumbered.1) name fields frames
  match rest with
  | [] =>
      rw [printFields, List.foldlM_append, field]
      rfl
  | (nextName, next) :: rest =>
      have comma : step ⟨.object fields name :: frames, .afterValue value⟩ ',' =
          some ⟨frames, .nextName (fields ++ [(name, value)])⟩ := rfl
      have others := foldlM_printFields nextName next rest unnumbered.2 frames
        (fields ++ [(name, value)])
      have split : printFields ((name, value) :: (nextName, next) :: rest) =
          (quoted name.toList ++ ':' :: value.print) ++
            ',' :: printFields ((nextName, next) :: rest) := by
        simp [printFields]
      rw [split, List.append_assoc, List.foldlM_append, field]
      simp only [Option.bind_eq_bind, Option.bind_some, List.cons_append, List.foldlM_cons, comma,
        others, List.append_assoc, List.nil_append]
termination_by sizeOf ((name, value) :: rest)

end

end Reader

/-- A value without numbers that is printed is read back as it was. -/
theorem read?_render {value : Json} (unnumbered : value.Unnumbered) :
    read? value.render = some value := by
  rw [read?, render, String.toList_ofList, Reader.foldlM_print value unnumbered]
  rfl

end CloudSynth.Json
