import CloudSynth.Backend.Function
import CloudSynth.Proofs.Json.WrittenTexts

/-!
# Written lists of parameters

A function finds the paths of its parameters in one text (`writtenParameters`). The text determines
them (`writtenParameters_inj`): how a character stands inside quotes tells where it ends, so it is
known where a quoted text ends, and then the names and the paths can be told apart.
-/

namespace CloudSynth

namespace Json

/-! ## Quoted texts -/

/-- The length of what stands for the first character inside quotes. -/
def codeLength : List Char → Nat
  | '\\' :: 'u' :: _ => 6
  | '\\' :: _ => 2
  | _ => 1

theorem codeLength_escaped (character : Char) (rest : List Char) :
    codeLength (escaped character ++ rest) = (escaped character).length := by
  unfold escaped
  split_ifs with quote backslash
  iterate 8 rfl
  simp [codeLength, backslash]

theorem escaped_injective : Function.Injective escaped := by
  intro first second same
  have read := TextList.read_escaped [] [] first
  rw [same, TextList.read_escaped [] [] second] at read
  simpa [eq_comm] using read

theorem escaped_append_inj {first second : Char} {rest more : List Char}
    (same : escaped first ++ rest = escaped second ++ more) : first = second ∧ rest = more := by
  have lengths : (escaped first).length = (escaped second).length := by
    rw [← codeLength_escaped first rest, same, codeLength_escaped]
  rcases List.append_inj same lengths with ⟨codes, rests⟩
  exact ⟨escaped_injective codes, rests⟩

/-- A quote inside quotes is escaped. -/
theorem escaped_append_ne_quote (character : Char) (rest more : List Char) :
    escaped character ++ rest ≠ '"' :: more := by
  unfold escaped
  split_ifs with quote
  all_goals simp [*]

theorem flatMap_escaped_inj {text other rest more : List Char}
    (same : text.flatMap escaped ++ '"' :: rest = other.flatMap escaped ++ '"' :: more) :
    text = other ∧ rest = more := by
  induction text generalizing other with
  | nil =>
      cases other with
      | nil => exact ⟨rfl, List.tail_eq_of_cons_eq same⟩
      | cons character others =>
          rw [List.flatMap_cons, List.append_assoc] at same
          exact absurd same.symm (escaped_append_ne_quote _ _ _)
  | cons character text ih =>
      rw [List.flatMap_cons, List.append_assoc] at same
      cases other with
      | nil => exact absurd same (escaped_append_ne_quote _ _ _)
      | cons otherCharacter others =>
          rw [List.flatMap_cons, List.append_assoc] at same
          rcases escaped_append_inj same with ⟨rfl, continued⟩
          rcases ih continued with ⟨rfl, rests⟩
          exact ⟨rfl, rests⟩

/-- It is known where a quoted text ends. -/
theorem quoted_append_inj {text other : String} {rest more : List Char}
    (same : quoted text.toList ++ rest = quoted other.toList ++ more) :
    text = other ∧ rest = more := by
  simp only [quoted, List.cons_append, List.append_assoc, List.nil_append, List.cons.injEq,
    true_and] at same
  rcases flatMap_escaped_inj same with ⟨texts, rests⟩
  exact ⟨String.toList_inj.mp texts, rests⟩

end Json

open Json

/-! ## Lists of parameters -/

/-- How a variable and its path are written. -/
def writtenParameter (parameter : String × String) : String × Json :=
  (parameter.1, .record [("path", .text parameter.2)])

/-- A list of parameters as it is written, up to its end. -/
theorem printFields_cons_writtenParameter (parameter : String × String)
    (rest : List (String × String)) :
    printFields ((parameter :: rest).map writtenParameter) = quoted parameter.1.toList ++ ':' ::
      '{' :: (quoted "path".toList ++ ':' :: (quoted parameter.2.toList ++ '}' ::
        (if rest = [] then [] else ',' :: printFields (rest.map writtenParameter)))) := by
  have path : print (.record [("path", .text parameter.2)]) =
      '{' :: (quoted "path".toList ++ ':' :: (quoted parameter.2.toList ++ ['}'])) := by
    simp [print, printFields, record, ofMap, SortedMap.ofList, SortedMap.insert, SortedMap.put,
      SortedMap.empty]
  cases rest with
  | nil => simp [writtenParameter, printFields, path]
  | cons next rest => simp [writtenParameter, printFields, path]

theorem printFields_inj {first second : List (String × String)}
    (same : printFields (first.map writtenParameter) ++ ['}'] =
      printFields (second.map writtenParameter) ++ ['}']) : first = second := by
  induction first generalizing second with
  | nil =>
      cases second with
      | nil => rfl
      | cons other others =>
          rw [printFields_cons_writtenParameter] at same
          simp [printFields, quoted] at same
  | cons parameter rest ih =>
      rw [printFields_cons_writtenParameter] at same
      cases second with
      | nil => simp [printFields, quoted] at same
      | cons other others =>
          rw [printFields_cons_writtenParameter] at same
          simp only [List.append_assoc, List.cons_append] at same
          rcases quoted_append_inj same with ⟨names, continued⟩
          simp only [List.cons.injEq, true_and] at continued
          rcases quoted_append_inj continued with ⟨_, continued⟩
          simp only [List.cons.injEq, true_and] at continued
          rcases quoted_append_inj continued with ⟨paths, continued⟩
          simp only [List.cons.injEq, true_and] at continued
          rw [Prod.ext names paths]
          congr 1
          -- A comma or the closing brace tells whether there are more parameters.
          by_cases last : rest = []
          · by_cases otherLast : others = []
            · rw [last, otherLast]
            · simp [last, otherLast] at continued
          · by_cases otherLast : others = []
            · simp [last, otherLast] at continued
            · rw [if_neg last, if_neg otherLast] at continued
              exact ih (List.tail_eq_of_cons_eq continued)

/-- The text determines the paths of all variables. -/
theorem writtenParameters_inj {first second : SortedMap String}
    (same : writtenParameters first = writtenParameters second) : first = second := by
  simp only [writtenParameters, render, ofMap, print, String.ofList_inj] at same
  exact SortedMap.ext_entries (printFields_inj (List.tail_eq_of_cons_eq same))

end CloudSynth
