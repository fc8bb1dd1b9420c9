import Mathlib.Data.List.Induction
import Mathlib.Data.List.Nodup
import CloudSynth.Access.Grant

/-!
# First occurrences

Lists that are collected value by value, each value the first time it occurs. Such a list is what
`List.eraseDups` makes of all the values (`foldl_keepNew`), so what is collected in parts is what is
collected at once.
-/

namespace CloudSynth

universe u

variable {α : Type u} [BEq α] [LawfulBEq α]

theorem eraseDups_concat {values : List α} (value : α) :
    (values ++ [value]).eraseDups =
      if value ∈ values then values.eraseDups else values.eraseDups ++ [value] := by
  rw [List.eraseDups_append]
  by_cases there : value ∈ values <;> simp [List.removeAll, there, List.eraseDups_cons]

theorem nodup_eraseDups (values : List α) : values.eraseDups.Nodup := by
  induction values using List.reverseRecOn with
  | nil => exact List.nodup_nil
  | append_singleton values value ih =>
      rw [eraseDups_concat]
      split
      · exact ih
      · next absent =>
        rw [← List.concat_eq_append, List.nodup_concat]
        exact ⟨fun there => absent (List.mem_eraseDups.mp there), ih⟩

/-- A value that has been dropped would be dropped again. -/
theorem eraseDups_append_eraseDups (values more : List α) :
    (values ++ more.eraseDups).eraseDups = (values ++ more).eraseDups := by
  induction more using List.reverseRecOn with
  | nil => rfl
  | append_singleton more value ih =>
      rw [eraseDups_concat, ← List.append_assoc values more, eraseDups_concat]
      by_cases there : value ∈ more
      · rw [if_pos there, if_pos (List.mem_append_right values there), ih]
      · rw [if_neg there, ← List.append_assoc, eraseDups_concat, ih]
        simp only [List.mem_append, List.mem_eraseDups]

/-- Values that are collected after others. -/
theorem foldl_keepNew (values more : List α) :
    more.foldl (fun kept value => if value ∈ kept then kept else kept ++ [value])
        values.eraseDups = (values ++ more).eraseDups := by
  induction more generalizing values with
  | nil => rw [List.foldl_nil, List.append_nil]
  | cons value rest ih =>
      have kept : (if value ∈ values.eraseDups then values.eraseDups
          else values.eraseDups ++ [value]) = (values ++ [value]).eraseDups := by
        simp only [eraseDups_concat, List.mem_eraseDups]
      rw [List.foldl_cons, kept, ih, List.append_assoc, List.singleton_append]

theorem distinct_eq_eraseDups {β : Type u} [DecidableEq β] (values : List β) :
    distinct values = values.eraseDups := foldl_keepNew [] values

theorem appendAllNew_eraseDups (values more : List String) :
    appendAllNew values.eraseDups more = (values ++ more).eraseDups := foldl_keepNew values more

end CloudSynth
