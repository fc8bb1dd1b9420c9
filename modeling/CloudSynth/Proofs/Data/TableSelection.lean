import Mathlib.Data.List.Nodup
import CloudSynth.Data.TableSelection

/-!
# Selection of tables to adopt

No branch may be listed twice, so a branch has one mapping at most, and the order in which mappings
are listed does not matter.
-/

namespace CloudSynth.TableMapping

variable {mappings : List TableMapping} {identifier : BackendIdentifier}

/-- The mapping gives the model a table. -/
def Maps (mapping : TableMapping) (model table : String) : Prop :=
  ∃ tables, mapping.tables = some tables ∧ tables.find? model = some table

theorem find?_eq_some_iff (distinct : (mappings.map (·.branchName)).Nodup) {branch : String}
    {mapping : TableMapping} :
    mappings.find? (·.branchName = branch) = some mapping ↔
      mapping ∈ mappings ∧ mapping.branchName = branch := by
  constructor
  · intro found
    exact ⟨List.mem_of_find?_eq_some found, by simpa using List.find?_some found⟩
  · rintro ⟨mapping_mem, rfl⟩
    cases found : mappings.find? (·.branchName = mapping.branchName) with
    | none =>
        rw [List.find?_eq_none] at found
        exact absurd (decide_eq_true rfl) (found mapping mapping_mem)
    | some other =>
        have same : other.branchName = mapping.branchName := by
          simpa using List.find?_some found
        rw [List.inj_on_of_nodup_map distinct (List.mem_of_find?_eq_some found) mapping_mem same]

theorem find?_perm {others : List TableMapping} (perm : mappings.Perm others)
    (distinct : (mappings.map (·.branchName)).Nodup) (branch : String) :
    others.find? (·.branchName = branch) = mappings.find? (·.branchName = branch) := by
  have distinctToo : (others.map (·.branchName)).Nodup := (perm.map _).nodup_iff.mp distinct
  apply Option.ext
  intro mapping
  rw [find?_eq_some_iff distinct, find?_eq_some_iff distinctToo, perm.mem_iff]

/-! ## Selected tables -/

theorem select_eq_ok {tables : SortedMap String} :
    select mappings identifier = .ok tables ↔ (mappings.map (·.branchName)).Nodup ∧
      tables = ((mappings.find? (·.branchName = branchOf identifier)).bind (·.tables)).getD {} := by
  unfold select branchesDistinct
  split <;> simp_all [eq_comm]

theorem exists_select (distinct : (mappings.map (·.branchName)).Nodup)
    (identifier : BackendIdentifier) : ∃ tables, select mappings identifier = .ok tables :=
  ⟨_, select_eq_ok.mpr ⟨distinct, rfl⟩⟩

theorem select_of_repeated (repeated : ¬ (mappings.map (·.branchName)).Nodup) :
    select mappings identifier = .error .branchRepeated := by
  simp [select, branchesDistinct, repeated]

/-- A model is given the table that the mapping of the branch gives it. -/
theorem find?_selected_iff {tables : SortedMap String}
    (selected : select mappings identifier = .ok tables) {model table : String} :
    tables.find? model = some table ↔
      ∃ mapping ∈ mappings, mapping.branchName = branchOf identifier ∧ mapping.Maps model table := by
  rcases select_eq_ok.mp selected with ⟨distinct, rfl⟩
  have nothing : ¬ ({} : SortedMap String).find? model = some table := nofun
  simp only [← and_assoc, ← find?_eq_some_iff distinct]
  cases mappings.find? (·.branchName = branchOf identifier) with
  | none => simpa using nothing
  | some mapping =>
      cases given : mapping.tables with
      | none => simpa [Maps, given] using nothing
      | some tables => simp [Maps, given]

/-- The order of the mappings does not matter. -/
theorem select_perm {others : List TableMapping} (perm : mappings.Perm others)
    (identifier : BackendIdentifier) :
    select others identifier = select mappings identifier := by
  by_cases distinct : (mappings.map (·.branchName)).Nodup
  · have distinctToo : (others.map (·.branchName)).Nodup := (perm.map _).nodup_iff.mp distinct
    simp only [select, branchesDistinct, distinct, distinctToo, find?_perm perm distinct]
  · have repeated : ¬ (others.map (·.branchName)).Nodup :=
      fun distinctToo => distinct ((perm.map _).nodup_iff.mpr distinctToo)
    rw [select_of_repeated distinct, select_of_repeated repeated]

end CloudSynth.TableMapping
