import Mathlib.Data.List.Nodup
import CloudSynth.Output
import CloudSynth.Proofs.Json.WrittenTexts
import CloudSynth.Stack

/-!
# Stacks and outputs

What the operations on stacks and outputs do. Registration succeeds exactly if the logical ids are
new and distinct, and then the resources stand at the end of the stack in their order
(`Stack.addAll_eq_ok`). Replacing the stack of one group, or the output of one key, leaves the
others alone.
-/

namespace CloudSynth

/-! ## Registration -/

namespace Stack

variable {stack after : Stack}

theorem has_iff (stack : Stack) (logicalId : String) :
    stack.has logicalId = true ↔ logicalId ∈ stack.resources.map (·.logicalId) := by
  simp [has]

/-- Resources are registered exactly if their logical ids are new and distinct. -/
theorem addAll_eq_ok {resources : List StackResource} :
    stack.addAll resources = (.ok (), after) ↔
      after = { stack with resources := stack.resources ++ resources } ∧
        (resources.map (·.logicalId)).Nodup ∧
        (stack.resources.map (·.logicalId)).Disjoint (resources.map (·.logicalId)) := by
  induction resources generalizing stack with
  | nil => simp [addAll, eq_comm]
  | cons first rest ih =>
      unfold addAll add
      by_cases taken : stack.has first.logicalId
      · rw [if_pos taken]
        rw [has_iff] at taken
        constructor
        · intro refused
          cases refused
        · rintro ⟨_, _, disjoint⟩
          exact absurd List.mem_cons_self (disjoint taken)
      · rw [if_neg taken]
        rw [has_iff] at taken
        simp only [ih, List.map_append, List.map_cons, List.map_nil, List.append_assoc,
          List.singleton_append, List.nodup_cons, List.disjoint_cons_right,
          List.disjoint_append_left, List.singleton_disjoint]
        constructor
        · rintro ⟨rfl, distinct, disjoint, absent⟩
          exact ⟨rfl, ⟨absent, distinct⟩, taken, disjoint⟩
        · rintro ⟨rfl, ⟨absent, distinct⟩, _, disjoint⟩
          exact ⟨rfl, distinct, disjoint, absent⟩

/-- The resources can be registered one after another, and the next one cannot: its logical id is
taken by the stack or by one of them. -/
structure StopsAt (stack : Stack) (before : List StackResource) (next : StackResource) : Prop where
  distinct : (before.map (·.logicalId)).Nodup
  free : (stack.resources.map (·.logicalId)).Disjoint (before.map (·.logicalId))
  taken : next.logicalId ∈ (stack.resources ++ before).map (·.logicalId)

/-- Registration that fails stops at a resource and reports its logical id. What comes before that
resource is registered. -/
theorem exists_stopsAt {resources : List StackResource} {failure : ConstructError}
    (refused : stack.addAll resources = (.error failure, after)) :
    ∃ before next rest, resources = before ++ next :: rest ∧ stack.StopsAt before next ∧
      failure = .duplicateLogicalId next.logicalId stack.name ∧
      after = { stack with resources := stack.resources ++ before } := by
  suffices split : ∃ before next rest, resources = before ++ next :: rest ∧
      stack.addAll before = (.ok (), after) ∧ after.has next.logicalId = true ∧
      failure = .duplicateLogicalId next.logicalId stack.name by
    rcases split with ⟨before, next, rest, split, registered, taken, reported⟩
    rcases addAll_eq_ok.mp registered with ⟨rfl, distinct, free⟩
    exact ⟨before, next, rest, split, ⟨distinct, free, (has_iff _ _).mp taken⟩, reported, rfl⟩
  induction resources generalizing stack with
  | nil => cases refused
  | cons first rest ih =>
      unfold addAll add at refused
      by_cases taken : stack.has first.logicalId
      · rw [if_pos taken] at refused
        cases refused
        exact ⟨[], first, rest, rfl, rfl, taken, rfl⟩
      · rw [if_neg taken] at refused
        rcases ih refused with ⟨before, next, later, split, registered, there, reported⟩
        refine ⟨first :: before, next, later, by rw [split]; rfl, ?_, there, reported⟩
        rw [addAll, add, if_neg taken]
        exact registered

theorem addAll_of_has {first : StackResource} (taken : stack.has first.logicalId = true)
    (rest : List StackResource) :
    stack.addAll (first :: rest) =
      (.error (.duplicateLogicalId first.logicalId stack.name), stack) := by
  simp only [addAll, add, if_pos taken]

theorem has_append {logicalId : String} (taken : stack.has logicalId = true)
    (resources : List StackResource) :
    Stack.has { stack with resources := stack.resources ++ resources } logicalId = true := by
  rw [has, List.any_append, Bool.or_eq_true]
  exact Or.inl taken

/-- What is registered stays, whatever becomes of the other resources. -/
theorem has_addAll {logicalId : String} (taken : stack.has logicalId = true)
    (resources : List StackResource) : (stack.addAll resources).2.has logicalId = true := by
  induction resources generalizing stack with
  | nil => exact taken
  | cons first rest ih =>
      simp only [addAll, add]
      by_cases refused : stack.has first.logicalId
      · rw [if_pos refused]
        exact taken
      · rw [if_neg refused]
        exact ih (has_append taken _)

theorem has_first_addAll (stack : Stack) (first : StackResource) (rest : List StackResource) :
    (stack.addAll (first :: rest)).2.has first.logicalId = true := by
  by_cases taken : stack.has first.logicalId
  · rw [addAll_of_has taken]
    exact taken
  · simp only [addAll, add, if_neg taken]
    apply has_addAll
    simp [has]

end Stack

namespace StackSet

variable (set : StackSet) (group other : String) (stack : Stack)

@[simp]
theorem stackFor_put_self : (set.put group stack).stackFor group = stack := by
  simp [stackFor, put]

theorem stackFor_put :
    (set.put group stack).stackFor other = if group = other then stack else set.stackFor other := by
  by_cases same : group = other <;> simp [stackFor, put, OrderedMap.find?_insert, newStack, same]

/-- A stack that comes into being when a generator runs is the one the group would have had. -/
@[simp]
theorem stackFor_touch : (set.touch group).stackFor other = set.stackFor other := by
  rw [touch, stackFor_put]
  split
  · next same => rw [same]
  · rfl

end StackSet

/-! ## Outputs -/

/-- A map has at most one value for a name. -/
theorem SortedMap.values_filter_entries {ν : Type} (map : SortedMap ν) (name : String) :
    (map.entries.filter (·.1 = name)).map (·.2) = (map.find? name).toList := by
  rcases map with ⟨entries, ascending⟩
  rw [SortedMap.find?]
  induction entries with
  | nil => rfl
  | cons first rest ih =>
      rw [List.pairwise_cons] at ascending
      by_cases here : first.1 = name
      · have none_later : rest.filter (·.1 = name) = [] := by
          rw [List.filter_eq_nil_iff]
          intro later later_mem same
          exact String.ne_of_lt (ascending.1 later later_mem)
            (here.trans (of_decide_eq_true same).symm)
        simp [here, none_later]
      · simpa [here] using ih ascending.2

namespace OutputStorage

variable (storage : OutputStorage) (key other : String) (entry : OutputEntry)

theorem find?_store :
    (storage.store key entry).find? other =
      if key = other then some entry else storage.find? other :=
  SortedMap.find?_insert storage.entries key other entry

theorem list_store_of_ne (different : key ≠ other) (field : String) :
    (storage.store key entry).list other field = storage.list other field := by
  simp only [list, find?_store, if_neg different]

theorem find?_append_of_ne (different : key ≠ other) :
    (storage.append key entry).find? other = storage.find? other := by
  simp only [append, find?_store, if_neg different]

theorem listIn_appendTo (payload : SortedMap String) (field other value : String) :
    listIn (appendTo payload field value) other =
      listIn payload other ++ if field = other then [value] else [] := by
  by_cases same : field = other
  · subst same
    rw [if_pos rfl, appendTo, listIn, SortedMap.find?_insert_self]
    exact Json.decodeTexts_encodeTexts _
  · rw [if_neg same, List.append_nil, appendTo, listIn, SortedMap.find?_insert, if_neg same, listIn]

theorem listIn_foldl_appendTo (pairs : List (String × String)) (payload : SortedMap String)
    (field : String) :
    listIn (pairs.foldl (fun payload pair => appendTo payload pair.1 pair.2) payload) field =
      listIn payload field ++ (pairs.filter (·.1 = field)).map (·.2) := by
  induction pairs generalizing payload with
  | nil => simp
  | cons pair rest ih =>
      rw [List.foldl_cons, ih, listIn_appendTo, List.append_assoc]
      by_cases same : pair.1 = field <;> simp [same]

/-- Every list is extended by the value the entry has for its field. -/
theorem list_append (field : String) :
    (storage.append key entry).list key field =
      storage.list key field ++ (entry.payload.find? field).toList := by
  rw [← entry.payload.values_filter_entries, list, append, find?_store, if_pos rfl]
  refine (listIn_foldl_appendTo _ _ field).trans (congrArg (· ++ _) ?_)
  rw [list]
  cases storage.find? key <;> rfl

theorem list_append_ofFields (version field value : String) :
    (storage.append key (.ofFields version [(field, value)])).list key field =
      storage.list key field ++ [value] := by
  rw [list_append]
  exact congrArg (_ ++ ·.toList) (SortedMap.find?_insert_self {} field value)

end OutputStorage

end CloudSynth
