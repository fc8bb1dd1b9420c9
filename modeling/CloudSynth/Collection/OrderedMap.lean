/-!
# Maps in order of declaration

A map that keeps its keys in the order in which they were first inserted. Inserting a key again
replaces the value and leaves the key where it is.
-/

namespace CloudSynth

universe u v

variable {κ : Type u} {ν : Type v}

/-- Pairs with pairwise distinct keys, in order of first insertion. -/
structure OrderedMap (κ : Type u) (ν : Type v) where
  entries : List (κ × ν)
  distinct : (entries.map (·.1)).Nodup

namespace OrderedMap

theorem ext {first second : OrderedMap κ ν} (same : first.entries = second.entries) :
    first = second := by
  cases first; cases second; cases same; rfl

/-- The map without keys. -/
def empty : OrderedMap κ ν := ⟨[], by simp⟩

instance : EmptyCollection (OrderedMap κ ν) := ⟨empty⟩

instance : Inhabited (OrderedMap κ ν) := ⟨empty⟩

/-- The keys, in order of first insertion. -/
def keys (map : OrderedMap κ ν) : List κ := map.entries.map (·.1)

/-- The values, in the order of their keys. -/
def values (map : OrderedMap κ ν) : List ν := map.entries.map (·.2)

/-- The number of keys. -/
def size (map : OrderedMap κ ν) : Nat := map.entries.length

variable [DecidableEq κ]

/-- Replaces the value of a key in place, or appends the pair. -/
def put (key : κ) (value : ν) : List (κ × ν) → List (κ × ν)
  | [] => [(key, value)]
  | entry :: rest => if entry.1 = key then (key, value) :: rest else entry :: put key value rest

theorem put_of_not_mem {key : κ} {entries : List (κ × ν)} (absent : key ∉ entries.map (·.1))
    (value : ν) : put key value entries = entries ++ [(key, value)] := by
  induction entries with
  | nil => rfl
  | cons entry rest ih =>
    rw [List.map_cons, List.mem_cons, not_or] at absent
    rw [put, if_neg fun same => absent.1 same.symm, ih absent.2, List.cons_append]

theorem keys_put (key : κ) (value : ν) (entries : List (κ × ν)) :
    (put key value entries).map (·.1) =
      if key ∈ entries.map (·.1) then entries.map (·.1) else entries.map (·.1) ++ [key] := by
  induction entries with
  | nil => simp [put]
  | cons entry rest ih =>
    by_cases same : entry.1 = key
    · simp [put, same]
    · have different : ¬ key = entry.1 := fun equal => same equal.symm
      simp only [put, same, if_false, List.map_cons, List.mem_cons, different, false_or, ih]
      split <;> simp_all

theorem nodup_put (key : κ) (value : ν) {entries : List (κ × ν)}
    (distinct : (entries.map (·.1)).Nodup) : ((put key value entries).map (·.1)).Nodup := by
  rw [keys_put]
  split
  · exact distinct
  · next absent =>
    rw [List.nodup_append]
    refine ⟨distinct, by simp, ?_⟩
    intro first firstIn second secondIn equal
    rw [List.mem_singleton] at secondIn
    exact absent (secondIn ▸ equal ▸ firstIn)

/-- The map with one more pair, or with another value for a key it has. -/
def insert (map : OrderedMap κ ν) (key : κ) (value : ν) : OrderedMap κ ν :=
  ⟨put key value map.entries, nodup_put key value map.distinct⟩

/-- The value of a key. -/
def find? (map : OrderedMap κ ν) (key : κ) : Option ν :=
  (map.entries.find? (·.1 = key)).map (·.2)

/-- The map has a value for the key. -/
def contains (map : OrderedMap κ ν) (key : κ) : Bool := (map.find? key).isSome

/-- The map of all the pairs, inserted from left to right. -/
def ofList (pairs : List (κ × ν)) : OrderedMap κ ν :=
  pairs.foldl (fun map pair => map.insert pair.1 pair.2) empty

/-- The map with the value of one key, if it has one, changed. -/
def modify (map : OrderedMap κ ν) (key : κ) (change : ν → ν) : OrderedMap κ ν :=
  match map.find? key with
  | some value => map.insert key (change value)
  | none => map

theorem find?_insert (map : OrderedMap κ ν) (key other : κ) (value : ν) :
    (map.insert key value).find? other = if key = other then some value else map.find? other := by
  obtain ⟨entries, distinct⟩ := map
  simp only [insert, find?]
  clear distinct
  induction entries with
  | nil => by_cases same : key = other <;> simp [put, same]
  | cons entry rest ih =>
    by_cases here : entry.1 = key
    · by_cases same : key = other <;> simp [put, here, same]
    · by_cases same : entry.1 = other
      · have different : ¬ key = other := fun equal => here (same.trans equal.symm)
        rw [put, if_neg here]
        simp [same, different]
      · simpa [put, here, same] using ih

@[simp]
theorem find?_insert_self (map : OrderedMap κ ν) (key : κ) (value : ν) :
    (map.insert key value).find? key = some value := by
  simp [find?_insert]

theorem keys_insert (map : OrderedMap κ ν) (key : κ) (value : ν) :
    (map.insert key value).keys = if key ∈ map.keys then map.keys else map.keys ++ [key] :=
  keys_put key value map.entries

theorem mem_keys_insert {map : OrderedMap κ ν} {key other : κ} {value : ν} :
    other ∈ (map.insert key value).keys ↔ other = key ∨ other ∈ map.keys := by
  rw [keys_insert]
  split
  · next present =>
    constructor
    · exact Or.inr
    · rintro (rfl | there)
      · exact present
      · exact there
  · rw [List.mem_append, List.mem_singleton, or_comm]

theorem mem_values_insert {map : OrderedMap κ ν} {key : κ} {value other : ν}
    (there : other ∈ (map.insert key value).values) : other = value ∨ other ∈ map.values := by
  obtain ⟨entries, distinct⟩ := map
  simp only [insert, values] at there ⊢
  clear distinct
  induction entries with
  | nil => simpa [put] using there
  | cons entry rest ih =>
    by_cases here : entry.1 = key
    · rw [put, if_pos here, List.map_cons, List.mem_cons] at there
      exact there.imp_right (List.mem_cons_of_mem _)
    · rw [put, if_neg here, List.map_cons, List.mem_cons] at there
      rcases there with rfl | later
      · exact Or.inr List.mem_cons_self
      · exact (ih later).imp_right (List.mem_cons_of_mem _)

theorem entries_insert_of_nil {map : OrderedMap κ ν} (nil : map.entries = []) (key : κ) (value : ν) :
    (map.insert key value).entries = [(key, value)] := by
  simp [insert, nil, put]

theorem find?_isSome_iff (map : OrderedMap κ ν) (key : κ) :
    (map.find? key).isSome ↔ key ∈ map.keys := by
  simp [find?, keys, List.find?_isSome]

theorem find?_eq_none {map : OrderedMap κ ν} {key : κ} (absent : key ∉ map.keys) :
    map.find? key = none := by
  rw [← Option.not_isSome_iff_eq_none, find?_isSome_iff]
  exact absent

theorem find?_modify (map : OrderedMap κ ν) (key other : κ) (change : ν → ν) :
    (map.modify key change).find? other =
      if key = other then (map.find? other).map change else map.find? other := by
  unfold modify
  cases stored : map.find? key with
  | none => by_cases same : key = other <;> simp_all
  | some value => by_cases same : key = other <;> simp_all [find?_insert]

/-- A pair that the map has makes no difference when it is inserted. -/
theorem insert_of_find? {map : OrderedMap κ ν} {key : κ} {value : ν}
    (stored : map.find? key = some value) : map.insert key value = map := by
  obtain ⟨entries, distinct⟩ := map
  simp only [insert, find?, OrderedMap.mk.injEq] at stored ⊢
  clear distinct
  induction entries with
  | nil => simp at stored
  | cons entry rest ih =>
    by_cases here : entry.1 = key
    · simp only [List.find?_cons, here, decide_true, Option.map_some, Option.some.injEq] at stored
      rw [put, if_pos here, ← here, ← stored]
    · simp only [List.find?_cons, here, decide_false] at stored
      rw [put, if_neg here, ih stored]

/-- A change that leaves the value of the key as it is makes no difference. -/
theorem modify_of_find? {map : OrderedMap κ ν} {key : κ} {change : ν → ν}
    (same : ∀ value, map.find? key = some value → change value = value) :
    map.modify key change = map := by
  unfold modify
  cases stored : map.find? key with
  | none => rfl
  | some value => exact insert_of_find? ((same value stored).symm ▸ stored)

@[simp]
theorem keys_modify (map : OrderedMap κ ν) (key : κ) (change : ν → ν) :
    (map.modify key change).keys = map.keys := by
  unfold modify
  cases stored : map.find? key with
  | none => rfl
  | some value =>
    have present : key ∈ map.keys := by
      rw [← find?_isSome_iff, stored]
      rfl
    rw [keys_insert, if_pos present]

end OrderedMap

end CloudSynth
