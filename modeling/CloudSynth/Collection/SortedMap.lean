/-!
# Maps sorted by name

A map from names to values whose entries stand in ascending order of the names, so that two maps
with the same values are equal.
-/

namespace CloudSynth

universe u v

variable {ν : Type u}

/-- Pairs in strictly ascending order of their names. -/
structure SortedMap (ν : Type u) where
  entries : List (String × ν)
  ascending : entries.Pairwise (fun first second => first.1 < second.1)

namespace SortedMap

/-- Puts a pair at its place, instead of an older pair of the same name. -/
def put (name : String) (value : ν) : List (String × ν) → List (String × ν)
  | [] => [(name, value)]
  | entry :: rest =>
    if name < entry.1 then (name, value) :: entry :: rest
    else if name = entry.1 then (name, value) :: rest
    else entry :: put name value rest

theorem mem_put {name : String} {value : ν} {entries : List (String × ν)} {entry : String × ν}
    (member : entry ∈ put name value entries) : entry = (name, value) ∨ entry ∈ entries := by
  induction entries with
  | nil => simpa [put] using member
  | cons first rest ih =>
    simp only [put] at member
    split at member
    · simpa using member
    · split at member
      · rcases List.mem_cons.1 member with same | later
        · exact Or.inl same
        · exact Or.inr (List.mem_cons_of_mem _ later)
      · rcases List.mem_cons.1 member with same | later
        · exact Or.inr (same ▸ List.mem_cons_self)
        · exact (ih later).imp id (List.mem_cons_of_mem _)

theorem lt_of_not_lt_of_ne {first second : String} (notBefore : ¬ first < second)
    (different : ¬ first = second) : second < first := by
  rcases Std.lt_trichotomy first second with before | same | after
  · exact absurd before notBefore
  · exact absurd same different
  · exact after

theorem pairwise_put (name : String) (value : ν) {entries : List (String × ν)}
    (ascending : entries.Pairwise (fun first second => first.1 < second.1)) :
    (put name value entries).Pairwise (fun first second => first.1 < second.1) := by
  induction entries with
  | nil => simp [put]
  | cons first rest ih =>
    rw [List.pairwise_cons] at ascending
    simp only [put]
    split
    · next before =>
      refine List.pairwise_cons.2 ⟨?_, List.pairwise_cons.2 ascending⟩
      intro entry member
      rcases List.mem_cons.1 member with same | later
      · exact same ▸ before
      · exact String.lt_trans before (ascending.1 entry later)
    · next notBefore =>
      split
      · next same =>
        exact List.pairwise_cons.2 ⟨fun entry later => same ▸ ascending.1 entry later, ascending.2⟩
      · next different =>
        refine List.pairwise_cons.2 ⟨?_, ih ascending.2⟩
        intro entry member
        rcases mem_put member with same | later
        · exact same ▸ lt_of_not_lt_of_ne notBefore different
        · exact ascending.1 entry later

/-- The map without names. -/
def empty : SortedMap ν := ⟨[], List.Pairwise.nil⟩

instance : EmptyCollection (SortedMap ν) := ⟨empty⟩

instance : Inhabited (SortedMap ν) := ⟨empty⟩

instance [DecidableEq ν] : DecidableEq (SortedMap ν) := fun first second =>
  decidable_of_iff (first.entries = second.entries)
    ⟨fun same => by cases first; cases second; cases same; rfl, fun same => same ▸ rfl⟩

/-- The map with one more pair, or with another value for a name it has. -/
def insert (map : SortedMap ν) (name : String) (value : ν) : SortedMap ν :=
  ⟨put name value map.entries, pairwise_put name value map.ascending⟩

/-- The value of a name. -/
def find? (map : SortedMap ν) (name : String) : Option ν :=
  (map.entries.find? (·.1 = name)).map (·.2)

/-- The names, in ascending order. -/
def keys (map : SortedMap ν) : List String := map.entries.map (·.1)

/-- The values, in the order of their names. -/
def values (map : SortedMap ν) : List ν := map.entries.map (·.2)

/-- The map has a value for the name. -/
def contains (map : SortedMap ν) (name : String) : Bool := (map.find? name).isSome

/-- The number of names. -/
def size (map : SortedMap ν) : Nat := map.entries.length

/-- The map of all the pairs; of two pairs with one name the later counts. -/
def ofList (pairs : List (String × ν)) : SortedMap ν :=
  pairs.foldl (fun map pair => map.insert pair.1 pair.2) empty

theorem mem_of_mem_ofList {pairs : List (String × ν)} {entry : String × ν}
    (member : entry ∈ (ofList pairs).entries) : entry ∈ pairs := by
  have kept : ∀ (map : SortedMap ν) (rest : List (String × ν)),
      entry ∈ (rest.foldl (fun map pair => map.insert pair.1 pair.2) map).entries →
        entry ∈ map.entries ∨ entry ∈ rest := by
    intro map rest
    induction rest generalizing map with
    | nil => exact Or.inl
    | cons first rest ih =>
      intro there
      rcases ih _ there with before | later
      · rcases mem_put before with same | earlier
        · exact Or.inr (same ▸ List.mem_cons_self)
        · exact Or.inl earlier
      · exact Or.inr (List.mem_cons_of_mem _ later)
  rcases kept empty pairs member with none | there
  · cases none
  · exact there

/-- The map with the same names and the values changed. -/
def mapValues {ω : Type u} (change : ν → ω) (map : SortedMap ν) : SortedMap ω :=
  ⟨map.entries.map fun entry => (entry.1, change entry.2), by
    rw [List.pairwise_map]; exact map.ascending⟩

/-- The map with the value of one name, if it has one, changed. -/
def modify (map : SortedMap ν) (name : String) (change : ν → ν) : SortedMap ν :=
  match map.find? name with
  | some value => map.insert name (change value)
  | none => map

theorem ext_entries {first second : SortedMap ν} (same : first.entries = second.entries) :
    first = second := by
  cases first; cases second; cases same; rfl

@[simp]
theorem find?_empty (name : String) : (empty : SortedMap ν).find? name = none := rfl

theorem find?_put (name other : String) (value : ν) {entries : List (String × ν)}
    (ascending : entries.Pairwise (fun first second => first.1 < second.1)) :
    ((put name value entries).find? (·.1 = other)).map (·.2) =
      if name = other then some value else (entries.find? (·.1 = other)).map (·.2) := by
  induction entries with
  | nil => by_cases same : name = other <;> simp [put, same]
  | cons first rest ih =>
    rw [List.pairwise_cons] at ascending
    simp only [put]
    split
    · by_cases same : name = other <;> simp [same]
    · split
      · next same =>
        by_cases here : name = other
        · simp [here]
        · have : ¬ first.1 = other := fun equal => here (same.trans equal)
          simp [here, this]
      · next different =>
        by_cases here : first.1 = other
        · have : ¬ name = other := fun equal => different (equal.trans here.symm)
          simp [here, this]
        · simpa [here] using ih ascending.2

theorem find?_insert (map : SortedMap ν) (name other : String) (value : ν) :
    (map.insert name value).find? other = if name = other then some value else map.find? other :=
  find?_put name other value map.ascending

@[simp]
theorem find?_insert_self (map : SortedMap ν) (name : String) (value : ν) :
    (map.insert name value).find? name = some value := by
  simp [find?_insert]

section Fold

variable {β : Type v} (name : β → String) (value : β → ν)

theorem find?_foldl_insert_of_not_mem {items : List β} {other : String}
    (absent : other ∉ items.map name) (map : SortedMap ν) :
    (items.foldl (fun map item => map.insert (name item) (value item)) map).find? other =
      map.find? other := by
  induction items generalizing map with
  | nil => rfl
  | cons item rest ih =>
    rw [List.map_cons, List.mem_cons, not_or] at absent
    rw [List.foldl_cons, ih absent.2, find?_insert, if_neg (Ne.symm absent.1)]

/-- Of pairs with different names each can be found in a map that they have been added to. -/
theorem find?_foldl_insert_of_mem {items : List β} (distinct : (items.map name).Nodup) {item : β}
    (item_mem : item ∈ items) (map : SortedMap ν) :
    (items.foldl (fun map item => map.insert (name item) (value item)) map).find? (name item) =
      some (value item) := by
  induction items generalizing map with
  | nil => cases item_mem
  | cons first rest ih =>
    rw [List.map_cons, List.nodup_cons] at distinct
    rw [List.foldl_cons]
    rcases List.mem_cons.1 item_mem with rfl | later
    · rw [find?_foldl_insert_of_not_mem name value distinct.1, find?_insert_self]
    · exact ih distinct.2 later _

end Fold

theorem find?_isSome_iff (map : SortedMap ν) (name : String) :
    (map.find? name).isSome ↔ name ∈ map.keys := by
  simp [find?, keys, List.find?_isSome]

theorem mem_keys_insert {map : SortedMap ν} {name other : String} {value : ν} :
    other ∈ (map.insert name value).keys ↔ other ∈ map.keys ∨ other = name := by
  rw [← find?_isSome_iff, ← find?_isSome_iff, find?_insert]
  by_cases same : name = other
  · simp [same]
  · simp [same, Ne.symm same]

end SortedMap

end CloudSynth
