import CloudSynth.Container.Basic

/-!
# Operations on containers

What each operation of the container does to its entries and to the list of generators being
resolved. A run puts its generator on the list, and when it is over the list is what it was before;
an entry is kept under the identity of the generator alone, and only where there was none.

The developments on runs and on dependency graphs use these facts only, and not the representation
of entries as a list of pairs.
-/

namespace CloudSynth

namespace Container

variable {σ γ ν : Type}

/-- Every entry of the earlier container is the entry of the later one under the same identity. -/
def Extends (later earlier : Container σ ν) : Prop :=
  ∀ id entry, earlier.lookup? id = some entry → later.lookup? id = some entry

theorem Extends.refl (container : Container σ ν) : container.Extends container :=
  fun _ _ stored => stored

theorem Extends.trans {first second third : Container σ ν} (later : third.Extends second)
    (earlier : second.Extends first) : third.Extends first :=
  fun id entry stored => later id entry (earlier id entry stored)

/-! ## Entries -/

@[simp]
theorem lookup?_new (state : σ) (id : GeneratorId) :
    (new state : Container σ ν).lookup? id = none := rfl

theorem contains_iff (container : Container σ ν) (id : GeneratorId) :
    container.contains id = true ↔ ∃ entry, container.lookup? id = some entry :=
  Option.isSome_iff_exists

/-- An entry that is put at the end counts where there was none. -/
theorem lookup?_append (entries : List (GeneratorId × ν)) (resolving : List (GeneratorId × String))
    (state : σ) (added id : GeneratorId) (entry : ν) :
    (Container.mk (entries ++ [(added, entry)]) resolving state).lookup? id =
      ((Container.mk entries resolving state).lookup? id).or
        (if added = id then some entry else none) := by
  simp only [lookup?, List.find?_append]
  cases entries.find? (·.1 = id) with
  | some pair => simp
  | none => by_cases same : added = id <;> simp [same]

/-! ## Generators being resolved -/

theorem isResolving_iff (container : Container σ ν) (id : GeneratorId) :
    container.isResolving id = true ↔ id ∈ container.resolving.map (·.1) := by
  simp [isResolving]

theorem isResolving_congr {container other : Container σ ν}
    (same : container.resolving = other.resolving) (id : GeneratorId) :
    container.isResolving id = other.isResolving id := by
  simp only [isResolving, same]

@[simp]
theorem resolving_enter (container : Container σ ν) (generator : Generator σ γ ν) :
    (container.enter generator).resolving =
      container.resolving ++ [(generator.id, generator.group)] := rfl

@[simp]
theorem isResolving_enter (container : Container σ ν) (generator : Generator σ γ ν)
    (id : GeneratorId) :
    (container.enter generator).isResolving id =
      (container.isResolving id || decide (generator.id = id)) := by
  simp [isResolving, enter]

/-- Leaving undoes what entering did to the list, if the generator was not on it. -/
theorem resolving_leave {container inner : Container σ ν} {generator : Generator σ γ ν}
    (idle : container.isResolving generator.id = false)
    (kept : inner.resolving = (container.enter generator).resolving) :
    (inner.leave generator).resolving = container.resolving := by
  have others : ∀ mark ∈ container.resolving, mark.1 ≠ generator.id := by
    intro mark mark_mem same
    have resolving : container.isResolving generator.id = true := by
      rw [isResolving_iff]
      exact List.mem_map.mpr ⟨mark, mark_mem, same⟩
    simp [resolving] at idle
  have unchanged : container.resolving.filter (·.1 ≠ generator.id) = container.resolving := by
    rw [List.filter_eq_self]
    intro mark mark_mem
    simpa using others mark mark_mem
  simp only [leave, kept, resolving_enter, List.filter_append, unchanged]
  simp

/-! ## Answers -/

theorem ofKind_of_admits {generator : Generator σ γ ν} {entry : ν}
    (admitted : generator.admits entry = true) : ofKind generator entry = .ok entry := by
  simp [ofKind, admitted]

theorem immediate?_of_entry {container : Container σ ν} {generator : Generator σ γ ν} {entry : ν}
    (stored : container.lookup? generator.id = some entry) :
    container.immediate? generator = some (ofKind generator entry) := by
  simp [immediate?, stored]

theorem immediate?_of_isResolving {container : Container σ ν} {generator : Generator σ γ ν}
    (absent : container.lookup? generator.id = none)
    (resolving : container.isResolving generator.id = true) :
    container.immediate? generator =
      some (.error (.cyclicDependency (container.cyclePath generator))) := by
  simp [immediate?, absent, resolving]

theorem immediate?_eq_none_iff {container : Container σ ν} {generator : Generator σ γ ν} :
    container.immediate? generator = none ↔
      container.lookup? generator.id = none ∧ container.isResolving generator.id = false := by
  cases stored : container.lookup? generator.id with
  | some entry => simp [immediate?, stored]
  | none => simp [immediate?, stored]

/-- What there is to answer with: an entry, or a cycle. -/
theorem immediate?_cases {container : Container σ ν} {generator : Generator σ γ ν}
    {answer : Except BackendError ν} (known : container.immediate? generator = some answer) :
    (∃ entry, container.lookup? generator.id = some entry ∧ answer = ofKind generator entry) ∨
      (container.lookup? generator.id = none ∧ container.isResolving generator.id = true ∧
        answer = .error (.cyclicDependency (container.cyclePath generator))) := by
  cases stored : container.lookup? generator.id with
  | some entry =>
      rw [immediate?_of_entry stored] at known
      exact Or.inl ⟨entry, rfl, (Option.some.inj known).symm⟩
  | none =>
      cases resolving : container.isResolving generator.id with
      | false =>
          rw [immediate?_eq_none_iff.mpr ⟨stored, resolving⟩] at known
          cases known
      | true =>
          rw [immediate?_of_isResolving stored resolving] at known
          exact Or.inr ⟨rfl, rfl, (Option.some.inj known).symm⟩

/-! ## The end of a run -/

theorem settle_error (generator : Generator σ γ ν) (failure : BackendError)
    (inner : Container σ ν) :
    settle generator (.error failure, inner) = (.error failure, inner.leave generator) := rfl

/-- A run that succeeds where there is no entry keeps what it made. -/
theorem settle_ok {generator : Generator σ γ ν} {inner : Container σ ν}
    (absent : inner.lookup? generator.id = none) (entry : ν) :
    settle generator (.ok entry, inner) =
      (ofKind generator entry,
        { inner.leave generator with entries := inner.entries ++ [(generator.id, entry)] }) := by
  have absentLeft : (inner.leave generator).lookup? generator.id = none := absent
  simp only [settle, keep, absentLeft]
  rfl

/-- Whatever a run ends with, it takes its generator off the list and does nothing else to it. -/
theorem resolving_settle (generator : Generator σ γ ν)
    (run : Except BackendError ν × Container σ ν) :
    (settle generator run).2.resolving = (run.2.leave generator).resolving := by
  rcases run with ⟨result, inner⟩
  cases result with
  | error failure => rfl
  | ok entry =>
      simp only [settle, keep]
      split <;> rfl

/-- The end of a run leaves the state as it is. -/
theorem state_settle (generator : Generator σ γ ν)
    (run : Except BackendError ν × Container σ ν) : (settle generator run).2.state = run.2.state := by
  rcases run with ⟨result, inner⟩
  cases result with
  | error failure => rfl
  | ok entry =>
      simp only [settle, keep]
      split <;> rfl

/-- The end of a run changes no entry but that of its generator. -/
theorem lookup?_settle_of_ne {generator : Generator σ γ ν}
    (run : Except BackendError ν × Container σ ν) {id : GeneratorId} (other : generator.id ≠ id) :
    (settle generator run).2.lookup? id = run.2.lookup? id := by
  rcases run with ⟨result, inner⟩
  cases result with
  | error failure => rfl
  | ok entry =>
      cases stored : inner.lookup? generator.id with
      | none =>
          rw [settle_ok stored]
          simp only [lookup?_append, other, if_false, Option.or_none]
          rfl
      | some kept =>
          have storedLeft : (inner.leave generator).lookup? generator.id = some kept := stored
          simp only [settle, keep, storedLeft]
          rfl

/-- The end of a run removes and replaces nothing. -/
theorem extends_settle (generator : Generator σ γ ν)
    (run : Except BackendError ν × Container σ ν) : (settle generator run).2.Extends run.2 := by
  intro id entry stored
  by_cases same : generator.id = id
  · subst same
    rcases run with ⟨result, inner⟩
    cases result with
    | error failure => exact stored
    | ok made =>
        have storedLeft : (inner.leave generator).lookup? generator.id = some entry := stored
        simp only [settle, keep, storedLeft]
  · rw [lookup?_settle_of_ne run same]
    exact stored

end Container

end CloudSynth
