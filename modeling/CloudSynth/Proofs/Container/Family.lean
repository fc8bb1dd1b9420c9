import CloudSynth.Proofs.Container.Run

/-!
# Families of generators

A family is a catalogue of generators with identities of their own, each of which makes entries of
the kind that it admits. The kinds are what the types of entries promise: a body that is answered
with entries of the right kinds ends with an entry of its own kind, or fails. It may request any
member of the family at any point, itself included, and go on in any way from what it is answered.

In a family every entry that is kept is of the kind of its generator, so it answers every later
request for it (`Catalogue.Runs.typed`).
-/

namespace CloudSynth

/-- Every result of the program satisfies a property, as long as the entries that it is answered
with are admissible for the generators that it asked for. -/
def Program.Yields {σ γ ν α : Type} (admissible : γ → ν → Prop) (property : α → Prop) :
    Program σ γ ν α → Prop
  | .finish (.ok result) => property result
  | .finish (.error _) => True
  | .read next => ∀ state, (next state).Yields admissible property
  | .write _ next => next.Yields admissible property
  | .request reference next =>
      (∀ entry, admissible reference entry → (next (.ok entry)).Yields admissible property) ∧
        ∀ failure, (next (.error failure)).Yields admissible property

theorem Program.yields_trivial {σ γ ν α : Type} (admissible : γ → ν → Prop)
    (program : Program σ γ ν α) : program.Yields admissible fun _ => True := by
  induction program with
  | finish outcome => cases outcome <;> trivial
  | read next ih => exact ih
  | write state next ih => exact ih
  | request reference next ih =>
      exact ⟨fun entry _ => ih (.ok entry), fun failure => ih (.error failure)⟩

namespace Catalogue

variable {σ γ ν : Type}

/-- The entry is of the kind that the generator makes. -/
def Admits (catalogue : Catalogue σ γ ν) (reference : γ) (entry : ν) : Prop :=
  (catalogue.generator reference).admits entry = true

/-- The catalogue lists finitely many generators, of pairwise distinct identities, which make
entries of their own kinds. -/
structure IsFamily (catalogue : Catalogue σ γ ν) : Prop where
  listed : ∀ reference, (catalogue.generator reference).id ∈ catalogue.ids
  distinct : ∀ reference other,
    (catalogue.generator reference).id = (catalogue.generator other).id → reference = other
  typed : ∀ reference,
    (catalogue.generator reference).body.Yields catalogue.Admits (catalogue.Admits reference)

/-- Every entry of the container is of the kind that its generator makes. -/
def Typed (catalogue : Catalogue σ γ ν) (container : Container σ ν) : Prop :=
  ∀ reference entry,
    container.lookup? (catalogue.generator reference).id = some entry →
      catalogue.Admits reference entry

theorem typed_new (catalogue : Catalogue σ γ ν) (state : σ) :
    catalogue.Typed (Container.new state) := by
  intro reference entry stored
  simp at stored

theorem IsFamily.id_ne {catalogue : Catalogue σ γ ν} (family : catalogue.IsFamily)
    {reference other : γ} (different : reference ≠ other) :
    (catalogue.generator reference).id ≠ (catalogue.generator other).id :=
  fun same => different (family.distinct reference other same)

/-- When the body of a generator has run, its result is the answer and the entry that is kept for
it, or its failure is the answer and nothing is kept. -/
theorem settle_eq {catalogue : Catalogue σ γ ν} {reference : γ} {inner between : Container σ ν}
    {result answer : Except BackendError ν}
    (absent : inner.lookup? (catalogue.generator reference).id = none)
    (admitted : ∀ entry, result = .ok entry → catalogue.Admits reference entry)
    (settled : Container.settle (catalogue.generator reference) (result, inner) =
      (answer, between)) :
    answer = result ∧
      between.lookup? (catalogue.generator reference).id = result.toOption := by
  cases result with
  | error failure =>
      rw [Container.settle_error] at settled
      cases settled
      exact ⟨rfl, absent⟩
  | ok entry =>
      rw [Container.settle_ok absent, Container.ofKind_of_admits (admitted entry rfl)] at settled
      cases settled
      refine ⟨rfl, ?_⟩
      rw [Container.lookup?_append]
      change (inner.lookup? (catalogue.generator reference).id).or _ = _
      simp [absent, Except.toOption]

/-- The end of a run keeps every entry of the kind of its generator. -/
theorem IsFamily.typed_settle {catalogue : Catalogue σ γ ν} (family : catalogue.IsFamily)
    {reference : γ} {inner between : Container σ ν} {result answer : Except BackendError ν}
    (typed : catalogue.Typed inner)
    (absent : inner.lookup? (catalogue.generator reference).id = none)
    (admitted : ∀ entry, result = .ok entry → catalogue.Admits reference entry)
    (settled : Container.settle (catalogue.generator reference) (result, inner) =
      (answer, between)) :
    catalogue.Typed between := by
  intro other entry stored
  by_cases same : reference = other
  · subst same
    rw [(settle_eq absent admitted settled).2] at stored
    cases result with
    | error failure => cases stored
    | ok made =>
        cases stored
        exact admitted entry rfl
  · have unchanged := Container.lookup?_settle_of_ne (result, inner)
      (family.id_ne same)
    rw [settled] at unchanged
    exact typed other entry (unchanged.symm.trans stored)

/-- Runs keep entries typed, and a program ends as it promises when its requests are answered with
admissible entries. -/
theorem Runs.typed {catalogue : Catalogue σ γ ν} (family : catalogue.IsFamily) {α : Type}
    {program : Program σ γ ν α} {before after : Container σ ν} {chronicle : Chronicle σ γ ν}
    {outcome : Except BackendError α} {property : α → Prop}
    (run : catalogue.Runs program before chronicle outcome after)
    (yields : program.Yields catalogue.Admits property) (typed : catalogue.Typed before) :
    catalogue.Typed after ∧ ∀ result, outcome = .ok result → property result := by
  induction run with
  | finish outcome container =>
      refine ⟨typed, ?_⟩
      rintro result rfl
      exact yields
  | read rest ih => exact ih (yields _) typed
  | write rest ih => exact ih yields typed
  | @recalled _ reference _ container _ answer _ _ known rest ih =>
      refine ih ?_ typed
      cases answer with
      | error failure => exact yields.2 failure
      | ok entry =>
          rcases Container.immediate?_cases known with ⟨kept, stored, answered⟩ | ⟨_, _, answered⟩
          · rw [Container.ofKind_of_admits (typed _ _ stored)] at answered
            cases answered
            exact yields.1 entry (typed _ _ stored)
          · cases answered
  | @computed _ reference _ _ inner between _ result answer _ _ _ unknown body settled rest ihBody
      ihRest =>
      rcases ihBody (family.typed reference) typed with ⟨typedInner, admitted⟩
      have absent := Runs.lookup?_body unknown body
      rcases settle_eq absent admitted settled with ⟨rfl, _⟩
      refine ihRest ?_ (family.typed_settle typedInner absent admitted settled)
      cases answer with
      | error failure => exact yields.2 failure
      | ok entry => exact yields.1 entry (admitted entry rfl)

end Catalogue

end CloudSynth
