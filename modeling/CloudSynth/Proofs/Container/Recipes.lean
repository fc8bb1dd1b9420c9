import CloudSynth.Container.Recipe
import CloudSynth.Proofs.Container.Family

/-!
# Recipes as a family

Recipes that keep their identities to themselves are a family of generators: a recipe ends with an
entry of its own kind or fails, whatever it is answered on the way.
-/

namespace CloudSynth

namespace Program

variable {σ γ ν α β : Type} {admissible : γ → ν → Prop}

theorem Yields.bind {program : Program σ γ ν α} {next : α → Program σ γ ν β}
    {middle : α → Prop} {property : β → Prop} (first : program.Yields admissible middle)
    (rest : ∀ result, middle result → (next result).Yields admissible property) :
    (program.bind next).Yields admissible property := by
  induction program with
  | finish outcome =>
      cases outcome with
      | ok result => exact rest result first
      | error failure => trivial
  | read continuation ih => exact fun state => ih state (first state)
  | write state continuation ih => exact ih first
  | request reference continuation ih =>
      exact ⟨fun entry admitted => ih (.ok entry) (first.1 entry admitted),
        fun failure => ih (.error failure) (first.2 failure)⟩

theorem yields_act {property : α → Prop} {change : σ → Except BackendError α × σ}
    (promised : ∀ state result, (change state).1 = .ok result → property result) :
    (act change : Program σ γ ν α).Yields admissible property := by
  intro state
  change (Program.finish (change state).1).Yields admissible property
  cases made : (change state).1 with
  | ok result => exact promised state result made
  | error failure => trivial

end Program

/-- What a recipe makes is of its kind. -/
theorem Recipe.kind_of_make {recipe : Recipe} {place : Nat} {state : RecipeState}
    {entry : RecipeEntry} (made : (recipe.make place state).1 = .ok entry) :
    entry.kind = recipe.kind := by
  unfold make at made
  split at made
  · cases made
  · next kind =>
      cases made
      exact kind.symm
  · next kind =>
      cases made
      exact kind.symm

namespace RecipeBook

theorem id_mem_ids (book : RecipeBook) (place : book.Place) :
    (book.catalogue.generator place).id ∈ book.catalogue.ids :=
  List.mem_map.mpr ⟨place, List.mem_finRange place, rfl⟩

/-- Recipes of a book whose identities are not shared are a family. -/
theorem isFamily (book : RecipeBook) (unshared : ∀ place, (book.recipe place).identity = none) :
    book.catalogue.IsFamily where
  listed := book.id_mem_ids
  distinct := by
    intro place other same
    have ids : book.idAt place = book.idAt other := same
    simp only [idAt, unshared, GeneratorId.mk.injEq] at ids
    exact Fin.ext ids
  typed := by
    intro place
    change (Program.bind _ _).Yields _ _
    apply Program.Yields.bind (Program.yields_trivial _ _)
    intro _ _
    change (Program.bind _ _).Yields _ _
    apply Program.Yields.bind (Program.yields_trivial _ _)
    intro _ _
    apply Program.yields_act
    intro state entry made
    simp only [Catalogue.Admits, catalogue, generator, decide_eq_true_eq]
    exact Recipe.kind_of_make made

end RecipeBook

end CloudSynth
