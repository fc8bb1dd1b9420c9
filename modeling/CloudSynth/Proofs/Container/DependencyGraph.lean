import Mathlib.Data.List.Chain
import Mathlib.Logic.Relation
import CloudSynth.Proofs.Container.Recipes

/-!
# Generators over a dependency graph

Here the bodies of generators do nothing but request what they need, in a fixed order: a body ends
with the first failure that it is answered with, and otherwise with an entry or with a failure of
its own. Such a family is described by a graph, which says for every generator what it needs and
whether it fails.

Recipes that give up when something they need fails are of this form (`RecipeBook.follows`).
-/

namespace CloudSynth

/-! ## Graphs -/

/-- What every generator needs, in order, and the failure of its own that it ends with. -/
structure DependencyGraph (γ : Type) where
  needs : γ → List γ
  failure : γ → Option BackendError

namespace DependencyGraph

variable {γ : Type} {graph : DependencyGraph γ}

/-- The first generator needs the second. -/
def Needs (graph : DependencyGraph γ) (dependent needed : γ) : Prop :=
  needed ∈ graph.needs dependent

/-- The first generator is the second, or needs it directly or through others. -/
def Reaches (graph : DependencyGraph γ) : γ → γ → Prop := Relation.ReflTransGen graph.Needs

/-- The generators on the way around a cycle, in the order in which they need each other. The last
is the first again; otherwise none occurs twice. -/
def IsCycle (graph : DependencyGraph γ) (walk : List γ) : Prop :=
  ∃ first rest, walk = first :: rest ++ [first] ∧ (first :: rest).Nodup ∧
    walk.IsChain graph.Needs

/-- Neither a cycle nor a failing generator can be reached. -/
structure Sound (graph : DependencyGraph γ) (reference : γ) : Prop where
  acyclic : ∀ reached, graph.Reaches reference reached →
    ¬Relation.TransGen graph.Needs reached reached
  succeeds : ∀ reached, graph.Reaches reference reached → graph.failure reached = none

/-- Everything on a walk can be reached from its beginning. -/
theorem reaches_of_mem_walk {first reached : γ} {rest : List γ}
    (walk : (first :: rest).IsChain graph.Needs) (reached_mem : reached ∈ first :: rest) :
    graph.Reaches first reached := by
  induction rest generalizing first with
  | nil =>
      rw [List.mem_singleton] at reached_mem
      subst reached
      exact .refl
  | cons next rest ih =>
      rcases List.mem_cons.mp reached_mem with rfl | rest_mem
      · exact .refl
      · rw [List.isChain_cons_cons] at walk
        exact .head walk.1 (ih walk.2 rest_mem)

/-- A generator on a cycle needs itself through others. -/
theorem IsCycle.exists_transGen {walk : List γ} (cycle : graph.IsCycle walk) :
    ∃ first ∈ walk, Relation.TransGen graph.Needs first first := by
  rcases cycle with ⟨first, rest, rfl, _, chain⟩
  refine ⟨first, by simp, ?_⟩
  cases rest with
  | nil =>
      have needs : graph.Needs first first := by simpa using chain
      exact .single needs
  | cons next rest =>
      simp only [List.cons_append, List.isChain_cons_cons] at chain
      exact .head' chain.1 (reaches_of_mem_walk chain.2 (by simp))

/-- From a sound generator no cycle can be reached. -/
theorem Sound.not_isCycle {reference : γ} {walk : List γ} (sound : graph.Sound reference)
    (reaches : ∀ reached ∈ walk, graph.Reaches reference reached) : ¬graph.IsCycle walk := by
  intro cycle
  rcases cycle.exists_transGen with ⟨first, first_mem, path⟩
  exact sound.acyclic first (reaches first first_mem) path

end DependencyGraph

/-! ## Bodies that follow a graph -/

namespace Program

variable {σ γ ν α : Type}

/-- The program makes no request and ends with the outcome. -/
def EndsWith (outcome : Except BackendError α) : Program σ γ ν α → Prop
  | .finish ended => ended = outcome
  | .read next => ∀ state, (next state).EndsWith outcome
  | .write _ next => next.EndsWith outcome
  | .request _ _ => False

/-- The program makes the requests in order. It ends with the first failure that it is answered
with; if there is none it ends in the way that is given. -/
def Requests (admissible : γ → ν → Prop) (ending : Except BackendError α → Prop) :
    Program σ γ ν α → List γ → Prop
  | .finish outcome, needs => needs = [] ∧ ending outcome
  | .read next, needs => ∀ state, (next state).Requests admissible ending needs
  | .write _ next, needs => next.Requests admissible ending needs
  | .request reference next, needs => ∃ rest, needs = reference :: rest ∧
      (∀ failure, (next (.error failure)).EndsWith (.error failure)) ∧
        ∀ entry, admissible reference entry → (next (.ok entry)).Requests admissible ending rest

theorem EndsWith.yields {admissible : γ → ν → Prop} {property : α → Prop}
    {failure : BackendError} {program : Program σ γ ν α}
    (ends : program.EndsWith (.error failure)) : program.Yields admissible property := by
  induction program with
  | finish outcome =>
      cases ends
      trivial
  | read next ih => exact fun state => ih state (ends state)
  | write state next ih => exact ih ends
  | request reference next ih => exact ends.elim

theorem Requests.yields {admissible : γ → ν → Prop} {ending : Except BackendError α → Prop}
    {property : α → Prop} {program : Program σ γ ν α} {needs : List γ}
    (requests : program.Requests admissible ending needs)
    (promised : ∀ result, ending (.ok result) → property result) :
    program.Yields admissible property := by
  induction program generalizing needs with
  | finish outcome =>
      cases outcome with
      | ok result => exact promised result requests.2
      | error failure => trivial
  | read next ih => exact fun state => ih state (requests state)
  | write state next ih => exact ih requests
  | request reference next ih =>
      rcases requests with ⟨rest, _, failing, going⟩
      exact ⟨fun entry admitted => ih (.ok entry) (going entry admitted),
        fun failure => (failing failure).yields⟩

end Program

namespace Catalogue

variable {σ γ ν : Type} {catalogue : Catalogue σ γ ν} {graph : DependencyGraph γ}

/-- How a body ends when it got all that it needs: with its own failure if it has one, else with an
entry. -/
def Ends (catalogue : Catalogue σ γ ν) (own : Option BackendError) (reference : γ)
    (outcome : Except BackendError ν) : Prop :=
  match own with
  | some failure => outcome = .error failure
  | none => ∃ entry, outcome = .ok entry ∧ catalogue.Admits reference entry

/-- The catalogue lists finitely many generators, of pairwise distinct identities, whose bodies do
what the graph says. -/
structure Follows (catalogue : Catalogue σ γ ν) (graph : DependencyGraph γ) : Prop where
  listed : ∀ reference, (catalogue.generator reference).id ∈ catalogue.ids
  distinct : ∀ reference other,
    (catalogue.generator reference).id = (catalogue.generator other).id → reference = other
  bodies : ∀ reference, (catalogue.generator reference).body.Requests catalogue.Admits
    (catalogue.Ends (graph.failure reference) reference) (graph.needs reference)

theorem Follows.isFamily (follows : catalogue.Follows graph) : catalogue.IsFamily where
  listed := follows.listed
  distinct := follows.distinct
  typed := by
    intro reference
    refine (follows.bodies reference).yields ?_
    intro entry ends
    unfold Ends at ends
    cases failing : graph.failure reference with
    | some failure =>
        rw [failing] at ends
        cases ends
    | none =>
        rw [failing] at ends
        rcases ends with ⟨made, same, admitted⟩
        cases same
        exact admitted

/-- The group of a generator. -/
def group (catalogue : Catalogue σ γ ν) (reference : γ) : String :=
  (catalogue.generator reference).group

/-- What stands on the list of generators being resolved for a generator. -/
def mark (catalogue : Catalogue σ γ ν) (reference : γ) : GeneratorId × String :=
  ((catalogue.generator reference).id, catalogue.group reference)

/-- The container has an entry for the generator. -/
def Stored (catalogue : Catalogue σ γ ν) (container : Container σ ν) (reference : γ) : Prop :=
  ∃ entry, container.lookup? (catalogue.generator reference).id = some entry

theorem Stored.of_extends {container later : Container σ ν} {reference : γ}
    (stored : catalogue.Stored container reference) (extended : later.Extends container) :
    catalogue.Stored later reference := by
  rcases stored with ⟨entry, stored⟩
  exact ⟨entry, extended _ entry stored⟩

theorem not_stored_iff {container : Container σ ν} {reference : γ} :
    ¬catalogue.Stored container reference ↔
      container.lookup? (catalogue.generator reference).id = none := by
  simp [Stored, Option.eq_none_iff_forall_ne_some]

end Catalogue

/-! ## Recipes over a graph -/

namespace RecipeBook

/-- The places of what is needed by name, up to the first name that is not known, and the failure to
end with then. -/
def needed (book : RecipeBook) (own : Option BackendError) :
    List String → List book.Place × Option BackendError
  | [] => ([], own)
  | name :: names =>
    match book.placeOf? name with
    | some place => (place :: (book.needed own names).1, (book.needed own names).2)
    | none => ([], some (.configuration "UnknownReference" name ""))

/-- The needs of a recipe, and the failure that it ends with. -/
def neededAt (book : RecipeBook) (place : book.Place) : List book.Place × Option BackendError :=
  book.needed ((book.recipe place).failure.map (.configuration "StubFailure" · "stub"))
    (book.recipe place).needs

/-- The graph of recipes that give up when something they need fails. -/
def graph (book : RecipeBook) : DependencyGraph book.Place where
  needs place := (book.neededAt place).1
  failure place := (book.neededAt place).2

/-- Gathering makes a request for every known name and ends at the first unknown one. -/
theorem requests_gather (book : RecipeBook) {place : book.Place} {own : Option BackendError}
    {next : Program RecipeState book.Place RecipeEntry RecipeEntry}
    (ends : next.Requests book.catalogue.Admits (book.catalogue.Ends own place) [])
    (names : List String) :
    Program.Requests book.catalogue.Admits
      (book.catalogue.Ends (book.needed own names).2 place)
      ((names.forM fun name => discard (book.request name)) >>= fun _ => next)
      (book.needed own names).1 := by
  induction names with
  | nil => exact ends
  | cons name names ih =>
      have forM_cons : (name :: names).forM (fun name => discard (book.request name)) =
          discard (book.request name) >>= fun _ =>
            names.forM fun name => discard (book.request name) := rfl
      rw [forM_cons, bind_assoc]
      cases known : book.placeOf? name with
      | none =>
          simp only [needed, known, request]
          exact ⟨rfl, rfl⟩
      | some reference =>
          simp only [needed, known, request]
          exact ⟨_, rfl, fun failure => rfl, fun entry _ => ih⟩

/-- What a recipe makes is its failure if it has one, else an entry of its kind. -/
theorem ends_make (book : RecipeBook) (place : book.Place) (state : RecipeState) :
    book.catalogue.Ends
      ((book.recipe place).failure.map (.configuration "StubFailure" · "stub")) place
      ((book.recipe place).make place state).1 := by
  cases failing : (book.recipe place).failure with
  | some message => simp [Catalogue.Ends, Recipe.make, failing]
  | none =>
      cases kind : (book.recipe place).kind <;>
        simp [Catalogue.Ends, Catalogue.Admits, Recipe.make, catalogue, generator, failing, kind,
          RecipeEntry.kind]

/-- Recipes that keep their identities to themselves and give up when something they need fails
follow their graph. -/
theorem follows (book : RecipeBook) (unshared : ∀ place, (book.recipe place).identity = none)
    (strict : ∀ place, (book.recipe place).tolerant = false) :
    book.catalogue.Follows book.graph where
  listed := (book.isFamily unshared).listed
  distinct := (book.isFamily unshared).distinct
  bodies := by
    intro place state
    have gathers : book.gather (book.recipe place) =
        (book.recipe place).needs.forM fun name => discard (book.request name) := by
      simp only [gather, strict, Bool.false_eq_true, if_false]
    change (book.gather (book.recipe place) >>= fun _ => Program.act _).Requests _ _ _
    rw [gathers]
    refine book.requests_gather ?_ _
    intro state
    exact ⟨rfl, book.ends_make place state⟩

end RecipeBook

end CloudSynth
