import CloudSynth.Proofs.Container.Lifecycle
import CloudSynth.Proofs.Container.Recipes

/-!
# How requests are answered

Whatever a program requests, and however the bodies that run for it go on from what they are
answered, the container answers in an orderly way (`Chronicle.Orderly`): a request restores the list
of generators being resolved and succeeds exactly with the entry that is stored afterwards, entries
stay, no body runs inside its own run, a generator that has succeeded never runs again, and one that
has failed runs again when it is next requested.

The main statement is `Catalogue.IsFamily.run_orderly`.
-/

namespace CloudSynth

/-- The order that requests keep which lead to the container. -/
structure Chronicle.Orderly {σ γ ν : Type} (chronicle : Chronicle σ γ ν)
    (catalogue : Catalogue σ γ ν) (final : Container σ ν) : Prop where
  /-- A request leaves the list of generators being resolved as it was. -/
  restores : ∀ call ∈ chronicle.calls, call.after.resolving = call.before.resolving
  /-- A request is answered with an entry exactly when this entry is stored afterwards. -/
  answers : ∀ call ∈ chronicle.calls, ∀ entry, call.answer = .ok entry ↔
    call.after.lookup? (catalogue.generator call.reference).id = some entry
  /-- Entries are never removed or replaced. -/
  keeps : chronicle.events.Pairwise fun earlier later => later.container.Extends earlier.container
  keepsToEnd : ∀ event ∈ chronicle.events, final.Extends event.container
  /-- A body that begins a second time has ended before. -/
  notNested : ∀ reference one two before between after,
    chronicle.events =
        before ++ .began reference one :: (between ++ .began reference two :: after) →
      ∃ result container, .ended reference result container ∈ between
  /-- After a body has succeeded, requests for its generator are answered with what it made, and
  nothing runs for them. -/
  completes : ∀ reference entry container before after,
    chronicle.events = before ++ .ended reference (.ok entry) container :: after →
      ∀ event ∈ after, event.reference = reference →
        ∃ container, event = .recalled reference (.ok entry) container
  /-- A body that fails stores nothing. -/
  stores : ∀ reference failure container,
    .ended reference (.error failure) container ∈ chronicle.events →
      container.lookup? (catalogue.generator reference).id = none
  /-- After a body has failed, the next request for its generator begins it again. -/
  retries : ∀ reference failure container before between event after,
    chronicle.events =
        before ++ .ended reference (.error failure) container :: (between ++ event :: after) →
      (∀ other ∈ between, other.reference ≠ reference) → event.reference = reference →
        ∃ container, event = .began reference container

namespace Catalogue

variable {σ γ ν : Type} {catalogue : Catalogue σ γ ν}

namespace Runs

variable {α : Type} {program : Program σ γ ν α} {before after : Container σ ν}
  {chronicle : Chronicle σ γ ν} {outcome : Except BackendError α}

/-- Every request, at whatever depth, restores the list of generators being resolved. -/
theorem calls_restore (run : catalogue.Runs program before chronicle outcome after) :
    ∀ call ∈ chronicle.calls, call.after.resolving = call.before.resolving := by
  induction run with
  | finish outcome container => simp [Chronicle.calls]
  | read rest ih => exact ih
  | write rest ih => exact ih
  | recalled known rest ih =>
      intro call call_mem
      rcases List.mem_cons.mp call_mem with rfl | later_mem
      · rfl
      · exact ih call later_mem
  | computed unknown body settled rest ihBody ihRest =>
      intro call call_mem
      rcases List.mem_cons.mp call_mem with rfl | nested_or_later
      · exact resolving_answered unknown body.resolving_eq settled
      · rcases List.mem_append.mp nested_or_later with nested_mem | later_mem
        · exact ihBody call nested_mem
        · exact ihRest call later_mem

/-- Every request is answered with the entry that is stored afterwards, or fails when there is
none. -/
theorem calls_answer (family : catalogue.IsFamily)
    (run : catalogue.Runs program before chronicle outcome after)
    (typed : catalogue.Typed before) :
    ∀ call ∈ chronicle.calls,
      call.after.lookup? (catalogue.generator call.reference).id = call.answer.toOption := by
  induction run with
  | finish outcome container => simp [Chronicle.calls]
  | read rest ih => exact ih typed
  | write rest ih => exact ih typed
  | recalled known rest ih =>
      intro call call_mem
      rcases List.mem_cons.mp call_mem with rfl | later_mem
      · rcases Container.immediate?_cases known with ⟨entry, stored, rfl⟩ | ⟨absent, _, rfl⟩
        · rw [Container.ofKind_of_admits (typed _ _ stored)]
          exact stored
        · exact absent
      · exact ih typed call later_mem
  | @computed _ reference _ _ _ _ _ _ _ _ _ _ unknown body settled rest ihBody ihRest =>
      have absent := lookup?_body unknown body
      rcases body.typed family (family.typed reference) typed with ⟨typedInner, admitted⟩
      intro call call_mem
      rcases List.mem_cons.mp call_mem with rfl | nested_or_later
      · rcases settle_eq absent admitted settled with ⟨rfl, stored⟩
        exact stored
      · rcases List.mem_append.mp nested_or_later with nested_mem | later_mem
        · exact ihBody typed call nested_mem
        · exact ihRest (family.typed_settle typedInner absent admitted settled) call later_mem

/-- Whatever happens in a run, happens on top of the entries that there were before. -/
theorem events_extend (run : catalogue.Runs program before chronicle outcome after) :
    ∀ event ∈ chronicle.events, event.container.Extends before := by
  induction run with
  | finish outcome container => simp [Chronicle.events]
  | read rest ih => exact ih
  | write rest ih => exact ih
  | @recalled _ _ _ container _ _ _ _ known rest ih =>
      intro event event_mem
      rcases List.mem_cons.mp event_mem with rfl | later_mem
      · exact .refl container
      · exact ih event later_mem
  | @computed _ _ _ before _ _ _ _ _ _ _ _ unknown body settled rest ihBody ihRest =>
      have answered := extends_answered body.extends_before settled
      intro event event_mem
      rcases List.mem_cons.mp event_mem with rfl | nested_or_later
      · exact .refl before
      · rcases List.mem_append.mp nested_or_later with nested_mem | ended_or_later
        · exact ihBody event nested_mem
        · rcases List.mem_cons.mp ended_or_later with rfl | later_mem
          · exact answered
          · exact (ihRest event later_mem).trans answered

/-- Whatever happens in a run, its entries are still there in the end. -/
theorem extends_events (run : catalogue.Runs program before chronicle outcome after) :
    ∀ event ∈ chronicle.events, after.Extends event.container := by
  induction run with
  | finish outcome container => simp [Chronicle.events]
  | read rest ih => exact ih
  | write rest ih => exact ih
  | recalled known rest ih =>
      intro event event_mem
      rcases List.mem_cons.mp event_mem with rfl | later_mem
      · exact rest.extends_before
      · exact ih event later_mem
  | @computed _ reference _ _ inner _ _ result _ _ _ _ unknown body settled rest ihBody ihRest =>
      have kept := Container.extends_settle (catalogue.generator reference) (result, inner)
      rw [settled] at kept
      intro event event_mem
      rcases List.mem_cons.mp event_mem with rfl | nested_or_later
      · exact rest.extends_before.trans (extends_answered body.extends_before settled)
      · rcases List.mem_append.mp nested_or_later with nested_mem | ended_or_later
        · exact rest.extends_before.trans (kept.trans (ihBody event nested_mem))
        · rcases List.mem_cons.mp ended_or_later with rfl | later_mem
          · exact rest.extends_before
          · exact ihRest event later_mem

/-- Later events find every entry that earlier ones found. -/
theorem events_pairwise (run : catalogue.Runs program before chronicle outcome after) :
    chronicle.events.Pairwise
      fun earlier later => later.container.Extends earlier.container := by
  induction run with
  | finish outcome container => exact .nil
  | read rest ih => exact ih
  | write rest ih => exact ih
  | recalled known rest ih => exact .cons rest.events_extend ih
  | @computed _ reference _ before inner between _ result _ nested later _ unknown body settled rest
      ihBody ihRest =>
      have kept := Container.extends_settle (catalogue.generator reference) (result, inner)
      rw [settled] at kept
      have fromEnd : (GeneratorEvent.ended reference result between :: later.events).Pairwise
          fun earlier later => later.container.Extends earlier.container :=
        .cons rest.events_extend ihRest
      have afterBody : ∀ event ∈ GeneratorEvent.ended reference result between :: later.events,
          event.container.Extends inner := by
        intro event event_mem
        rcases List.mem_cons.mp event_mem with rfl | later_mem
        · exact kept
        · exact (rest.events_extend event later_mem).trans kept
      refine .cons ?_ (List.pairwise_append.mpr ⟨ihBody, fromEnd, ?_⟩)
      · intro event event_mem
        rcases List.mem_append.mp event_mem with nested_mem | rest_mem
        · exact body.events_extend event nested_mem
        · exact (afterBody event rest_mem).trans body.extends_before
      · intro event nested_mem other rest_mem
        exact (afterBody other rest_mem).trans (body.extends_events event nested_mem)

/-- A body that fails stores nothing under its identity. -/
theorem lookup?_of_ended_error (family : catalogue.IsFamily)
    (run : catalogue.Runs program before chronicle outcome after)
    (typed : catalogue.Typed before) {subject : γ} {failure : BackendError}
    {container : Container σ ν}
    (ended : .ended subject (.error failure) container ∈ chronicle.events) :
    container.lookup? (catalogue.generator subject).id = none := by
  induction run with
  | finish outcome container => cases ended
  | read rest ih => exact ih typed ended
  | write rest ih => exact ih typed ended
  | recalled known rest ih =>
      rcases List.mem_cons.mp ended with impossible | later_mem
      · cases impossible
      · exact ih typed later_mem
  | @computed _ reference _ _ _ _ _ _ _ _ _ _ unknown body settled rest ihBody ihRest =>
      have absent := lookup?_body unknown body
      rcases body.typed family (family.typed reference) typed with ⟨typedInner, admitted⟩
      rcases List.mem_cons.mp ended with impossible | nested_or_later
      · cases impossible
      · rcases List.mem_append.mp nested_or_later with nested_mem | ended_or_later
        · exact ihBody typed nested_mem
        · rcases List.mem_cons.mp ended_or_later with same | later_mem
          · cases same
            exact (settle_eq absent admitted settled).2
          · exact ihRest (family.typed_settle typedInner absent admitted settled) later_mem

/-- Runs in a family are orderly, whatever entries there are at the start. -/
theorem orderly (family : catalogue.IsFamily)
    (run : catalogue.Runs program before chronicle outcome after)
    (typed : catalogue.Typed before) : chronicle.Orderly catalogue after where
  restores := run.calls_restore
  answers := by
    intro call call_mem entry
    rw [run.calls_answer family typed call call_mem]
    cases call.answer <;> simp [Except.toOption]
  keeps := run.events_pairwise
  keepsToEnd := run.extends_events
  notNested := by
    intro reference one two before between after split
    have life := run.life family typed reference
    rw [split] at life
    exact life.exists_ended_between
  completes := by
    intro reference entry container before after split event event_mem same
    have life := run.life family typed reference
    rw [split] at life
    rcases life.exists_of_append with ⟨_, _, fromEnd⟩
    exact fromEnd.stored_of_ended_ok.recalled_of_stored event_mem same
  stores := fun _ _ _ ended => run.lookup?_of_ended_error family typed ended
  retries := by
    intro reference failure container before between event after split others same
    have life := run.life family typed reference
    rw [split] at life
    rcases life.exists_of_append with ⟨_, _, fromEnd⟩
    exact fromEnd.idle_of_ended_error.began_of_idle others same

end Runs

/-- In a family, a program runs on a fresh container in one way and to its end, which is what
`Catalogue.run` computes; its requests, and those made while bodies run for them, are answered in
order. A program may make any sequence of requests: each is answered by `Catalogue.resolve`, and
the program goes on from the answer. -/
theorem IsFamily.run_orderly (family : catalogue.IsFamily) :
    (∀ (α : Type) (reference : γ) (next : Except BackendError ν → Program σ γ ν α)
        (container : Container σ ν),
      catalogue.run (.request reference next) container =
        catalogue.run (next (catalogue.resolve reference container).1)
          (catalogue.resolve reference container).2) ∧
      ∀ (α : Type) (program : Program σ γ ν α) (state : σ),
        ∃ chronicle,
          (∀ record outcome after,
            catalogue.Runs program (.new state) record outcome after ↔
              record = chronicle ∧ (outcome, after) = catalogue.run program (.new state)) ∧
          chronicle.Orderly catalogue (catalogue.run program (.new state)).2 := by
  constructor
  · intro α reference next container
    exact catalogue.run_request family.listed reference next container
  · intro α program state
    rcases catalogue.runs_iff family.listed program (.new state) with ⟨chronicle, unique⟩
    have run := (unique chronicle _ _).mpr ⟨rfl, rfl⟩
    exact ⟨chronicle, unique, run.orderly family (catalogue.typed_new state)⟩

end Catalogue

namespace RecipeBook

/-- Two recipes that need each other; the first goes on when the second fails. -/
def entwined : RecipeBook where
  recipes := [
    { name := "left", group := "auth", needs := ["right"], tolerant := true, failure := none,
      kind := .text, identity := none },
    { name := "right", group := "data", needs := ["left"], tolerant := false, failure := none,
      kind := .number, identity := none }]

/-- Requests for recipes that need each other are answered in order. -/
theorem entwined_orderly :
    entwined.catalogue.IsFamily ∧
      ∃ chronicle,
        (∀ record outcome after,
          entwined.catalogue.Runs (do let _ ← entwined.request "left"; entwined.request "right")
              (.new (.new .default)) record outcome after ↔
            record = chronicle ∧ (outcome, after) =
              entwined.catalogue.run (do let _ ← entwined.request "left"; entwined.request "right")
                (.new (.new .default))) ∧
        chronicle.Orderly entwined.catalogue
          (entwined.catalogue.run (do let _ ← entwined.request "left"; entwined.request "right")
            (.new (.new .default))).2 := by
  have family : entwined.catalogue.IsFamily := entwined.isFamily (by decide)
  exact ⟨family, (Catalogue.IsFamily.run_orderly family).2 _ _ _⟩

end RecipeBook

end CloudSynth
