import CloudSynth.Proofs.Container.Run

/-!
# Evaluation of programs

The equations by which `Catalogue.run` evaluates a program, operation by operation: a sequence
evaluates its first part and, if that succeeds, the second part on the container it leaves; a
request is answered by `Catalogue.resolve`, which runs the body of the generator if there is neither
an entry nor a cycle to answer with. Proofs about particular programs use these equations and no
bound on the depth of requests.
-/

namespace CloudSynth.Catalogue

variable {σ γ ν α β : Type} {catalogue : Catalogue σ γ ν}

/-! ## Operations on the state -/

@[simp]
theorem run_pure (result : α) (container : Container σ ν) :
    catalogue.run (pure result) container = (.ok result, container) := rfl

@[simp]
theorem run_throw (failure : BackendError) (container : Container σ ν) :
    catalogue.run (throw failure : Program σ γ ν α) container = (.error failure, container) := rfl

@[simp]
theorem run_ofExcept (outcome : Except BackendError α) (container : Container σ ν) :
    catalogue.run (Program.ofExcept outcome) container = (outcome, container) := rfl

@[simp]
theorem run_modify (change : σ → σ) (container : Container σ ν) :
    catalogue.run (modify change : Program σ γ ν PUnit) container =
      (.ok (), { container with state := change container.state }) := rfl

@[simp]
theorem run_modifyGet (change : σ → α × σ) (container : Container σ ν) :
    catalogue.run (modifyGet change : Program σ γ ν α) container =
      (.ok (change container.state).1,
        { container with state := (change container.state).2 }) := rfl

@[simp]
theorem run_act (change : σ → Except BackendError α × σ) (container : Container σ ν) :
    catalogue.run (Program.act change) container =
      ((change container.state).1, { container with state := (change container.state).2 }) := rfl

/-! ## Sequences -/

theorem run_bind (listed : ∀ reference, (catalogue.generator reference).id ∈ catalogue.ids)
    (program : Program σ γ ν α) (next : α → Program σ γ ν β) (container : Container σ ν) :
    catalogue.run (program >>= next) container =
      match catalogue.run program container with
      | (.ok result, between) => catalogue.run (next result) between
      | (.error failure, between) => (.error failure, between) := by
  change catalogue.run (program.bind next) container = _
  induction program generalizing container with
  | finish outcome => cases outcome <;> rfl
  | read continuation ih => exact ih container.state container
  | write state continuation ih => exact ih { container with state }
  | request reference continuation ih =>
      rw [Program.bind, catalogue.run_request listed, ih, catalogue.run_request listed]

theorem run_bind_eq_ok (listed : ∀ reference, (catalogue.generator reference).id ∈ catalogue.ids)
    {program : Program σ γ ν α} {next : α → Program σ γ ν β} {before after : Container σ ν}
    {result : β} :
    catalogue.run (program >>= next) before = (.ok result, after) ↔
      ∃ first between, catalogue.run program before = (.ok first, between) ∧
        catalogue.run (next first) between = (.ok result, after) := by
  rw [run_bind listed]
  rcases catalogue.run program before with ⟨_ | first, between⟩
  · simp
  · constructor
    · intro rest
      exact ⟨first, between, rfl, rest⟩
    · rintro ⟨_, _, same, rest⟩
      cases same
      exact rest

theorem run_bind_eq_error
    (listed : ∀ reference, (catalogue.generator reference).id ∈ catalogue.ids)
    {program : Program σ γ ν α} {next : α → Program σ γ ν β} {before after : Container σ ν}
    {failure : BackendError} :
    catalogue.run (program >>= next) before = (.error failure, after) ↔
      catalogue.run program before = (.error failure, after) ∨
        ∃ first between, catalogue.run program before = (.ok first, between) ∧
          catalogue.run (next first) between = (.error failure, after) := by
  rw [run_bind listed]
  rcases catalogue.run program before with ⟨_ | first, between⟩
  · simp
  · constructor
    · intro rest
      exact Or.inr ⟨first, between, rfl, rest⟩
    · rintro (same | ⟨_, _, same, rest⟩)
      · cases same
      · cases same
        exact rest

theorem run_discard_eq_ok
    (listed : ∀ reference, (catalogue.generator reference).id ∈ catalogue.ids)
    {program : Program σ γ ν α} {before after : Container σ ν} :
    catalogue.run (discard program) before = (.ok (), after) ↔
      ∃ result, catalogue.run program before = (.ok result, after) := by
  change catalogue.run (program >>= fun _ => pure ()) before = _ ↔ _
  rw [run_bind_eq_ok listed]
  constructor
  · rintro ⟨first, between, done, rest⟩
    cases rest
    exact ⟨first, done⟩
  · rintro ⟨result, done⟩
    exact ⟨result, after, done, rfl⟩

/-! ## Requests -/

theorem resolve_of_known {reference : γ} {container : Container σ ν}
    {answer : Except BackendError ν}
    (known : container.immediate? (catalogue.generator reference) = some answer) :
    catalogue.resolve reference container = (answer, container) :=
  catalogue.resolveWithin_of_known _ known

/-- A request that cannot be answered at once runs the body of the generator. -/
theorem resolve_of_unknown
    (listed : ∀ reference, (catalogue.generator reference).id ∈ catalogue.ids) {reference : γ}
    {container : Container σ ν}
    (unknown : container.immediate? (catalogue.generator reference) = none) :
    catalogue.resolve reference container =
      Container.settle (catalogue.generator reference)
        (catalogue.run (catalogue.generator reference).body
          (container.enter (catalogue.generator reference))) := by
  rcases catalogue.exists_runs listed (catalogue.generator reference).body
    (container.enter (catalogue.generator reference)) with ⟨nested, body⟩
  rcases catalogue.exists_runs_resolve listed reference container with ⟨chronicle, request⟩
  have computed : catalogue.Runs (Program.entryOf reference) container _ _ _ :=
    .computed unknown body rfl (.finish _ _)
  rcases request.unique computed with ⟨_, answer, after⟩
  exact Prod.ext answer.symm after.symm

/-- What holds of a request as soon as it holds of those that its body makes, holds of every
request: requests nest no deeper than there are generators that are not being resolved. -/
theorem request_induction
    (listed : ∀ reference, (catalogue.generator reference).id ∈ catalogue.ids)
    {motive : γ → Container σ ν → Prop}
    (step : ∀ reference container,
      (container.immediate? (catalogue.generator reference) = none → ∀ other inner,
        inner.resolving = (container.enter (catalogue.generator reference)).resolving →
          motive other inner) → motive reference container)
    (reference : γ) (container : Container σ ν) : motive reference container := by
  induction depth : (catalogue.idle container).length using Nat.strongRecOn
    generalizing reference container with
  | _ depth shallower =>
      apply step
      intro unknown other inner nested
      refine shallower _ ?_ other inner rfl
      rw [← depth, catalogue.idle_congr nested]
      exact catalogue.length_idle_enter_lt (listed reference)
        (Container.immediate?_eq_none_iff.mp unknown).2

/-! ## What every evaluation keeps -/

section

variable {program : Program σ γ ν α} {before after : Container σ ν}
  {outcome : Except BackendError α}

theorem resolving_of_run (listed : ∀ reference, (catalogue.generator reference).id ∈ catalogue.ids)
    (done : catalogue.run program before = (outcome, after)) :
    after.resolving = before.resolving := by
  rcases catalogue.exists_runs listed program before with ⟨chronicle, run⟩
  rw [done] at run
  exact run.resolving_eq

theorem extends_of_run (listed : ∀ reference, (catalogue.generator reference).id ∈ catalogue.ids)
    (done : catalogue.run program before = (outcome, after)) : after.Extends before := by
  rcases catalogue.exists_runs listed program before with ⟨chronicle, run⟩
  rw [done] at run
  exact run.extends_before

end

end CloudSynth.Catalogue
