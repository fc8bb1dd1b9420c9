import CloudSynth.Proofs.Container.Evaluation

/-!
# Containers on the way

A program that runs on a container leads it through others, and so do the bodies that run for its
requests, and those that run for theirs. `Catalogue.Passes` says which containers these are. The
last of them is the one that the run ends with (`Catalogue.passes_run`), and a sequence passes
through those of its first part and then those of the second (`Catalogue.Passes.of_bind`).
-/

namespace CloudSynth.Catalogue

variable {σ γ ν α β : Type}

/-- Running the program on the first container leads through the second. -/
inductive Passes (catalogue : Catalogue σ γ ν) (through : Container σ ν) :
    {α : Type} → Program σ γ ν α → Container σ ν → Prop
  | here {α : Type} (program : Program σ γ ν α) : Passes catalogue through program through
  | read {α : Type} {next : σ → Program σ γ ν α} {container : Container σ ν}
    (rest : Passes catalogue through (next container.state) container) :
    Passes catalogue through (.read next) container
  | write {α : Type} {state : σ} {next : Program σ γ ν α} {container : Container σ ν}
    (rest : Passes catalogue through next { container with state }) :
    Passes catalogue through (.write state next) container
  /-- While the body of the requested generator runs. -/
  | inside {α : Type} {reference : γ} {next : Except BackendError ν → Program σ γ ν α}
    {container : Container σ ν}
    (unknown : container.immediate? (catalogue.generator reference) = none)
    (body : Passes catalogue through (catalogue.generator reference).body
      (container.enter (catalogue.generator reference))) :
    Passes catalogue through (.request reference next) container
  /-- After the request has been answered. -/
  | answered {α : Type} {reference : γ} {next : Except BackendError ν → Program σ γ ν α}
    {container : Container σ ν}
    (rest : Passes catalogue through (next (catalogue.resolve reference container).1)
      (catalogue.resolve reference container).2) :
    Passes catalogue through (.request reference next) container

variable {catalogue : Catalogue σ γ ν} {program : Program σ γ ν α}
  {container through : Container σ ν}

theorem passes_run (listed : ∀ reference, (catalogue.generator reference).id ∈ catalogue.ids)
    (program : Program σ γ ν α) (container : Container σ ν) :
    catalogue.Passes (catalogue.run program container).2 program container := by
  induction program generalizing container with
  | finish outcome => exact .here _
  | read next ih => exact .read (ih container.state container)
  | write state next ih => exact .write (ih { container with state })
  | request reference next ih =>
      rw [catalogue.run_request listed]
      exact .answered (ih _ _)

namespace Passes

theorem of_finish {outcome : Except BackendError α}
    (passes : catalogue.Passes through (.finish outcome : Program σ γ ν α) container) :
    through = container := by
  cases passes
  rfl

theorem of_act {change : σ → Except BackendError α × σ}
    (passes : catalogue.Passes through (Program.act change) container) :
    through = container ∨ through = (catalogue.run (Program.act change) container).2 := by
  cases passes with
  | here => exact Or.inl rfl
  | read rest =>
      cases rest with
      | here => exact Or.inl rfl
      | write rest => exact Or.inr rest.of_finish

theorem of_modify {change : σ → σ}
    (passes : catalogue.Passes through (modify change : Program σ γ ν PUnit) container) :
    through = container ∨ through = { container with state := change container.state } := by
  change catalogue.Passes through (Program.act fun state => (.ok (), change state)) container
    at passes
  exact passes.of_act

theorem of_bind (listed : ∀ reference, (catalogue.generator reference).id ∈ catalogue.ids)
    {next : α → Program σ γ ν β} (passes : catalogue.Passes through (program >>= next) container) :
    catalogue.Passes through program container ∨
      ∃ result between, catalogue.run program container = (.ok result, between) ∧
        catalogue.Passes through (next result) between := by
  change catalogue.Passes through (program.bind next) container at passes
  induction program generalizing container with
  | finish outcome =>
      cases outcome with
      | error failure =>
          rw [Program.bind] at passes
          rw [passes.of_finish]
          exact Or.inl (.here _)
      | ok result => exact Or.inr ⟨result, container, rfl, passes⟩
  | read continuation ih =>
      cases passes with
      | here => exact Or.inl (.here _)
      | read rest =>
          rcases ih _ rest with first | ⟨result, between, done, last⟩
          · exact Or.inl (.read first)
          · exact Or.inr ⟨result, between, done, last⟩
  | write state continuation ih =>
      cases passes with
      | here => exact Or.inl (.here _)
      | write rest =>
          rcases ih rest with first | ⟨result, between, done, last⟩
          · exact Or.inl (.write first)
          · exact Or.inr ⟨result, between, done, last⟩
  | request reference continuation ih =>
      cases passes with
      | here => exact Or.inl (.here _)
      | inside unknown body => exact Or.inl (.inside unknown body)
      | answered rest =>
          rcases ih _ rest with first | ⟨result, between, done, last⟩
          · exact Or.inl (.answered first)
          · refine Or.inr ⟨result, between, ?_, last⟩
            rw [catalogue.run_request listed]
            exact done

/-- What is being resolved is resolved all the way. -/
theorem isResolving (listed : ∀ reference, (catalogue.generator reference).id ∈ catalogue.ids)
    (passes : catalogue.Passes through program container) {id : GeneratorId}
    (running : container.isResolving id = true) : through.isResolving id = true := by
  induction passes with
  | here program => exact running
  | read rest ih => exact ih running
  | write rest ih => exact ih running
  | inside unknown body ih =>
      apply ih
      rw [Container.isResolving_enter, running, Bool.true_or]
  | @answered _ reference next before rest ih =>
      apply ih
      have done : catalogue.run (Program.entryOf reference) before =
          (_, (catalogue.resolve reference before).2) := rfl
      have resolving := resolving_of_run listed done
      rw [Container.isResolving_congr resolving]
      exact running

end Passes

end CloudSynth.Catalogue
