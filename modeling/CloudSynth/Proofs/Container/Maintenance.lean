import CloudSynth.Proofs.Container.Passing

/-!
# Invariants of programs

An invariant of states that every program of a catalogue maintains: whatever a program writes
satisfies it, as long as what it reads does, however its requests are answered. What a program
promises of its result is said along with it, so that a state may be written that depends on results
of earlier steps (`Program.Maintains.bind`).

If every body maintains the invariant then so does every run, in all containers that the run passes
through, including those inside of bodies (`Catalogue.Passes.maintains`).
-/

namespace CloudSynth

variable {σ γ ν α β : Type}

namespace Program

/-- The program writes only states that satisfy the invariant, as long as the states that it reads
do, and its result keeps a promise. -/
def Maintains (holds : σ → Prop) (promise : α → Prop) : Program σ γ ν α → Prop
  | .finish (.ok result) => promise result
  | .finish (.error _) => True
  | .read next => ∀ state, holds state → (next state).Maintains holds promise
  | .write state next => holds state ∧ next.Maintains holds promise
  | .request _ next => ∀ answer, (next answer).Maintains holds promise

variable {holds : σ → Prop} {promise weaker : α → Prop} {last : β → Prop}
  {program : Program σ γ ν α} {next : α → Program σ γ ν β}

/-- The program maintains the invariant and promises nothing. -/
abbrev Upholds (holds : σ → Prop) (program : Program σ γ ν α) : Prop :=
  program.Maintains holds fun _ => True

theorem upholds_finish (outcome : Except BackendError α) :
    Upholds holds (.finish outcome : Program σ γ ν α) := by
  cases outcome <;> trivial

theorem upholds_entryOf (reference : γ) :
    Upholds holds (entryOf reference : Program σ γ ν ν) := upholds_finish

namespace Maintains

theorem bind (head : program.Maintains holds promise)
    (rest : ∀ result, promise result → (next result).Maintains holds last) :
    (program >>= next).Maintains holds last := by
  change (program.bind next).Maintains holds last
  induction program with
  | finish outcome =>
      cases outcome with
      | error failure => trivial
      | ok result => exact rest result head
  | read continuation ih => exact fun state known => ih state (head state known)
  | write state continuation ih => exact ⟨head.1, ih head.2⟩
  | request reference continuation ih => exact fun answer => ih answer (head answer)

theorem weaken (maintains : program.Maintains holds promise)
    (implies : ∀ result, promise result → weaker result) : program.Maintains holds weaker := by
  induction program with
  | finish outcome =>
      cases outcome with
      | error failure => trivial
      | ok result => exact implies result maintains
  | read continuation ih => exact fun state known => ih state (maintains state known)
  | write state continuation ih => exact ⟨maintains.1, ih maintains.2⟩
  | request reference continuation ih => exact fun answer => ih answer (maintains answer)

theorem discard (maintains : program.Maintains holds promise) :
    Upholds holds (discard program) := maintains.bind fun _ _ => trivial

theorem act {change : σ → Except BackendError α × σ}
    (keeps : ∀ state, holds state → holds (change state).2)
    (kept : ∀ state result, holds state → (change state).1 = .ok result → promise result) :
    (Program.act change : Program σ γ ν α).Maintains holds promise := by
  intro state known
  refine ⟨keeps state known, ?_⟩
  cases ended : (change state).1 with
  | error failure => trivial
  | ok result => exact kept state result known ended

theorem ofExcept {outcome : Except BackendError α}
    (kept : ∀ result, outcome = .ok result → promise result) :
    (Program.ofExcept outcome : Program σ γ ν α).Maintains holds promise := by
  cases outcome with
  | error failure => trivial
  | ok result => exact kept result rfl

end Maintains

theorem upholds_act {change : σ → Except BackendError α × σ}
    (keeps : ∀ state, holds state → holds (change state).2) :
    Upholds holds (Program.act change : Program σ γ ν α) :=
  .act keeps fun _ _ _ _ => trivial

theorem upholds_get : Upholds holds (get : Program σ γ ν σ) := fun _ _ => trivial

theorem upholds_modify {change : σ → σ} (keeps : ∀ state, holds state → holds (change state)) :
    Upholds holds (modify change : Program σ γ ν PUnit) :=
  fun state known => ⟨keeps state known, trivial⟩

theorem upholds_modifyGet {change : σ → α × σ}
    (keeps : ∀ state, holds state → holds (change state).2) :
    Upholds holds (modifyGet change : Program σ γ ν α) :=
  fun state known => ⟨keeps state known, trivial⟩

theorem upholds_forM_list {act : α → Program σ γ ν PUnit} {items : List α}
    (every : ∀ item ∈ items, Upholds holds (act item)) : Upholds holds (items.forM act) := by
  induction items with
  | nil => trivial
  | cons item rest ih =>
      rw [List.forall_mem_cons] at every
      exact every.1.bind fun _ _ => ih every.2

theorem upholds_forM_option {act : α → Program σ γ ν PUnit} {item : Option α}
    (every : ∀ some ∈ item, Upholds holds (act some)) : Upholds holds (item.forM act) := by
  cases item with
  | none => trivial
  | some item => exact every item rfl

end Program

namespace Catalogue

variable {catalogue : Catalogue σ γ ν} {holds : σ → Prop}

theorem Runs.maintains
    (bodies : ∀ reference, Program.Upholds holds (catalogue.generator reference).body)
    {program : Program σ γ ν α} {before after : Container σ ν} {chronicle : Chronicle σ γ ν}
    {outcome : Except BackendError α} {promise : α → Prop}
    (run : catalogue.Runs program before chronicle outcome after)
    (maintains : program.Maintains holds promise) (known : holds before.state) :
    holds after.state ∧ ∀ result, outcome = .ok result → promise result := by
  induction run with
  | finish outcome container =>
      refine ⟨known, ?_⟩
      rintro result rfl
      exact maintains
  | read rest ih => exact ih (maintains _ known) known
  | write rest ih => exact ih maintains.2 maintains.1
  | recalled _ rest ih => exact ih (maintains _) known
  | @computed _ reference _ before inner between _ result answer _ _ _ unknown body settled rest
      ihBody ihRest =>
      have state : between.state = inner.state := by
        have kept := Container.state_settle (catalogue.generator reference) (result, inner)
        rwa [settled] at kept
      refine ihRest (maintains answer) ?_
      rw [state]
      exact (ihBody (bodies reference) known).1

section Maintains

variable (listed : ∀ reference, (catalogue.generator reference).id ∈ catalogue.ids)
  (bodies : ∀ reference, Program.Upholds holds (catalogue.generator reference).body)
  {program : Program σ γ ν α} {container : Container σ ν} {promise : α → Prop}

include listed bodies

theorem maintains_run (maintains : program.Maintains holds promise)
    (known : holds container.state) :
    holds (catalogue.run program container).2.state ∧
      ∀ result, (catalogue.run program container).1 = .ok result → promise result := by
  rcases catalogue.exists_runs listed program container with ⟨chronicle, run⟩
  exact run.maintains bodies maintains known

/-- The invariant holds all the way. -/
theorem Passes.maintains {through : Container σ ν}
    (passes : catalogue.Passes through program container)
    (maintains : program.Maintains holds promise) (known : holds container.state) :
    holds through.state := by
  induction passes with
  | here program => exact known
  | read rest ih => exact ih (maintains _ known) known
  | write rest ih => exact ih maintains.2 maintains.1
  | @inside _ reference _ container _ body ih =>
      exact ih ((bodies reference).weaken fun _ _ => trivial) known
  | @answered _ reference _ container rest ih =>
      refine ih (maintains _) ?_
      exact (maintains_run listed bodies (Program.upholds_entryOf reference) known).1

end Maintains

end Catalogue

end CloudSynth
