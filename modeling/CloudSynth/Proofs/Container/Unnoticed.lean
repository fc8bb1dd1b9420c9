import CloudSynth.Proofs.Container.Lifecycle

/-!
# Changes that go unnoticed

Two programs are parallel up to a change of the state if they make the same requests and end alike,
one on a state and the other on the changed state, and what the one leaves is, when it is changed,
what the other leaves (`Program.Parallel`). A program that is parallel to itself takes no notice of
the change.

Of a catalogue some generators may notice the change. As long as none of these begins, a run on a
container and one on the changed container go alike, however requests nest
(`Catalogue.run_changed`).
-/

namespace CloudSynth

variable {σ γ ν α β : Type} {change : σ → σ}

/-- The programs do the same up to a change of the state. -/
inductive Program.Parallel (change : σ → σ) :
    {α : Type} → Program σ γ ν α → Program σ γ ν α → Prop
  | finish {α : Type} (outcome : Except BackendError α) :
    Parallel change (.finish outcome) (.finish outcome)
  | read {α : Type} {first second : σ → Program σ γ ν α}
    (rest : ∀ state, Parallel change (first state) (second (change state))) :
    Parallel change (.read first) (.read second)
  | write {α : Type} {state : σ} {first second : Program σ γ ν α}
    (rest : Parallel change first second) :
    Parallel change (.write state first) (.write (change state) second)
  | request {α : Type} {reference : γ} {first second : Except BackendError ν → Program σ γ ν α}
    (rest : ∀ answer, Parallel change (first answer) (second answer)) :
    Parallel change (.request reference first) (.request reference second)

namespace Program

/-- The program does the same on a state and on the changed state. -/
def Unaware (change : σ → σ) (program : Program σ γ ν α) : Prop := Parallel change program program

theorem Parallel.bind {first second : Program σ γ ν α} (parallel : Parallel change first second)
    {next other : α → Program σ γ ν β} (rest : ∀ result, Parallel change (next result)
      (other result)) : Parallel change (first >>= next) (second >>= other) := by
  change Parallel change (first.bind next) (second.bind other)
  induction parallel with
  | finish outcome =>
      cases outcome with
      | error failure => exact .finish _
      | ok result => exact rest result
  | read _ ih => exact .read ih
  | write _ ih => exact .write ih
  | request _ ih => exact .request ih

namespace Unaware

theorem finish (outcome : Except BackendError α) :
    Unaware change (.finish outcome : Program σ γ ν α) := Parallel.finish outcome

theorem bind {program : Program σ γ ν α} {next : α → Program σ γ ν β}
    (head : Unaware change program) (rest : ∀ result, Unaware change (next result)) :
    Unaware change (program >>= next) := Parallel.bind head rest

theorem entryOf (reference : γ) : Unaware change (entryOf reference : Program σ γ ν ν) :=
  .request fun answer => .finish answer

/-- A program goes on alike if it reads nothing that is changed. -/
theorem read {next : σ → Program σ γ ν α} (same : ∀ state, next (change state) = next state)
    (rest : ∀ state, Unaware change (next state)) : Unaware change (.read next) := by
  refine Parallel.read fun state => ?_
  rw [same]
  exact rest state

theorem act {step : σ → Except BackendError α × σ}
    (commutes : ∀ state, step (change state) = ((step state).1, change (step state).2)) :
    Unaware change (act step : Program σ γ ν α) := by
  refine Parallel.read fun state => ?_
  rw [commutes]
  exact .write (.finish _)

theorem modify {step : σ → σ} (commutes : ∀ state, step (change state) = change (step state)) :
    Unaware change (modify step : Program σ γ ν PUnit) := by
  change Unaware change (Program.act fun state => (.ok (), step state))
  exact act fun state => Prod.ext rfl (commutes state)

theorem modifyGet {step : σ → α × σ}
    (commutes : ∀ state, step (change state) = ((step state).1, change (step state).2)) :
    Unaware change (modifyGet step : Program σ γ ν α) := by
  change Unaware change (Program.act fun state => (.ok (step state).1, (step state).2))
  refine act fun state => ?_
  rw [commutes]

theorem forM_option {act : α → Program σ γ ν PUnit} (every : ∀ item, Unaware change (act item))
    (item : Option α) : Unaware change (item.forM act) := by
  cases item with
  | none => exact .finish _
  | some item => exact every item

end Unaware

end Program

/-- The container with its state changed. -/
def Container.changed (change : σ → σ) (container : Container σ ν) : Container σ ν :=
  { container with state := change container.state }

theorem Container.settle_changed (generator : Generator σ γ ν) (outcome : Except BackendError ν)
    (inner : Container σ ν) :
    settle generator (outcome, inner.changed change) =
      ((settle generator (outcome, inner)).1,
        (settle generator (outcome, inner)).2.changed change) := by
  cases outcome with
  | error failure => rfl
  | ok entry =>
      have same : ((inner.changed change).leave generator).lookup? generator.id =
          (inner.leave generator).lookup? generator.id := rfl
      simp only [settle, keep, same]
      cases (inner.leave generator).lookup? generator.id <;> rfl

namespace Catalogue

variable {catalogue : Catalogue σ γ ν} {notices : γ → Prop}

theorem Runs.changed (unaware : ∀ reference, ¬ notices reference →
      (catalogue.generator reference).body.Unaware change)
    {program : Program σ γ ν α} {before after : Container σ ν} {chronicle : Chronicle σ γ ν}
    {outcome : Except BackendError α} (run : catalogue.Runs program before chronicle outcome after)
    (unnoticed : ∀ reference container, .began reference container ∈ chronicle.events →
      ¬ notices reference)
    {other : Program σ γ ν α} (parallel : program.Parallel change other) :
    ∃ record, catalogue.Runs other (before.changed change) record outcome
      (after.changed change) := by
  induction run with
  | finish outcome container =>
      cases parallel
      exact ⟨_, .finish _ _⟩
  | read rest ih =>
      cases parallel with
      | read parallel =>
          rcases ih unnoticed (parallel _) with ⟨record, run⟩
          exact ⟨record, .read run⟩
  | write rest ih =>
      cases parallel with
      | write parallel =>
          rcases ih unnoticed parallel with ⟨record, run⟩
          exact ⟨record, .write run⟩
  | @recalled _ reference _ container _ _ _ _ known rest ih =>
      cases parallel with
      | request parallel =>
          have later : ∀ other container, .began other container ∈ Chronicle.events _ →
              ¬ notices other :=
            fun other container began => unnoticed other container (List.mem_cons_of_mem _ began)
          rcases ih later (parallel _) with ⟨record, run⟩
          exact ⟨_, .recalled known run⟩
  | @computed _ reference _ before inner between _ result answer nested later _ unknown body settled
      rest ihBody ihRest =>
      cases parallel with
      | request parallel =>
          simp only [Chronicle.events, List.mem_cons, List.mem_append] at unnoticed
          have own := unnoticed reference before (.inl rfl)
          rcases ihBody (fun other container began => unnoticed other container (.inr (.inl began)))
            (unaware reference own) with ⟨nestedRecord, body⟩
          rcases ihRest (fun other container began =>
            unnoticed other container (.inr (.inr (.inr began)))) (parallel _) with ⟨record, run⟩
          have settledChanged : Container.settle (catalogue.generator reference)
              (result, inner.changed change) = (answer, between.changed change) := by
            rw [Container.settle_changed, settled]
          exact ⟨_, .computed unknown body settledChanged run⟩

/-- A run goes alike on the changed container, if no generator begins that notices the change. -/
theorem run_changed (listed : ∀ reference, (catalogue.generator reference).id ∈ catalogue.ids)
    (unaware : ∀ reference, ¬ notices reference →
      (catalogue.generator reference).body.Unaware change)
    {program : Program σ γ ν α} {before after : Container σ ν} {chronicle : Chronicle σ γ ν}
    {outcome : Except BackendError α} (run : catalogue.Runs program before chronicle outcome after)
    (unnoticed : ∀ reference container, .began reference container ∈ chronicle.events →
      ¬ notices reference)
    (parallel : program.Unaware change) :
    catalogue.run program (before.changed change) = (outcome, after.changed change) := by
  rcases run.changed unaware unnoticed parallel with ⟨record, changed⟩
  rcases catalogue.exists_runs listed program (before.changed change) with ⟨chronicle, evaluated⟩
  rcases changed.unique evaluated with ⟨_, same, sameAfter⟩
  exact Prod.ext same sameAfter

end Catalogue

end CloudSynth
