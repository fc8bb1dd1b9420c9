import CloudSynth.Proofs.Container.Evaluation

/-!
# How programs can fail

Some failures cannot occur, because what a program did before rules them out. So what a program
promises of its result is said along with the failures that it may end in
(`Program.FailsOnly`): the promise of the first part of a sequence is known to the second. A request
may fail as the body of its generator does, so if no body fails in any other way then no run does
(`Catalogue.failsOnly_run`).
-/

namespace CloudSynth

variable {σ γ ν α β : Type}

namespace Program

/-- The program fails in an allowed way only, as long as its requests do, and its result keeps a
promise, whatever it reads. -/
def FailsOnly (allowed : BackendError → Prop) (promise : α → Prop) : Program σ γ ν α → Prop
  | .finish (.ok result) => promise result
  | .finish (.error failure) => allowed failure
  | .read next => ∀ state, (next state).FailsOnly allowed promise
  | .write _ next => next.FailsOnly allowed promise
  | .request _ next => ∀ answer, (∀ failure, answer = .error failure → allowed failure) →
      (next answer).FailsOnly allowed promise

variable {allowed : BackendError → Prop} {promise : α → Prop} {last : β → Prop}
  {program : Program σ γ ν α} {next : α → Program σ γ ν β}

/-- The program fails in an allowed way only, and promises nothing. -/
abbrev Confined (allowed : BackendError → Prop) (program : Program σ γ ν α) : Prop :=
  program.FailsOnly allowed fun _ => True

theorem confined_entryOf (reference : γ) :
    Confined allowed (entryOf reference : Program σ γ ν ν) := by
  intro answer known
  cases answer with
  | error failure => exact known failure rfl
  | ok entry => trivial

namespace FailsOnly

theorem bind (head : program.FailsOnly allowed promise)
    (rest : ∀ result, promise result → (next result).FailsOnly allowed last) :
    (program >>= next).FailsOnly allowed last := by
  change (program.bind next).FailsOnly allowed last
  induction program with
  | finish outcome =>
      cases outcome with
      | error failure => exact head
      | ok result => exact rest result head
  | read continuation ih =>
      intro state
      exact ih state (head state)
  | write state continuation ih => exact ih head
  | request reference continuation ih =>
      intro answer known
      exact ih answer (head answer known)

theorem discard (fails : program.FailsOnly allowed promise) : Confined allowed (discard program) :=
  fails.bind fun _ _ => trivial

theorem act {change : σ → Except BackendError α × σ}
    (fails : ∀ state failure, (change state).1 = .error failure → allowed failure)
    (kept : ∀ state result, (change state).1 = .ok result → promise result) :
    (Program.act change : Program σ γ ν α).FailsOnly allowed promise := by
  intro state
  change (Program.finish (change state).1).FailsOnly allowed promise
  cases ended : (change state).1 with
  | error failure => exact fails state failure ended
  | ok result => exact kept state result ended

end FailsOnly

theorem confined_act {change : σ → Except BackendError α × σ}
    (fails : ∀ state failure, (change state).1 = .error failure → allowed failure) :
    Confined allowed (Program.act change : Program σ γ ν α) :=
  .act fails fun _ _ _ => trivial

theorem confined_get : Confined allowed (get : Program σ γ ν σ) := fun _ => trivial

theorem confined_modify (change : σ → σ) :
    Confined allowed (modify change : Program σ γ ν PUnit) := fun _ => trivial

theorem confined_modifyGet (change : σ → α × σ) :
    Confined allowed (modifyGet change : Program σ γ ν α) := fun _ => trivial

theorem confined_forM_list {act : α → Program σ γ ν PUnit} {items : List α}
    (every : ∀ item, Confined allowed (act item)) : Confined allowed (items.forM act) := by
  induction items with
  | nil => trivial
  | cons item rest ih => exact (every item).bind fun _ _ => ih

theorem confined_forM_option {act : α → Program σ γ ν PUnit} {item : Option α}
    (every : ∀ item, Confined allowed (act item)) : Confined allowed (item.forM act) := by
  cases item with
  | none => trivial
  | some item => exact every item

theorem confined_mapM_option {act : α → Program σ γ ν β} {item : Option α}
    (every : ∀ item, Confined allowed (act item)) : Confined allowed (item.mapM act) := by
  cases item with
  | none => trivial
  | some item => exact (every item).bind fun _ _ => trivial

/-- A pass over a list tells which items it was made over. -/
theorem failsOnly_mapM_list {act : α → Program σ γ ν β} {δ : Type} {before : α → δ} {after : β → δ}
    (every : ∀ item, (act item).FailsOnly allowed fun result => after result = before item)
    (items : List α) :
    (items.mapM act).FailsOnly allowed fun results => results.map after = items.map before := by
  induction items with
  | nil => exact rfl
  | cons item rest ih =>
      rw [List.mapM_cons]
      refine (every item).bind fun result same => ih.bind fun results others => ?_
      change (result :: results).map after = (item :: rest).map before
      rw [List.map_cons, List.map_cons, same, others]

end Program

namespace Catalogue

variable {catalogue : Catalogue σ γ ν} {allowed : BackendError → Prop}

theorem Runs.failsOnly (cyclic : ∀ path, allowed (.cyclicDependency path))
    (mismatched : ∀ group, allowed (.entryTypeMismatch group))
    (bodies : ∀ reference, Program.Confined allowed (catalogue.generator reference).body)
    {program : Program σ γ ν α} {before after : Container σ ν} {chronicle : Chronicle σ γ ν}
    {outcome : Except BackendError α} {promise : α → Prop}
    (run : catalogue.Runs program before chronicle outcome after)
    (fails : program.FailsOnly allowed promise) :
    ∀ failure, outcome = .error failure → allowed failure := by
  have ofKind : ∀ reference entry failure,
      Container.ofKind (catalogue.generator reference) entry = .error failure →
        allowed failure := by
    intro reference entry failure
    unfold Container.ofKind
    split
    · rintro ⟨⟩
    · rintro ⟨⟩
      exact mismatched _
  -- What is left of the program fails as the whole does, given the answers so far.
  induction run with
  | finish outcome container =>
      rintro failure rfl
      exact fails
  | read rest ih => exact ih (fails _)
  | write rest ih => exact ih fails
  | @recalled _ reference _ container _ answer _ _ known rest ih =>
      apply ih
      apply fails
      intro failure failed
      rcases Container.immediate?_cases known with ⟨entry, _, rfl⟩ | ⟨_, _, rfl⟩
      · exact ofKind reference entry failure failed
      · cases failed
        exact cyclic _
  | @computed _ reference _ before inner between _ result answer _ _ _ unknown body settled rest
      ihBody ihRest =>
      apply ihRest
      apply fails
      rintro failure rfl
      -- The body has failed, or its entry is stored and is of another kind.
      cases result with
      | error other =>
          rw [Container.settle_error] at settled
          cases settled
          exact ihBody (bodies reference) failure rfl
      | ok entry =>
          have absent := Runs.lookup?_body unknown body
          rw [Container.settle_ok absent] at settled
          exact ofKind reference entry failure (Prod.mk.inj settled).1

/-- If all bodies fail in allowed ways only, so does every run. -/
theorem failsOnly_run (listed : ∀ reference, (catalogue.generator reference).id ∈ catalogue.ids)
    (cyclic : ∀ path, allowed (.cyclicDependency path))
    (mismatched : ∀ group, allowed (.entryTypeMismatch group))
    (bodies : ∀ reference, Program.Confined allowed (catalogue.generator reference).body)
    {program : Program σ γ ν α} (fails : Program.Confined allowed program)
    {container : Container σ ν} {failure : BackendError}
    (failed : (catalogue.run program container).1 = .error failure) : allowed failure := by
  rcases catalogue.exists_runs listed program container with ⟨chronicle, run⟩
  exact run.failsOnly cyclic mismatched bodies fails failure failed

end Catalogue

end CloudSynth
