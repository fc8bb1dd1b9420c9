import CloudSynth.Container.Basic

/-!
# Renamed generators

A program knows generators by references only, and a container knows them by their identities. So
when the references are renamed, and the generators behind them are the same up to the renaming, a
program runs as before (`Catalogue.Renames.run`).
-/

namespace CloudSynth

variable {σ γ δ ν α β : Type}

namespace Program

/-- The program with other references. -/
def rename (change : γ → δ) : Program σ γ ν α → Program σ δ ν α
  | .finish outcome => .finish outcome
  | .read next => .read fun state => (next state).rename change
  | .write state next => .write state (next.rename change)
  | .request generator next => .request (change generator) fun answer => (next answer).rename change

variable (change : γ → δ)

@[simp]
theorem rename_pure (result : α) :
    (pure result : Program σ γ ν α).rename change = pure result := rfl

@[simp]
theorem rename_ofExcept (outcome : Except BackendError α) :
    (ofExcept outcome : Program σ γ ν α).rename change = ofExcept outcome := rfl

@[simp]
theorem rename_act (step : σ → Except BackendError α × σ) :
    (act step : Program σ γ ν α).rename change = act step := rfl

@[simp]
theorem rename_modify (step : σ → σ) :
    (modify step : Program σ γ ν PUnit).rename change = modify step := rfl

@[simp]
theorem rename_modifyGet (step : σ → α × σ) :
    (modifyGet step : Program σ γ ν α).rename change = modifyGet step := rfl

@[simp]
theorem rename_get : (get : Program σ γ ν σ).rename change = get := rfl

@[simp]
theorem rename_bind (program : Program σ γ ν α) (next : α → Program σ γ ν β) :
    (program >>= next).rename change =
      program.rename change >>= fun result => (next result).rename change := by
  change (program.bind next).rename change = (program.rename change).bind _
  induction program with
  | finish outcome => cases outcome <;> rfl
  | read continuation ih => simp only [bind, rename, ih]
  | write state continuation ih => simp only [bind, rename, ih]
  | request generator continuation ih => simp only [bind, rename, ih]

@[simp]
theorem rename_discard (program : Program σ γ ν α) :
    (discard program).rename change = discard (program.rename change) :=
  rename_bind change program _

@[simp]
theorem rename_mapM_list (items : List α) (body : α → Program σ γ ν β) :
    (items.mapM body).rename change = items.mapM fun item => (body item).rename change := by
  induction items with
  | nil => rfl
  | cons item rest ih => simp only [List.mapM_cons, rename_bind, rename_pure, ih]

@[simp]
theorem rename_forM_list (items : List α) (body : α → Program σ γ ν PUnit) :
    (items.forM body).rename change = items.forM fun item => (body item).rename change := by
  induction items with
  | nil => rfl
  | cons item rest ih =>
      change (body item >>= fun _ => rest.forM body).rename change = _
      rw [rename_bind, ih]
      rfl

@[simp]
theorem rename_mapM_option (item : Option α) (body : α → Program σ γ ν β) :
    (item.mapM body).rename change = item.mapM fun item => (body item).rename change := by
  cases item with
  | none => rfl
  | some item => exact rename_bind change (body item) _

@[simp]
theorem rename_forM_option (item : Option α) (body : α → Program σ γ ν PUnit) :
    (item.forM body).rename change = item.forM fun item => (body item).rename change := by
  cases item <;> rfl

end Program

/-- The second catalogue has the generators of the first one under other references. -/
structure Catalogue.Renames (first : Catalogue σ γ ν) (second : Catalogue σ δ ν)
    (change : γ → δ) : Prop where
  ids : second.ids = first.ids
  id : ∀ reference, (second.generator (change reference)).id = (first.generator reference).id
  group : ∀ reference,
    (second.generator (change reference)).group = (first.generator reference).group
  admits : ∀ reference,
    (second.generator (change reference)).admits = (first.generator reference).admits
  body : ∀ reference,
    (second.generator (change reference)).body = (first.generator reference).body.rename change

namespace Catalogue.Renames

variable {first : Catalogue σ γ ν} {second : Catalogue σ δ ν} {change : γ → δ}

theorem run_of_answers {answer : γ → Container σ ν → Except BackendError ν × Container σ ν}
    {other : δ → Container σ ν → Except BackendError ν × Container σ ν}
    (same : ∀ reference container, other (change reference) container = answer reference container)
    (program : Program σ γ ν α) (container : Container σ ν) :
    (program.rename change).run other container = program.run answer container := by
  induction program generalizing container with
  | finish outcome => rfl
  | read next ih => exact ih container.state container
  | write state next ih => exact ih { container with state }
  | request reference next ih =>
      simp only [Program.rename, Program.run, same]
      exact ih _ _

variable (renames : first.Renames second change)

include renames

theorem immediate? (reference : γ) (container : Container σ ν) :
    container.immediate? (second.generator (change reference)) =
      container.immediate? (first.generator reference) := by
  simp only [Container.immediate?, Container.ofKind, Container.cyclePath, renames.id,
    renames.group, renames.admits]

theorem enter (reference : γ) (container : Container σ ν) :
    container.enter (second.generator (change reference)) =
      container.enter (first.generator reference) := by
  simp only [Container.enter, renames.id, renames.group]

theorem settle (reference : γ) (run : Except BackendError ν × Container σ ν) :
    Container.settle (second.generator (change reference)) run =
      Container.settle (first.generator reference) run := by
  simp only [Container.settle, Container.leave, Container.keep, Container.ofKind, renames.id,
    renames.group, renames.admits]

theorem resolveWithin (depth : Nat) (reference : γ) (container : Container σ ν) :
    second.resolveWithin depth (change reference) container =
      first.resolveWithin depth reference container := by
  induction depth generalizing reference container with
  | zero => simp only [Catalogue.resolveWithin, renames.immediate?, renames.group]
  | succ depth ih =>
      simp only [Catalogue.resolveWithin, renames.immediate?, renames.enter, renames.settle,
        renames.body, run_of_answers ih]

/-- A program runs on the renamed generators as it runs on the others. -/
theorem run (program : Program σ γ ν α) (container : Container σ ν) :
    second.run (program.rename change) container = first.run program container := by
  have idle : second.idle container = first.idle container := by
    simp only [Catalogue.idle, renames.ids]
  rw [Catalogue.run, Catalogue.run, idle]
  exact run_of_answers (renames.resolveWithin _) program container

end Catalogue.Renames

end CloudSynth
