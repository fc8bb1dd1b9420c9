import CloudSynth.Proofs.Container.Operations

/-!
# Runs of programs

`Catalogue.Runs` says how a program runs on a container, without any bound on how deep requests
nest: a request is answered at once by an entry or a cycle, or the body of the generator runs first,
with requests of its own. What was requested, and with what answer, is written down in a
`Chronicle`.

A run is unique, and it restores the list of generators being resolved. Every program has one: each
nested body puts one more generator on that list, so requests nest no deeper than there are
generators that are not on it. This is the depth which `Catalogue.run` allows, so it never answers
for want of depth (`Catalogue.runs_iff`).
-/

namespace CloudSynth

/-- The requests that a program makes, in order, each with those made while a body ran for it. -/
inductive Chronicle (σ γ ν : Type)
  /-- No more requests. -/
  | done
  /-- A request that was answered at once. -/
  | recalled (reference : γ) (container : Container σ ν) (answer : Except BackendError ν)
    (later : Chronicle σ γ ν)
  /-- A request for which a body ran and ended with a result. -/
  | computed (reference : γ) (before : Container σ ν) (nested : Chronicle σ γ ν)
    (result answer : Except BackendError ν) (after : Container σ ν) (later : Chronicle σ γ ν)

namespace Catalogue

variable {σ γ ν : Type}

/-- The program runs on the first container, makes the requests of the chronicle, and ends with the
outcome and the second container. -/
inductive Runs (catalogue : Catalogue σ γ ν) : {α : Type} → Program σ γ ν α → Container σ ν →
    Chronicle σ γ ν → Except BackendError α → Container σ ν → Prop
  | finish {α : Type} (outcome : Except BackendError α) (container : Container σ ν) :
    Runs catalogue (.finish outcome) container .done outcome container
  | read {α : Type} {next : σ → Program σ γ ν α} {container after : Container σ ν}
    {chronicle : Chronicle σ γ ν} {outcome : Except BackendError α}
    (rest : Runs catalogue (next container.state) container chronicle outcome after) :
    Runs catalogue (.read next) container chronicle outcome after
  | write {α : Type} {state : σ} {next : Program σ γ ν α} {container after : Container σ ν}
    {chronicle : Chronicle σ γ ν} {outcome : Except BackendError α}
    (rest : Runs catalogue next { container with state } chronicle outcome after) :
    Runs catalogue (.write state next) container chronicle outcome after
  | recalled {α : Type} {reference : γ} {next : Except BackendError ν → Program σ γ ν α}
    {container after : Container σ ν} {answer : Except BackendError ν}
    {later : Chronicle σ γ ν} {outcome : Except BackendError α}
    (known : container.immediate? (catalogue.generator reference) = some answer)
    (rest : Runs catalogue (next answer) container later outcome after) :
    Runs catalogue (.request reference next) container
      (.recalled reference container answer later) outcome after
  | computed {α : Type} {reference : γ} {next : Except BackendError ν → Program σ γ ν α}
    {before inner between after : Container σ ν} {result answer : Except BackendError ν}
    {nested later : Chronicle σ γ ν} {outcome : Except BackendError α}
    (unknown : before.immediate? (catalogue.generator reference) = none)
    (body : Runs catalogue (catalogue.generator reference).body
      (before.enter (catalogue.generator reference)) nested result inner)
    (settled : Container.settle (catalogue.generator reference) (result, inner) =
      (answer, between))
    (rest : Runs catalogue (next answer) between later outcome after) :
    Runs catalogue (.request reference next) before
      (.computed reference before nested result answer between later) outcome after

namespace Runs

variable {catalogue : Catalogue σ γ ν} {α : Type} {program : Program σ γ ν α}
  {before after : Container σ ν} {chronicle : Chronicle σ γ ν} {outcome : Except BackendError α}

/-- A program runs in one way only. -/
theorem unique (run : catalogue.Runs program before chronicle outcome after)
    {otherChronicle : Chronicle σ γ ν} {otherOutcome : Except BackendError α}
    {otherAfter : Container σ ν}
    (other : catalogue.Runs program before otherChronicle otherOutcome otherAfter) :
    otherChronicle = chronicle ∧ otherOutcome = outcome ∧ otherAfter = after := by
  induction run generalizing otherChronicle otherAfter with
  | finish outcome container =>
      cases other
      exact ⟨rfl, rfl, rfl⟩
  | read rest ih =>
      cases other with
      | read otherRest => exact ih otherRest
  | write rest ih =>
      cases other with
      | write otherRest => exact ih otherRest
  | recalled known rest ih =>
      cases other with
      | recalled otherKnown otherRest =>
          rw [known] at otherKnown
          cases otherKnown
          rcases ih otherRest with ⟨rfl, rfl, rfl⟩
          exact ⟨rfl, rfl, rfl⟩
      | computed otherUnknown otherBody otherSettled otherRest =>
          rw [known] at otherUnknown
          cases otherUnknown
  | computed unknown body settled rest ihBody ihRest =>
      cases other with
      | recalled otherKnown otherRest =>
          rw [unknown] at otherKnown
          cases otherKnown
      | computed otherUnknown otherBody otherSettled otherRest =>
          rcases ihBody otherBody with ⟨rfl, rfl, rfl⟩
          rw [settled] at otherSettled
          cases otherSettled
          rcases ihRest otherRest with ⟨rfl, rfl, rfl⟩
          exact ⟨rfl, rfl, rfl⟩

/-- What is being resolved when a request is answered is what was being resolved when it was made,
if this holds of the body that ran for it. -/
theorem resolving_answered {reference : γ} {inner between : Container σ ν}
    {result answer : Except BackendError ν}
    (unknown : before.immediate? (catalogue.generator reference) = none)
    (kept : inner.resolving = (before.enter (catalogue.generator reference)).resolving)
    (settled : Container.settle (catalogue.generator reference) (result, inner) =
      (answer, between)) :
    between.resolving = before.resolving := by
  have idle := (Container.immediate?_eq_none_iff.mp unknown).2
  have left := Container.resolving_settle (catalogue.generator reference) (result, inner)
  rw [settled] at left
  exact left.trans (Container.resolving_leave idle kept)

/-- A run restores the list of generators being resolved. -/
theorem resolving_eq (run : catalogue.Runs program before chronicle outcome after) :
    after.resolving = before.resolving := by
  induction run with
  | finish outcome container => rfl
  | read rest ih => exact ih
  | write rest ih => exact ih
  | recalled known rest ih => exact ih
  | computed unknown body settled rest ihBody ihRest =>
      exact ihRest.trans (resolving_answered unknown ihBody settled)

theorem isResolving_eq (run : catalogue.Runs program before chronicle outcome after)
    (id : GeneratorId) : after.isResolving id = before.isResolving id :=
  Container.isResolving_congr run.resolving_eq id

theorem extends_answered {reference : γ} {inner between : Container σ ν}
    {result answer : Except BackendError ν}
    (kept : inner.Extends (before.enter (catalogue.generator reference)))
    (settled : Container.settle (catalogue.generator reference) (result, inner) =
      (answer, between)) :
    between.Extends before := by
  have later := Container.extends_settle (catalogue.generator reference) (result, inner)
  rw [settled] at later
  exact later.trans kept

/-- A run removes and replaces no entry. -/
theorem extends_before (run : catalogue.Runs program before chronicle outcome after) :
    after.Extends before := by
  induction run with
  | finish outcome container => exact .refl container
  | read rest ih => exact ih
  | write rest ih => exact ih
  | recalled known rest ih => exact ih
  | computed unknown body settled rest ihBody ihRest =>
      exact ihRest.trans (extends_answered ihBody settled)

/-- What is being resolved and has no entry when a body begins, has none when its request is
answered, if this holds of the body. -/
theorem lookup?_answered {reference : γ} {inner between : Container σ ν}
    {result answer : Except BackendError ν} {id : GeneratorId}
    (unknown : before.immediate? (catalogue.generator reference) = none)
    (resolving : before.isResolving id = true) (absent : inner.lookup? id = none)
    (settled : Container.settle (catalogue.generator reference) (result, inner) =
      (answer, between)) :
    between.lookup? id = none := by
  have other : (catalogue.generator reference).id ≠ id := by
    intro same
    have idle := (Container.immediate?_eq_none_iff.mp unknown).2
    rw [same, resolving] at idle
    cases idle
  have unchanged := Container.lookup?_settle_of_ne (result, inner) other
  rw [settled] at unchanged
  exact unchanged.trans absent

/-- No entry is kept for a generator while it is being resolved. -/
theorem lookup?_eq_none_of_isResolving
    (run : catalogue.Runs program before chronicle outcome after) {id : GeneratorId}
    (resolving : before.isResolving id = true) (absent : before.lookup? id = none) :
    after.lookup? id = none := by
  induction run with
  | finish outcome container => exact absent
  | read rest ih => exact ih resolving absent
  | write rest ih => exact ih resolving absent
  | recalled known rest ih => exact ih resolving absent
  | computed unknown body settled rest ihBody ihRest =>
      have innerAbsent := ihBody (by simp [resolving]) absent
      apply ihRest
      · rw [Container.isResolving_congr (resolving_answered unknown body.resolving_eq settled)]
        exact resolving
      · exact lookup?_answered unknown resolving innerAbsent settled

/-- While the body of a generator runs no entry is kept for it. -/
theorem lookup?_body {reference : γ} {inner : Container σ ν} {nested : Chronicle σ γ ν}
    {result : Except BackendError ν}
    (unknown : before.immediate? (catalogue.generator reference) = none)
    (body : catalogue.Runs (catalogue.generator reference).body
      (before.enter (catalogue.generator reference)) nested result inner) :
    inner.lookup? (catalogue.generator reference).id = none := by
  apply body.lookup?_eq_none_of_isResolving
  · simp
  · exact (Container.immediate?_eq_none_iff.mp unknown).1

end Runs

/-! ## Every program has a run -/

theorem idle_congr (catalogue : Catalogue σ γ ν) {container other : Container σ ν}
    (same : container.resolving = other.resolving) :
    catalogue.idle container = catalogue.idle other := by
  simp only [idle, Container.isResolving_congr same]

/-- One generator fewer could run once a generator is being resolved. -/
theorem length_idle_enter_lt (catalogue : Catalogue σ γ ν) {container : Container σ ν}
    {generator : Generator σ γ ν} (listed : generator.id ∈ catalogue.ids)
    (idle : container.isResolving generator.id = false) :
    (catalogue.idle (container.enter generator)).length < (catalogue.idle container).length := by
  have split : catalogue.idle (container.enter generator) =
      (catalogue.idle container).filter (fun id => !decide (generator.id = id)) := by
    simp only [Catalogue.idle, List.filter_filter, Container.isResolving_enter, Bool.not_or]
    exact List.filter_congr fun id _ => Bool.and_comm _ _
  rw [split, List.length_filter_lt_length_iff_exists]
  refine ⟨generator.id, ?_, by simp⟩
  simp [Catalogue.idle, listed, idle]

theorem resolveWithin_of_known (catalogue : Catalogue σ γ ν) (depth : Nat) {reference : γ}
    {container : Container σ ν} {answer : Except BackendError ν}
    (known : container.immediate? (catalogue.generator reference) = some answer) :
    catalogue.resolveWithin depth reference container = (answer, container) := by
  cases depth with
  | zero => simp [resolveWithin, known]
  | succ depth => simp [resolveWithin, known]

theorem resolveWithin_of_unknown (catalogue : Catalogue σ γ ν) (depth : Nat) {reference : γ}
    {container : Container σ ν}
    (unknown : container.immediate? (catalogue.generator reference) = none) :
    catalogue.resolveWithin (depth + 1) reference container =
      Container.settle (catalogue.generator reference)
        ((catalogue.generator reference).body.run (catalogue.resolveWithin depth)
          (container.enter (catalogue.generator reference))) := by
  simp [resolveWithin, unknown]

/-- The bounded evaluation follows the run, if its bound is at least the number of generators that
are not being resolved. -/
theorem exists_runs_within (catalogue : Catalogue σ γ ν)
    (listed : ∀ reference, (catalogue.generator reference).id ∈ catalogue.ids) {α : Type}
    (depth : Nat) (program : Program σ γ ν α) (container : Container σ ν)
    (enough : (catalogue.idle container).length ≤ depth) :
    ∃ chronicle, catalogue.Runs program container chronicle
      (program.run (catalogue.resolveWithin depth) container).1
      (program.run (catalogue.resolveWithin depth) container).2 := by
  induction depth using Nat.strongRecOn generalizing α program container with
  | _ depth shallower =>
  induction program generalizing container with
  | finish outcome => exact ⟨_, .finish outcome container⟩
  | read next ih =>
      rcases ih container.state container enough with ⟨chronicle, rest⟩
      exact ⟨chronicle, .read rest⟩
  | write state next ih =>
      rcases ih { container with state } enough with ⟨chronicle, rest⟩
      exact ⟨chronicle, .write rest⟩
  | request reference next ih =>
      simp only [Program.run]
      cases known : container.immediate? (catalogue.generator reference) with
      | some answer =>
          rw [catalogue.resolveWithin_of_known depth known]
          rcases ih answer container enough with ⟨chronicle, rest⟩
          exact ⟨_, .recalled known rest⟩
      | none =>
          have fewer := catalogue.length_idle_enter_lt (listed reference)
            (Container.immediate?_eq_none_iff.mp known).2
          rcases Nat.exists_eq_succ_of_ne_zero (by omega : depth ≠ 0) with ⟨nestedDepth, rfl⟩
          rw [catalogue.resolveWithin_of_unknown nestedDepth known]
          rcases shallower nestedDepth (by omega) (catalogue.generator reference).body
            (container.enter (catalogue.generator reference)) (by omega) with ⟨nested, body⟩
          generalize (catalogue.generator reference).body.run (catalogue.resolveWithin nestedDepth)
            (container.enter (catalogue.generator reference)) = ended at body ⊢
          have restored : (Container.settle (catalogue.generator reference) ended).2.resolving =
              container.resolving := Runs.resolving_answered known body.resolving_eq rfl
          rcases ih (Container.settle (catalogue.generator reference) ended).1
            (Container.settle (catalogue.generator reference) ended).2
            (by rw [catalogue.idle_congr restored]; exact enough) with ⟨later, rest⟩
          exact ⟨_, .computed known body rfl rest⟩

/-- `Catalogue.run` computes a run of the program. -/
theorem exists_runs (catalogue : Catalogue σ γ ν)
    (listed : ∀ reference, (catalogue.generator reference).id ∈ catalogue.ids) {α : Type}
    (program : Program σ γ ν α) (container : Container σ ν) :
    ∃ chronicle, catalogue.Runs program container chronicle
      (catalogue.run program container).1 (catalogue.run program container).2 :=
  catalogue.exists_runs_within listed _ program container (Nat.le_refl _)

/-- `Catalogue.resolve` computes a run of the program that makes the request and nothing else. -/
theorem exists_runs_resolve (catalogue : Catalogue σ γ ν)
    (listed : ∀ reference, (catalogue.generator reference).id ∈ catalogue.ids) (reference : γ)
    (container : Container σ ν) :
    ∃ chronicle, catalogue.Runs (Program.entryOf reference) container chronicle
      (catalogue.resolve reference container).1 (catalogue.resolve reference container).2 :=
  catalogue.exists_runs listed (Program.entryOf reference) container

/-- `Catalogue.run` computes the run of a program, and it has no other. -/
theorem runs_iff (catalogue : Catalogue σ γ ν)
    (listed : ∀ reference, (catalogue.generator reference).id ∈ catalogue.ids) {α : Type}
    (program : Program σ γ ν α) (container : Container σ ν) :
    ∃ chronicle, ∀ record outcome after,
      catalogue.Runs program container record outcome after ↔
        record = chronicle ∧ (outcome, after) = catalogue.run program container := by
  rcases catalogue.exists_runs listed program container with ⟨chronicle, run⟩
  refine ⟨chronicle, ?_⟩
  intro record outcome after
  constructor
  · intro other
    rcases run.unique other with ⟨rfl, rfl, rfl⟩
    exact ⟨rfl, rfl⟩
  · rintro ⟨rfl, same⟩
    rcases Prod.ext_iff.mp same with ⟨rfl, rfl⟩
    exact run

/-- Requests of a program are answered one after another, each by `Catalogue.resolve`. -/
theorem run_request (catalogue : Catalogue σ γ ν)
    (listed : ∀ reference, (catalogue.generator reference).id ∈ catalogue.ids) {α : Type}
    (reference : γ) (next : Except BackendError ν → Program σ γ ν α)
    (container : Container σ ν) :
    catalogue.run (.request reference next) container =
      catalogue.run (next (catalogue.resolve reference container).1)
        (catalogue.resolve reference container).2 := by
  rcases catalogue.exists_runs_resolve listed reference container with ⟨chronicle, request⟩
  have idle : catalogue.idle (catalogue.resolve reference container).2 =
      catalogue.idle container := catalogue.idle_congr request.resolving_eq
  simp only [run, Program.run, idle]
  rfl

end Catalogue

end CloudSynth
