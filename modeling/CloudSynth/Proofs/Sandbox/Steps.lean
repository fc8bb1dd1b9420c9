import Mathlib.Data.List.Induction
import CloudSynth.Sandbox.Executor

/-!
# Steps of the executor

From a fresh executor only a few kinds of steps can ever be taken, since there is never more than
one worker. `Executor.Moves` says what each of them does to the whole state, and
`Executor.Steady.moves` is the inversion of `Executor.step?` that the developments on requests and
on batches start from. They use `Executor.run_induction`, which carries an invariant from one step
to whole runs.
-/

namespace CloudSynth

namespace ExecutorEvent

/-- The request that the event says was submitted. -/
def submission? : ExecutorEvent → Option (Nat × DeployRequest)
  | .submitted ticket request => some (ticket, request)
  | _ => none

end ExecutorEvent

/-- The submissions of a history, in order. -/
def submissionsIn (history : List ExecutorEvent) : List (Nat × DeployRequest) :=
  history.filterMap ExecutorEvent.submission?

/-- What workers have done in a history, in order. -/
def workIn (history : List ExecutorEvent) : List ExecutorEvent :=
  history.filter (·.submission?.isNone)

@[simp]
theorem submissionsIn_append (earlier later : List ExecutorEvent) :
    submissionsIn (earlier ++ later) = submissionsIn earlier ++ submissionsIn later :=
  List.filterMap_append

@[simp]
theorem workIn_append (earlier later : List ExecutorEvent) :
    workIn (earlier ++ later) = workIn earlier ++ workIn later :=
  List.filter_append ..

@[simp]
theorem submissionsIn_submitted (ticket : Nat) (request : DeployRequest) :
    submissionsIn [.submitted ticket request] = [(ticket, request)] := rfl

@[simp]
theorem workIn_submitted (ticket : Nat) (request : DeployRequest) :
    workIn [.submitted ticket request] = [] := rfl

/-- Work is all that happens besides submissions. -/
theorem submissionsIn_eq_nil {events : List ExecutorEvent}
    (work : ∀ event ∈ events, event.submission? = none) : submissionsIn events = [] :=
  List.filterMap_eq_nil_iff.mpr work

theorem workIn_eq_self {events : List ExecutorEvent}
    (work : ∀ event ∈ events, event.submission? = none) : workIn events = events := by
  rw [workIn, List.filter_eq_self]
  intro event event_mem
  rw [work event event_mem]
  rfl

theorem filterMap_singleton {α β : Type} (view : α → Option β) (value : α) :
    [value].filterMap view = (view value).toList := by
  cases viewed : view value <;> simp [viewed]

namespace Executor

/-- The request that the step submits. -/
def Step.request? : Step → Option DeployRequest
  | .submit request => some request
  | _ => none

/-! ## What a step does -/

/-- A worker that stands at the stage is done with its batch by the step: the events of the step
before the answers, and the result that everyone who waits is answered with. -/
inductive Concludes : Stage → Step → Batch → List ExecutorEvent → DeployResult → Prop
  | validationPanicked {batch : Batch} {panic : Panic}
    (validation : batch.latest.validation = .error panic) :
    Concludes (.validating batch) (.validate 0) batch [.validated batch.ticket]
      (.error (.panicked panic.message))
  | listingFailed {batch : Batch} {validateSources : Bool} (message : String) :
    Concludes (.listing batch validateSources) (.list 0 (.failed message)) batch []
      (.error (.secrets message))
  | listingPanicked {batch : Batch} {validateSources : Bool} (panic : Panic) :
    Concludes (.listing batch validateSources) (.list 0 (.panicked panic)) batch []
      (.error (.panicked panic.message))
  | deployEnded {batch : Batch} (outcome : DeployOutcome) :
    Concludes (.deploying batch) (.finish 0 outcome) batch [.ended batch outcome]
      (resultOf outcome)

/-- The step leads from one state to the other, for an executor with at most one worker. -/
inductive Moves (executor : Executor) : Step → Executor → Prop
  | submit (request : DeployRequest) : Moves executor (.submit request) (executor.submit request)
  | abandon (ticket : Nat) : Moves executor (.abandon ticket) (executor.abandon ticket)
  | take {batch : Batch} (stands : executor.workers = [.resting])
    (queued : executor.pending = some batch) :
    Moves executor (.look 0) { executor with pending := none, workers := [.validating batch] }
  | stop (stands : executor.workers = [.resting]) (queued : executor.pending = none) :
    Moves executor (.look 0) { executor with running := false, workers := [] }
  | validate {batch : Batch} {validateSources : Bool}
    (stands : executor.workers = [.validating batch])
    (validation : batch.latest.validation = .ok validateSources) :
    Moves executor (.validate 0)
      { executor with
        workers := [.listing batch validateSources]
        history := executor.history ++ [.validated batch.ticket, .listed batch.latest.backend] }
  | start {batch : Batch} {validateSources : Bool} (secrets : List ListedSecret)
    (stands : executor.workers = [.listing batch validateSources]) :
    Moves executor (.list 0 (.returned secrets))
      { executor with
        workers := [.deploying batch]
        history := executor.history ++
          [.started batch (options batch validateSources secrets)] }
  | conclude {stage : Stage} {step : Step} {batch : Batch} {events : List ExecutorEvent}
    {result : DeployResult} (stands : executor.workers = [stage])
    (concludes : Concludes stage step batch events result) :
    Moves executor step
      { executor with
        workers := [.resting]
        history := executor.history ++
          (events ++ batch.waiters.map fun ticket => .answered ticket result) }

/-- Nothing that a worker does when it is done with a batch is a submission. -/
theorem Concludes.isWork {stage : Stage} {step : Step} {batch : Batch}
    {events : List ExecutorEvent} {result : DeployResult}
    (concludes : Concludes stage step batch events result) :
    ∀ event ∈ events ++ batch.waiters.map fun ticket => .answered ticket result,
      event.submission? = none := by
  intro event event_mem
  rcases List.mem_append.mp event_mem with call | answer
  · cases concludes <;> simp at call <;> subst call <;> rfl
  · rcases List.mem_map.mp answer with ⟨ticket, _, rfl⟩
    rfl

theorem Concludes.request? {stage : Stage} {step : Step} {batch : Batch}
    {events : List ExecutorEvent} {result : DeployResult}
    (concludes : Concludes stage step batch events result) : step.request? = none := by
  cases concludes <;> rfl

theorem Concludes.batch? {stage : Stage} {step : Step} {batch : Batch}
    {events : List ExecutorEvent} {result : DeployResult}
    (concludes : Concludes stage step batch events result) : stage.batch? = some batch := by
  cases concludes <;> rfl

/-- There is a worker exactly when the executor is running, and nothing is pending when it is
not. -/
structure Steady (executor : Executor) : Prop where
  workers : executor.workers.length = if executor.running then 1 else 0
  pending : executor.running = false → executor.pending = none

theorem steady_new : new.Steady := ⟨rfl, fun _ => rfl⟩

/-- A worker that is found somewhere is the only one. -/
theorem Steady.eq_singleton {executor : Executor} (steady : executor.Steady) {worker : Nat}
    {stage : Stage} (found : executor.workers[worker]? = some stage) :
    worker = 0 ∧ executor.workers = [stage] := by
  have count := steady.workers
  rcases List.getElem?_eq_some_iff.mp found with ⟨inRange, same⟩
  have atMost : executor.workers.length ≤ 1 := by
    rw [count]
    split <;> omega
  have first : worker = 0 := by omega
  subst first
  rcases List.length_eq_one_iff.mp (by omega : executor.workers.length = 1) with ⟨only, workers⟩
  simp only [workers, List.getElem_cons_zero] at same
  rw [workers, same]
  exact ⟨rfl, rfl⟩

/-- A worker that notes what it has done and is done with its batch. -/
theorem conclude_note {executor : Executor} {stage : Stage}
    (stands : executor.workers = [stage]) (batch : Batch) (events : List ExecutorEvent)
    (result : DeployResult) :
    (executor.note events).conclude 0 batch result =
      { executor with
        workers := [.resting]
        history := executor.history ++
          (events ++ batch.waiters.map fun ticket => .answered ticket result) } := by
  simp [conclude, answer, note, moveTo, stands]

/-- A steady executor takes only steps of these kinds. -/
theorem Steady.moves {executor later : Executor} {step : Step} (steady : executor.Steady)
    (taken : executor.step? step = some later) : executor.Moves step later := by
  cases step with
  | submit request =>
      cases taken
      exact .submit request
  | abandon ticket =>
      cases taken
      exact .abandon ticket
  | look worker =>
      simp only [step?] at taken
      split at taken
      case h_1 found =>
        rcases steady.eq_singleton found with ⟨rfl, stands⟩
        cases taken
        cases queued : executor.pending with
        | some batch =>
            have moved : executor.look 0 =
                { executor with pending := none, workers := [.validating batch] } := by
              simp [look, queued, moveTo, stands]
            rw [moved]
            exact .take stands queued
        | none =>
            have stopped : executor.look 0 = { executor with running := false, workers := [] } := by
              simp [look, queued, stands]
            rw [stopped]
            exact .stop stands queued
      case h_2 => cases taken
  | validate worker =>
      simp only [step?] at taken
      split at taken
      case h_1 batch found =>
        rcases steady.eq_singleton found with ⟨rfl, stands⟩
        cases taken
        cases validation : batch.latest.validation with
        | error panic =>
            have moved := conclude_note stands batch [.validated batch.ticket]
              (.error (.panicked panic.message))
            simp only [validate, validation, moved]
            exact .conclude stands (.validationPanicked validation)
        | ok validateSources =>
            simp only [validate, validation, note, moveTo, stands, List.set_cons_zero,
              List.append_assoc]
            exact .validate stands validation
      case h_2 => cases taken
  | list worker secrets =>
      simp only [step?] at taken
      split at taken
      case h_1 batch validateSources found =>
        rcases steady.eq_singleton found with ⟨rfl, stands⟩
        cases taken
        cases secrets with
        | returned secrets =>
            simp only [list, note, moveTo, stands, List.set_cons_zero]
            exact .start secrets stands
        | failed message =>
            have moved := conclude_note stands batch [] (.error (.secrets message))
            simp only [note, List.append_nil] at moved
            simp only [list, moved]
            exact .conclude stands (.listingFailed message)
        | panicked panic =>
            have moved := conclude_note stands batch [] (.error (.panicked panic.message))
            simp only [note, List.append_nil] at moved
            simp only [list, moved]
            exact .conclude stands (.listingPanicked panic)
      case h_2 => cases taken
  | finish worker outcome =>
      simp only [step?] at taken
      split at taken
      case h_1 batch found =>
        rcases steady.eq_singleton found with ⟨rfl, stands⟩
        cases taken
        rw [finish, conclude_note stands]
        exact .conclude stands (.deployEnded outcome)
      case h_2 => cases taken

theorem Moves.steady {executor later : Executor} {step : Step} (moves : executor.Moves step later)
    (steady : executor.Steady) : later.Steady := by
  cases moves with
  | submit request =>
      constructor
      · have count := steady.workers
        cases running : executor.running <;> simp_all [Executor.submit]
      · intro idle
        cases idle
  | abandon ticket => exact ⟨steady.workers, steady.pending⟩
  | take stands queued =>
      have count := steady.workers
      simp only [stands] at count
      exact ⟨count, fun _ => rfl⟩
  | stop stands queued => exact ⟨rfl, fun _ => queued⟩
  | validate stands validation =>
      have count := steady.workers
      simp only [stands] at count
      exact ⟨count, steady.pending⟩
  | start secrets stands =>
      have count := steady.workers
      simp only [stands] at count
      exact ⟨count, steady.pending⟩
  | conclude stands concludes =>
      have count := steady.workers
      simp only [stands] at count
      exact ⟨count, steady.pending⟩

/-! ## Runs -/

theorem run?_append (executor : Executor) (first second : List Step) :
    executor.run? (first ++ second) = (executor.run? first).bind (·.run? second) := by
  simp [run?, List.foldlM_append]

theorem run?_cons (executor : Executor) (step : Step) (steps : List Step) :
    executor.run? (step :: steps) = (executor.step? step).bind (·.run? steps) := rfl

theorem Steady.run {executor later : Executor} {steps : List Step} (steady : executor.Steady)
    (taken : executor.run? steps = some later) : later.Steady := by
  induction steps generalizing executor with
  | nil =>
      cases taken
      exact steady
  | cons step steps ih =>
      rw [run?_cons, Option.bind_eq_some_iff] at taken
      rcases taken with ⟨next, first, rest⟩
      exact ih ((steady.moves first).steady steady) rest

/-- What holds of a fresh executor and is kept by every step holds after every run. -/
theorem run_induction {motive : List Step → Executor → Prop} (initial : motive [] new)
    (kept : ∀ steps executor step later, motive steps executor → executor.Steady →
      executor.Moves step later → motive (steps ++ [step]) later)
    {steps : List Step} {executor : Executor} (taken : new.run? steps = some executor) :
    motive steps executor := by
  induction steps using List.reverseRecOn generalizing executor with
  | nil =>
      cases taken
      exact initial
  | append_singleton steps step ih =>
      rw [run?_append, Option.bind_eq_some_iff] at taken
      rcases taken with ⟨before, first, last⟩
      rw [run?_cons, Option.bind_eq_some_iff] at last
      rcases last with ⟨after, moved, same⟩
      cases same
      have steady := steady_new.run first
      exact kept steps before step executor (ih first) steady (steady.moves moved)

/-- A step adds its request to the submissions, under the next number. -/
theorem Moves.submissions {executor later : Executor} {step : Step}
    (moves : executor.Moves step later) :
    submissionsIn later.history =
        submissionsIn executor.history ++ step.request?.toList.map (executor.tickets, ·) ∧
      later.tickets = executor.tickets + step.request?.toList.length := by
  cases moves with
  | submit request => exact ⟨submissionsIn_append .., rfl⟩
  | abandon ticket => exact ⟨(List.append_nil _).symm, rfl⟩
  | take stands queued => exact ⟨(List.append_nil _).symm, rfl⟩
  | stop stands queued => exact ⟨(List.append_nil _).symm, rfl⟩
  | validate stands validation => exact ⟨submissionsIn_append .., rfl⟩
  | start secrets stands => exact ⟨submissionsIn_append .., rfl⟩
  | conclude stands concludes =>
      rw [submissionsIn_append, submissionsIn_eq_nil concludes.isWork, concludes.request?]
      exact ⟨rfl, rfl⟩

/-- The submissions in the history are those of the steps, numbered in order. -/
theorem submissions_of_run {steps : List Step} {executor : Executor}
    (taken : new.run? steps = some executor) :
    (submissionsIn executor.history).map (·.1) = List.range executor.tickets ∧
      (submissionsIn executor.history).map (·.2) = steps.filterMap Step.request? := by
  refine run_induction (motive := fun steps executor =>
    (submissionsIn executor.history).map (·.1) = List.range executor.tickets ∧
      (submissionsIn executor.history).map (·.2) = steps.filterMap Step.request?)
    ⟨rfl, rfl⟩ ?_ taken
  rintro steps executor step later ⟨tickets, requests⟩ _ moves
  rcases moves.submissions with ⟨submissions, counted⟩
  rw [submissions, counted, List.filterMap_append, filterMap_singleton, List.map_append,
    List.map_append, tickets, requests]
  cases step.request? with
  | none => simp
  | some request => simp [List.range_succ]

/-- A request of a sandbox whose validation ends as given. -/
def requestOf (validation : Except Panic Bool) : DeployRequest where
  backend := ⟨"orders", "dev", .sandbox⟩
  validation := validation
  profile := none

end Executor

end CloudSynth
