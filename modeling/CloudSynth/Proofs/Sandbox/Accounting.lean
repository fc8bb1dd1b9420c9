import CloudSynth.Proofs.Sandbox.Steps
import CloudSynth.Sandbox.Clock

/-!
# Where requests are

Every request that was submitted is in one of three places: it waits in the pending batch, it waits
in the batch that the worker has taken, or it has been answered (`Executor.Accounted`). No step
loses a request or answers it twice.

When no more requests arrive the worker runs out of batches. Every batch that it is done with is one
of the at most two that there are, and every step that it takes brings it closer to its stop
(`Executor.Drains`). It is never held up for want of a step.
-/

namespace CloudSynth

/-- The request that the event says was answered, and its answer. -/
def ExecutorEvent.answer? : ExecutorEvent → Option (Nat × DeployResult)
  | .answered ticket result => some (ticket, result)
  | _ => none

namespace Executor

variable {executor later : Executor} {step : Step}

/-! ## Places -/

/-- The batches that workers have taken. -/
def inHand (executor : Executor) : List Batch := executor.workers.filterMap Stage.batch?

/-- The requests that have been answered, in order. -/
def answeredTickets (executor : Executor) : List Nat := executor.answers.map (·.1)

/-- The requests of batches that workers have taken. -/
def takenTickets (executor : Executor) : List Nat := executor.inHand.flatMap (·.waiters)

/-- The requests of the pending batch. -/
def pendingTickets (executor : Executor) : List Nat :=
  executor.pending.toList.flatMap (·.waiters)

/-- Where requests are, and what there is to work on them. -/
structure Accounted (executor : Executor) : Prop where
  /-- There is one worker while the executor is running, and none otherwise. -/
  workers : executor.workers.length = if executor.running then 1 else 0
  /-- A batch is pending only while the executor is running. -/
  pending : executor.pending.isSome = true → executor.running = true
  /-- Every request has been answered, or is in a batch that was taken, or in the pending one, and
  is so only once. -/
  places : executor.answeredTickets ++ executor.takenTickets ++ executor.pendingTickets =
    List.range executor.tickets
  /-- While the executor is not running no batch is left and every request has been answered. -/
  idle : executor.running = false → executor.pending = none ∧ executor.inHand = [] ∧
    executor.answeredTickets = List.range executor.tickets

theorem answeredTickets_eq (executor : Executor) :
    executor.answeredTickets = (executor.history.filterMap ExecutorEvent.answer?).map (·.1) := rfl

theorem filterMap_answered (tickets : List Nat) (result : DeployResult) :
    (tickets.map fun ticket => ExecutorEvent.answered ticket result).filterMap
      ExecutorEvent.answer? = tickets.map fun ticket => (ticket, result) := by
  induction tickets with
  | nil => rfl
  | cons ticket tickets ih =>
      rw [List.map_cons, List.filterMap_cons, ih]
      rfl

/-- A worker that is done with a batch answers its requests. -/
theorem Concludes.answeredTickets {stage : Stage} {batch : Batch} {events : List ExecutorEvent}
    {result : DeployResult} (concludes : Concludes stage step batch events result)
    (same : later.history = executor.history ++
      (events ++ batch.waiters.map fun ticket => .answered ticket result)) :
    later.answeredTickets = executor.answeredTickets ++ batch.waiters := by
  have calls : events.filterMap ExecutorEvent.answer? = [] := by
    cases concludes <;> rfl
  rw [answeredTickets_eq, same, List.filterMap_append, List.filterMap_append, filterMap_answered,
    calls, List.nil_append, List.map_append, List.map_map, Function.comp_def, List.map_id',
    answeredTickets_eq]

theorem Concludes.two_le_stepsLeft {stage : Stage} {batch : Batch} {events : List ExecutorEvent}
    {result : DeployResult} (concludes : Concludes stage step batch events result) :
    2 ≤ Sandbox.stepsLeft stage := by
  cases concludes <;> simp [Sandbox.stepsLeft]

theorem inHand_of_workers {stage : Stage} (stands : executor.workers = [stage]) :
    executor.inHand = stage.batch?.toList := by
  cases taken : stage.batch? <;> simp [inHand, stands, taken]

@[simp]
theorem inHand_submit (request : DeployRequest) :
    (executor.submit request).inHand = executor.inHand := by
  cases running : executor.running <;> simp [inHand, submit, running, Stage.batch?]

@[simp]
theorem answeredTickets_submit (request : DeployRequest) :
    (executor.submit request).answeredTickets = executor.answeredTickets := by
  simp [answeredTickets_eq, submit, ExecutorEvent.answer?]

@[simp]
theorem pendingTickets_submit (request : DeployRequest) :
    (executor.submit request).pendingTickets = executor.pendingTickets ++ [executor.tickets] := by
  cases queued : executor.pending <;>
    simp [pendingTickets, submit, queued, Batch.join, Batch.single]

/-- A step leaves every request in one place. -/
theorem Moves.places (moves : executor.Moves step later)
    (placed : executor.answeredTickets ++ executor.takenTickets ++ executor.pendingTickets =
      List.range executor.tickets) :
    later.answeredTickets ++ later.takenTickets ++ later.pendingTickets =
      List.range later.tickets := by
  cases moves with
  | submit request =>
      have counted : (executor.submit request).tickets = executor.tickets + 1 := rfl
      rw [counted, List.range_succ, ← placed]
      simp [takenTickets]
  | abandon ticket => exact placed
  | take stands queued =>
      rw [← placed]
      simp [answeredTickets_eq, takenTickets, inHand, pendingTickets, stands, queued, Stage.batch?]
  | stop stands queued =>
      rw [← placed]
      simp [answeredTickets_eq, takenTickets, inHand, pendingTickets, stands, queued, Stage.batch?]
  | validate stands validation =>
      rw [← placed]
      simp [answeredTickets_eq, takenTickets, inHand, pendingTickets, stands, Stage.batch?,
        ExecutorEvent.answer?]
  | start secrets stands =>
      rw [← placed]
      simp [answeredTickets_eq, takenTickets, inHand, pendingTickets, stands, Stage.batch?,
        ExecutorEvent.answer?]
  | @conclude _ _ batch _ _ stands concludes =>
      have taken : executor.takenTickets = batch.waiters := by
        simp [takenTickets, inHand_of_workers stands, concludes.batch?]
      rw [← placed, concludes.answeredTickets rfl, taken]
      change _ ++ [] ++ executor.pendingTickets = _
      rw [List.append_nil]

theorem Steady.accounted (steady : executor.Steady)
    (placed : executor.answeredTickets ++ executor.takenTickets ++ executor.pendingTickets =
      List.range executor.tickets) : executor.Accounted where
  workers := steady.workers
  pending := by
    intro queued
    by_contra idle
    rw [steady.pending (by simpa using idle)] at queued
    cases queued
  places := placed
  idle := by
    intro idle
    have count := steady.workers
    rw [idle, if_neg Bool.false_ne_true, List.length_eq_zero_iff] at count
    have untaken : executor.inHand = [] := by simp [inHand, count]
    refine ⟨steady.pending idle, untaken, ?_⟩
    simpa [takenTickets, untaken, pendingTickets, steady.pending idle] using placed

/-- After every run, every request is in one place. -/
theorem accounted_of_run {steps : List Step} (taken : new.run? steps = some executor) :
    executor.Accounted := by
  refine (steady_new.run taken).accounted ?_
  refine run_induction (motive := fun _ executor =>
    executor.answeredTickets ++ executor.takenTickets ++ executor.pendingTickets =
      List.range executor.tickets) rfl ?_ taken
  intro _ _ _ _ placed _ moves
  exact moves.places placed

/-- Tickets count requests. -/
theorem tickets_of_run {steps : List Step} (taken : new.run? steps = some executor) :
    executor.tickets = (steps.filterMap Step.request?).length := by
  rcases submissions_of_run taken with ⟨tickets, requests⟩
  have counted : (List.range executor.tickets).length = executor.tickets := List.length_range
  rw [← requests, List.length_map, ← counted, ← tickets, List.length_map]

/-! ## Running out of batches -/

/-- A worker takes the step. -/
def Step.isWork : Step → Bool
  | .submit _ | .abandon _ => false
  | _ => true

/-- The step that the worker takes next, if the calls that it makes then end in these ways. -/
def nextStep? (executor : Executor) (secrets : SecretsOutcome) (outcome : DeployOutcome) :
    Option Step :=
  executor.workers.head?.map fun
    | .resting => .look 0
    | .validating _ => .validate 0
    | .listing _ _ => .list 0 secrets
    | .deploying _ => .finish 0 outcome

/-- The number of batches that are taken or pending. -/
def backlog (executor : Executor) : Nat := executor.inHand.length + executor.pending.toList.length

/-- The number of steps that workers may take until they stop. -/
def effort (executor : Executor) : Nat :=
  executor.workers.foldl (fun count stage => count + Sandbox.stepsLeft stage) 0 +
    4 * executor.pending.toList.length

/-- One if a batch was in hand and none is any more. -/
def completed (executor later : Executor) : Nat :=
  (!executor.inHand.isEmpty && later.inHand.isEmpty).toNat

/-- How many batches are completed by steps. -/
def completions (executor : Executor) : List Step → Nat
  | [] => 0
  | step :: steps =>
    match executor.step? step with
    | some later => completed executor later + completions later steps
    | none => 0

/-- A batch that is not there any more has been completed. -/
theorem Moves.backlog_eq (moves : executor.Moves step later) (quiet : step.request? = none) :
    completed executor later + later.backlog = executor.backlog := by
  cases moves with
  | submit request => cases quiet
  | abandon ticket =>
      have same : (executor.abandon ticket).inHand = executor.inHand := rfl
      have uncompleted : completed executor (executor.abandon ticket) = 0 := by
        simp [completed, same]
      rw [uncompleted, Nat.zero_add]
      rfl
  | take stands queued => simp [completed, backlog, inHand, stands, queued, Stage.batch?]
  | stop stands queued =>
      simp [completed, backlog, inHand, stands, queued, List.filterMap_cons, Stage.batch?]
  | validate stands validation => simp [completed, backlog, inHand, stands, Stage.batch?]
  | start secrets stands => simp [completed, backlog, inHand, stands, Stage.batch?]
  | conclude stands concludes =>
      have taken : executor.inHand.length = 1 := by
        simp [inHand_of_workers stands, concludes.batch?]
      have uncompleted : executor.inHand.isEmpty = false := by
        rw [List.isEmpty_eq_false_iff_exists_mem, ← List.length_pos_iff_exists_mem]
        omega
      rw [completed, uncompleted, backlog, backlog, taken]
      change 1 + (0 + _) = _
      rw [Nat.zero_add]

/-- A worker that takes a step comes closer to its stop. -/
theorem Moves.effort_le (moves : executor.Moves step later) (quiet : step.request? = none) :
    step.isWork.toNat + later.effort ≤ executor.effort := by
  cases moves with
  | submit request => cases quiet
  | abandon ticket => exact Nat.le_of_eq (Nat.zero_add _)
  | take stands queued => simp [effort, stands, queued, Sandbox.stepsLeft, Step.isWork]
  | stop stands queued => simp [effort, stands, queued, Sandbox.stepsLeft, Step.isWork]
  | validate stands validation =>
      simp only [effort, stands, List.foldl_cons, List.foldl_nil, Sandbox.stepsLeft,
        Step.isWork, Bool.toNat_true]
      omega
  | start secrets stands =>
      simp only [effort, stands, List.foldl_cons, List.foldl_nil, Sandbox.stepsLeft,
        Step.isWork, Bool.toNat_true]
      omega
  | conclude stands concludes =>
      have closer := concludes.two_le_stepsLeft
      have atMost := step.isWork.toNat_le
      have resting : Sandbox.stepsLeft .resting = 1 := rfl
      simp only [effort, stands, List.foldl_cons, List.foldl_nil, resting]
      omega

/-- While the executor is running its worker can go on, however calls end. -/
theorem Steady.exists_nextStep (steady : executor.Steady) (running : executor.running = true)
    (secrets : SecretsOutcome) (outcome : DeployOutcome) :
    ∃ step, executor.nextStep? secrets outcome = some step ∧ step.isWork = true ∧
      (executor.step? step).isSome = true := by
  have count := steady.workers
  rw [running, if_pos rfl, List.length_eq_one_iff] at count
  rcases count with ⟨stage, stands⟩
  cases stage <;> simp [nextStep?, stands, Step.isWork, step?]

/-- There are at most two batches, and no more than eight steps to take. -/
theorem Steady.backlog_le (steady : executor.Steady) :
    executor.backlog ≤ 2 ∧ executor.effort ≤ 8 := by
  have onePending : executor.pending.toList.length ≤ 1 := by
    cases executor.pending <;> simp
  have count := steady.workers
  cases running : executor.running with
  | false =>
      rw [running, if_neg Bool.false_ne_true, List.length_eq_zero_iff] at count
      simp [backlog, effort, inHand, count, steady.pending running]
  | true =>
      rw [running, if_pos rfl, List.length_eq_one_iff] at count
      rcases count with ⟨stage, stands⟩
      rw [backlog, effort, inHand_of_workers stands, stands]
      have oneTaken : stage.batch?.toList.length ≤ 1 := by
        cases stage.batch? <;> simp
      have fewSteps : Sandbox.stepsLeft stage ≤ 4 := by
        cases stage <;> simp [Sandbox.stepsLeft]
      simp only [List.foldl_cons, List.foldl_nil]
      omega

/-- Without further requests, the batches that were there are completed or still there, and every
step of a worker is one of those that were left. -/
theorem Steady.drain (steady : executor.Steady) {steps : List Step}
    (quiet : ∀ step ∈ steps, step.request? = none) (taken : executor.run? steps = some later) :
    completions executor steps + later.backlog = executor.backlog ∧
      steps.countP Step.isWork + later.effort ≤ executor.effort := by
  induction steps generalizing executor with
  | nil =>
      cases taken
      simp [completions]
  | cons step steps ih =>
      rw [run?_cons, Option.bind_eq_some_iff] at taken
      rcases taken with ⟨next, first, rest⟩
      have moves := steady.moves first
      have quietStep := quiet step List.mem_cons_self
      have quietRest := fun other other_mem => quiet other (List.mem_cons_of_mem _ other_mem)
      have backlog := moves.backlog_eq quietStep
      have effort := moves.effort_le quietStep
      rcases ih (moves.steady steady) quietRest rest with ⟨backlogRest, effortRest⟩
      simp only [completions, first, List.countP_cons]
      cases working : step.isWork <;> simp [working] at effort ⊢ <;> omega

/-- What becomes of the executor when no more requests arrive, in whatever order its worker takes
steps and callers stop waiting. -/
structure Drains (executor : Executor) : Prop where
  /-- There are at most two batches. -/
  few : executor.backlog ≤ 2
  /-- The worker completes each of them, and no other. -/
  batches : ∀ steps later, (∀ step ∈ steps, step.request? = none) →
    executor.run? steps = some later →
      completions executor steps + later.backlog = executor.backlog
  /-- The worker takes at most eight steps. -/
  bounded : ∀ steps later, (∀ step ∈ steps, step.request? = none) →
    executor.run? steps = some later → steps.countP Step.isWork ≤ 8
  /-- Until it stops it can take its next step, however calls end. -/
  goesOn : ∀ steps later, (∀ step ∈ steps, step.request? = none) →
    executor.run? steps = some later → later.running = true → ∀ secrets outcome,
      ∃ step, later.nextStep? secrets outcome = some step ∧ step.isWork = true ∧
        (later.step? step).isSome = true
  /-- When it has stopped, every request has been answered. -/
  stops : ∀ steps later, (∀ step ∈ steps, step.request? = none) →
    executor.run? steps = some later → later.running = false →
      later.answeredTickets = List.range executor.tickets

/-- Without further requests the executor drains. -/
theorem drains_of_run {earlier : List Step} (reached : new.run? earlier = some executor) :
    executor.Drains := by
  have steady := steady_new.run reached
  constructor
  · exact steady.backlog_le.1
  · exact fun steps later quiet taken => (steady.drain quiet taken).1
  · intro steps later quiet taken
    have bounded := (steady.drain quiet taken).2
    have atMost := steady.backlog_le.2
    omega
  · intro steps later quiet taken running secrets outcome
    exact (steady.run taken).exists_nextStep running secrets outcome
  · intro steps later quiet taken stopped
    have whole : new.run? (earlier ++ steps) = some later := by
      rw [run?_append, reached]
      exact taken
    have none_more : steps.filterMap Step.request? = [] := List.filterMap_eq_nil_iff.mpr quiet
    rw [((accounted_of_run whole).idle stopped).2.2, tickets_of_run whole, tickets_of_run reached,
      List.filterMap_append, none_more, List.append_nil]

/-- However requests, abandonments and steps of the worker follow each other, every request is in
one place, and without further requests the executor completes the at most two batches that it has,
answers every request, and stops. -/
theorem run_accounted {steps : List Step} (taken : new.run? steps = some executor) :
    executor.tickets = (steps.filterMap Step.request?).length ∧ executor.Accounted ∧
      executor.Drains :=
  ⟨tickets_of_run taken, accounted_of_run taken, drains_of_run taken⟩

/-- Two requests join one batch while the secrets of an earlier one are listed, which fails. -/
def joining : List Step :=
  [.submit (requestOf (.ok true)), .look 0, .submit (requestOf (.ok false)), .validate 0,
    .submit (requestOf (.error .other)), .abandon 1, .list 0 (.failed "denied")]

/-- The validation of the joint batch panics, and the worker stops. -/
def panicking : List Step := [.look 0, .abandon 2, .validate 0, .look 0]

/-- The executor accounts for requests that join a batch, and drains when their batch panics. -/
theorem joining_accounted :
    ∃ executor later, new.run? joining = some executor ∧ executor.run? panicking = some later ∧
      (executor.tickets = (joining.filterMap Step.request?).length ∧ executor.Accounted ∧
        executor.Drains) ∧
      completions executor panicking = 1 ∧ later.running = false ∧
      later.answeredTickets = List.range executor.tickets := by
  refine ⟨_, _, rfl, rfl, run_accounted rfl, rfl, rfl, ?_⟩
  have accounted := run_accounted (rfl : new.run? joining = some _)
  exact accounted.2.2.stops panicking _ (by decide) rfl rfl

end Executor

end CloudSynth
