import CloudSynth.Proofs.Sandbox.Steps

/-!
# Blocks of requests

The deploys of the sandbox cut the submitted requests into consecutive blocks. All that workers do
is done for one block after another, and what is done for a block is said by the block alone: its
requests, how far the work on it has come, and what the calls made for it have answered
(`Block.events`). So the settings of a deploy are those of the last request of its block, and every
request is answered with the result of its own block.

`Chronicled` is what the history says about blocks, and `WorksOn` how the worker stands to the last
of them. Both are kept by every step, and `Executor.run_deploysInBlocks` holds after every run.
-/

namespace CloudSynth

/-! ## The latest update of secrets -/

/-- The time is the greatest at which one of the secrets was last changed. There is none if no
secret has such a time. -/
def IsLatestUpdate (secrets : List ListedSecret) : Option Int → Prop
  | none => ∀ secret ∈ secrets, secret.lastUpdated = none
  | some time => (∃ secret ∈ secrets, secret.lastUpdated = some time) ∧
      ∀ secret ∈ secrets, ∀ other, secret.lastUpdated = some other → other ≤ time

/-- Going through times leaves the greatest of them and of the time to start from. -/
theorem foldl_latestOf (times : List Int) (first : Int) :
    ∃ latest, times.foldl latestOf (some first) = some latest ∧
      (latest = first ∨ latest ∈ times) ∧ first ≤ latest ∧ ∀ time ∈ times, time ≤ latest := by
  induction times generalizing first with
  | nil => exact ⟨first, rfl, Or.inl rfl, Int.le_refl first, by simp⟩
  | cons time times ih =>
      rcases ih (max first time) with ⟨latest, found, among, atLeast, greatest⟩
      refine ⟨latest, found, ?_, by omega, ?_⟩
      · rcases among with rfl | times_mem
        · rcases Int.le_total first time with later | earlier
          · exact Or.inr (by simp [Int.max_eq_right later])
          · exact Or.inl (Int.max_eq_left earlier)
        · exact Or.inr (List.mem_cons_of_mem _ times_mem)
      · intro other other_mem
        rcases List.mem_cons.mp other_mem with rfl | times_mem
        · omega
        · exact greatest other times_mem

/-- `latestSecretUpdate` finds the greatest time. -/
theorem isLatestUpdate_latestSecretUpdate (secrets : List ListedSecret) :
    IsLatestUpdate secrets (latestSecretUpdate secrets) := by
  have mem_times : ∀ time, time ∈ secrets.filterMap (·.lastUpdated) ↔
      ∃ secret ∈ secrets, secret.lastUpdated = some time := fun _ => List.mem_filterMap
  unfold latestSecretUpdate
  generalize secrets.filterMap (·.lastUpdated) = times at mem_times
  cases times with
  | nil =>
      intro secret secret_mem
      rw [Option.eq_none_iff_forall_ne_some]
      intro time updated
      simpa using (mem_times time).mpr ⟨secret, secret_mem, updated⟩
  | cons first times =>
      rcases foldl_latestOf times first with ⟨latest, found, among, atLeast, greatest⟩
      change IsLatestUpdate secrets (times.foldl latestOf (some first))
      rw [found]
      refine ⟨(mem_times latest).mp (List.mem_cons.mpr among), ?_⟩
      intro secret secret_mem other updated
      rcases List.mem_cons.mp ((mem_times other).mpr ⟨secret, secret_mem, updated⟩) with
        rfl | times_mem
      · exact atLeast
      · exact greatest other times_mem

/-! ## Blocks -/

/-- How far the work on a block has come, with what the calls that were made for it answered. -/
inductive BlockProgress
  /-- Nothing was called yet. -/
  | taken
  | validationPanicked (panic : Panic)
  | listing
  | listingFailed (message : String)
  | listingPanicked (panic : Panic)
  | deploying (secrets : List ListedSecret) (options : DeployOptions)
  | deployed (secrets : List ListedSecret) (options : DeployOptions) (outcome : DeployOutcome)

namespace BlockProgress

/-- The result of the block, once the work on it is finished. -/
def result? : BlockProgress → Option DeployResult
  | .validationPanicked panic => some (.error (.panicked panic.message))
  | .listingFailed message => some (.error (.secrets message))
  | .listingPanicked panic => some (.error (.panicked panic.message))
  | .deployed _ _ outcome => some (Executor.resultOf outcome)
  | .taken | .listing | .deploying _ _ => none

/-- What listing secrets answered. -/
def secrets? : BlockProgress → Option SecretsOutcome
  | .listingFailed message => some (.failed message)
  | .listingPanicked panic => some (.panicked panic)
  | .deploying secrets _ | .deployed secrets _ _ => some (.returned secrets)
  | .taken | .validationPanicked _ | .listing => none

/-- What the deployer answered. -/
def outcome? : BlockProgress → Option DeployOutcome
  | .deployed _ _ outcome => some outcome
  | _ => none

end BlockProgress

/-- Consecutive requests that are deployed together; there is at least one. -/
structure Block where
  earlier : List (Nat × DeployRequest)
  last : Nat × DeployRequest
  progress : BlockProgress

namespace Block

/-- The requests of the block with their numbers, in order. -/
def requests (block : Block) : List (Nat × DeployRequest) := block.earlier ++ [block.last]

/-- The batch that stands for the block. -/
def batch (block : Block) : Batch :=
  ⟨block.last.2, block.last.1, block.requests.map (·.1)⟩

/-- The calls that have been made for the block. -/
def calls (block : Block) : List ExecutorEvent :=
  match block.progress with
  | .taken => []
  | .validationPanicked _ => [.validated block.last.1]
  | .listing | .listingFailed _ | .listingPanicked _ =>
    [.validated block.last.1, .listed block.last.2.backend]
  | .deploying _ options =>
    [.validated block.last.1, .listed block.last.2.backend, .started block.batch options]
  | .deployed _ options outcome =>
    [.validated block.last.1, .listed block.last.2.backend, .started block.batch options,
      .ended block.batch outcome]

/-- The answers to the requests of the block. -/
def answers (block : Block) : List ExecutorEvent :=
  match block.progress.result? with
  | some result => block.requests.map fun request => .answered request.1 result
  | none => []

/-- All that has been done for the block. -/
def events (block : Block) : List ExecutorEvent := block.calls ++ block.answers

/-- The work on the block is finished. -/
def IsFinished (block : Block) : Prop := block.progress.result?.isSome = true

/-- The calls for the block follow its last request: its validation answered what the block went on
with, and the deploy has its profile, the answer of its validation, and the latest update of the
secrets that were listed. -/
def Agrees (block : Block) : Prop :=
  match block.progress with
  | .taken => True
  | .validationPanicked panic => block.last.2.validation = .error panic
  | .listing | .listingFailed _ | .listingPanicked _ =>
    ∃ validateSources, block.last.2.validation = .ok validateSources
  | .deploying secrets options | .deployed secrets options _ =>
    block.last.2.validation = .ok options.validateSources ∧
      options.profile = block.last.2.profile ∧ IsLatestUpdate secrets options.secretLastUpdated

/-- The block with the work on it further along. -/
def withProgress (block : Block) (progress : BlockProgress) : Block := { block with progress }

@[simp]
theorem progress_withProgress (block : Block) (progress : BlockProgress) :
    (block.withProgress progress).progress = progress := rfl

@[simp]
theorem requests_withProgress (block : Block) (progress : BlockProgress) :
    (block.withProgress progress).requests = block.requests := rfl

@[simp]
theorem batch_withProgress (block : Block) (progress : BlockProgress) :
    (block.withProgress progress).batch = block.batch := rfl

end Block

/-! ## Histories in blocks -/

/-- At some time the work on the blocks before was finished and all requests of the block had been
submitted, but nothing had been done for it. -/
def Begun (history : List ExecutorEvent) (before : List Block) (block : Block) : Prop :=
  (∀ earlier ∈ before, earlier.IsFinished) ∧
    ∃ past later, history = past ++ later ∧ workIn past = before.flatMap Block.events ∧
      (before ++ [block]).flatMap Block.requests <+: submissionsIn past

/-- The history consists of the work on blocks and of the submissions of their requests, and of
those that are queued. -/
structure Chronicled (history : List ExecutorEvent) (blocks : List Block)
    (queued : List (Nat × DeployRequest)) : Prop where
  submitted : submissionsIn history = blocks.flatMap Block.requests ++ queued
  work : workIn history = blocks.flatMap Block.events
  agrees : ∀ block ∈ blocks, block.Agrees
  begun : ∀ before block, before ++ [block] <+: blocks → Begun history before block

theorem Begun.append {history : List ExecutorEvent} {before : List Block} {block : Block}
    (begun : Begun history before block) (events : List ExecutorEvent) :
    Begun (history ++ events) before block := by
  rcases begun with ⟨finished, past, later, rfl, work, submitted⟩
  exact ⟨finished, past, later ++ events, List.append_assoc .., work, submitted⟩

namespace Chronicled

variable {history : List ExecutorEvent} {blocks done : List Block} {block : Block}
  {queued : List (Nat × DeployRequest)}

theorem nil : Chronicled [] [] [] where
  submitted := rfl
  work := rfl
  agrees := by simp
  begun := by simp

theorem submit (chronicled : Chronicled history blocks queued) (ticket : Nat)
    (request : DeployRequest) :
    Chronicled (history ++ [.submitted ticket request]) blocks (queued ++ [(ticket, request)]) where
  submitted := by simp [chronicled.submitted]
  work := by simp [chronicled.work]
  agrees := chronicled.agrees
  begun := fun before block place => (chronicled.begun before block place).append _

/-- The queued requests become a block, when the work on all blocks is finished. -/
theorem take (chronicled : Chronicled history blocks block.requests)
    (finished : ∀ block ∈ blocks, block.IsFinished) (fresh : block.progress = .taken) :
    Chronicled history (blocks ++ [block]) [] where
  submitted := by simp [chronicled.submitted]
  work := by simp [chronicled.work, Block.events, Block.calls, Block.answers, fresh,
    BlockProgress.result?]
  agrees := by
    intro other other_mem
    rcases List.mem_append.mp other_mem with blocks_mem | last
    · exact chronicled.agrees other blocks_mem
    · rw [List.mem_singleton.mp last]
      simp [Block.Agrees, fresh]
  begun := by
    intro before other place
    rcases List.prefix_concat_iff.mp place with whole | within
    · rcases List.append_inj' whole rfl with ⟨rfl, same⟩
      cases same
      exact ⟨finished, history, [], by simp, chronicled.work, by simp [chronicled.submitted]⟩
    · exact chronicled.begun before other within

/-- The work on the last block goes on. -/
theorem advance (chronicled : Chronicled history (done ++ [block]) queued)
    {progress : BlockProgress} {events : List ExecutorEvent}
    (work : ∀ event ∈ events, event.submission? = none)
    (goesOn : (block.withProgress progress).events = block.events ++ events)
    (agrees : (block.withProgress progress).Agrees) :
    Chronicled (history ++ events) (done ++ [block.withProgress progress]) queued where
  submitted := by simp [chronicled.submitted, submissionsIn_eq_nil work]
  work := by simp [chronicled.work, workIn_eq_self work, goesOn]
  agrees := by
    intro other other_mem
    rcases List.mem_append.mp other_mem with done_mem | last
    · exact chronicled.agrees other (List.mem_append_left _ done_mem)
    · rw [List.mem_singleton.mp last]
      exact agrees
  begun := by
    intro before other place
    rcases List.prefix_concat_iff.mp place with whole | within
    · rcases List.append_inj' whole rfl with ⟨rfl, same⟩
      cases same
      rcases chronicled.begun before block List.prefix_rfl with
        ⟨finished, past, later, rfl, workPast, submitted⟩
      refine ⟨finished, past, later ++ events, List.append_assoc .., workPast, ?_⟩
      simpa using submitted
    · exact (chronicled.begun before other
        (within.trans (List.prefix_append done [block]))).append events

/-- The work on all blocks is finished when that on the last one is. -/
theorem forall_isFinished (chronicled : Chronicled history (done ++ [block]) queued)
    (finished : block.IsFinished) : ∀ other ∈ done ++ [block], other.IsFinished := by
  intro other other_mem
  rcases List.mem_append.mp other_mem with done_mem | last
  · exact (chronicled.begun done block List.prefix_rfl).1 other done_mem
  · rw [List.mem_singleton.mp last]
    exact finished

end Chronicled

/-! ## The executor -/

/-- How workers stand to blocks: without a batch the work on all blocks is finished, with a batch
they work on the last one. -/
inductive WorksOn : List Stage → List Block → Prop
  | stopped {blocks : List Block} (finished : ∀ block ∈ blocks, block.IsFinished) :
    WorksOn [] blocks
  | resting {blocks : List Block} (finished : ∀ block ∈ blocks, block.IsFinished) :
    WorksOn [.resting] blocks
  | validating {done : List Block} (block : Block) (progress : block.progress = .taken) :
    WorksOn [.validating block.batch] (done ++ [block])
  | listing {done : List Block} (block : Block) {validateSources : Bool}
    (progress : block.progress = .listing)
    (validation : block.last.2.validation = .ok validateSources) :
    WorksOn [.listing block.batch validateSources] (done ++ [block])
  | deploying {done : List Block} (block : Block) {secrets : List ListedSecret}
    {options : DeployOptions} (progress : block.progress = .deploying secrets options) :
    WorksOn [.deploying block.batch] (done ++ [block])

/-- The pending batch stands for the queued requests. -/
inductive Queues : Option Batch → List (Nat × DeployRequest) → Prop
  | none : Queues none []
  | some (block : Block) (fresh : block.progress = .taken) :
    Queues (some block.batch) block.requests

theorem Queues.waiters {pending : Option Batch} {queued : List (Nat × DeployRequest)}
    (queues : Queues pending queued) :
    queued.map (·.1) = pending.toList.flatMap (·.waiters) := by
  cases queues with
  | none => rfl
  | some block fresh => simp [Block.batch]

namespace Executor

/-- What listing secrets answered in the step. -/
def Step.secrets? : Step → Option SecretsOutcome
  | .list _ secrets => some secrets
  | _ => none

/-- What the deployer answered in the step. -/
def Step.outcome? : Step → Option DeployOutcome
  | .finish _ outcome => some outcome
  | _ => none

/-- The state of the executor and its history after the steps, in terms of blocks. -/
structure Ledger (executor : Executor) (steps : List Step) (blocks : List Block)
    (queued : List (Nat × DeployRequest)) : Prop where
  chronicled : Chronicled executor.history blocks queued
  works : WorksOn executor.workers blocks
  queues : Queues executor.pending queued
  listings : steps.filterMap Step.secrets? = blocks.filterMap (·.progress.secrets?)
  deploys : steps.filterMap Step.outcome? = blocks.filterMap (·.progress.outcome?)

theorem ledger_new : new.Ledger [] [] [] where
  chronicled := .nil
  works := .stopped (by simp)
  queues := .none
  listings := rfl
  deploys := rfl

variable {executor later : Executor} {steps : List Step} {step : Step} {blocks : List Block}
  {queued : List (Nat × DeployRequest)}

theorem Ledger.submit (ledger : executor.Ledger steps blocks queued) (steady : executor.Steady)
    (request : DeployRequest) :
    (executor.submit request).Ledger (steps ++ [.submit request]) blocks
      (queued ++ [(executor.tickets, request)]) where
  chronicled := ledger.chronicled.submit executor.tickets request
  works := by
    have works := ledger.works
    have count := steady.workers
    cases running : executor.running with
    | true => simpa [Executor.submit, running] using works
    | false =>
        rw [running, if_neg Bool.false_ne_true, List.length_eq_zero_iff] at count
        simp only [count, Executor.submit, running, Bool.false_eq_true, if_false, List.nil_append]
          at works ⊢
        cases works with
        | stopped finished => exact .resting finished
  queues := by
    have queues := ledger.queues
    simp only [Executor.submit]
    cases pending : executor.pending with
    | none =>
        rw [pending] at queues
        cases queues
        exact .some ⟨[], (executor.tickets, request), .taken⟩ rfl
    | some batch =>
        rw [pending] at queues
        cases queues with
        | some block fresh =>
            have joined : block.batch.join executor.tickets request =
                (Block.mk block.requests (executor.tickets, request) .taken).batch := by
              simp [Batch.join, Block.batch, Block.requests]
            change Queues (some (block.batch.join executor.tickets request)) _
            rw [joined]
            exact .some _ rfl
  listings := by simpa [Step.secrets?, List.filterMap_cons] using ledger.listings
  deploys := by simpa [Step.outcome?, List.filterMap_cons] using ledger.deploys

/-- The work on the last block goes on by a step. -/
theorem Ledger.advance {done : List Block} {block : Block}
    (ledger : executor.Ledger steps (done ++ [block]) queued) (progress : BlockProgress)
    {events : List ExecutorEvent} {workers : List Stage}
    (work : ∀ event ∈ events, event.submission? = none)
    (goesOn : (block.withProgress progress).events = block.events ++ events)
    (agrees : (block.withProgress progress).Agrees)
    (works : WorksOn workers (done ++ [block.withProgress progress]))
    (listed : progress.secrets?.toList = block.progress.secrets?.toList ++ step.secrets?.toList)
    (deployed : progress.outcome?.toList =
      block.progress.outcome?.toList ++ step.outcome?.toList) :
    Ledger { executor with workers, history := executor.history ++ events } (steps ++ [step])
      (done ++ [block.withProgress progress]) queued where
  chronicled := ledger.chronicled.advance work goesOn agrees
  works := works
  queues := ledger.queues
  listings := by
    have listings := ledger.listings
    rw [List.filterMap_append, filterMap_singleton] at listings
    rw [List.filterMap_append, List.filterMap_append, filterMap_singleton, filterMap_singleton,
      listings, List.append_assoc, ← listed]
    rfl
  deploys := by
    have deploys := ledger.deploys
    rw [List.filterMap_append, filterMap_singleton] at deploys
    rw [List.filterMap_append, List.filterMap_append, filterMap_singleton, filterMap_singleton,
      deploys, List.append_assoc, ← deployed]
    rfl

/-- The work on the last block is finished by a step, and its requests are answered. -/
theorem Ledger.conclude {done : List Block} {block : Block}
    (ledger : executor.Ledger steps (done ++ [block]) queued) (progress : BlockProgress)
    {stage : Stage} {events : List ExecutorEvent} {result : DeployResult}
    (concludes : Concludes stage step block.batch events result)
    (unanswered : block.progress.result? = none) (finished : progress.result? = some result)
    (calls : (block.withProgress progress).calls = block.calls ++ events)
    (agrees : (block.withProgress progress).Agrees)
    (listed : progress.secrets?.toList = block.progress.secrets?.toList ++ step.secrets?.toList)
    (deployed : progress.outcome?.toList =
      block.progress.outcome?.toList ++ step.outcome?.toList) :
    ∃ blocks queued, Ledger
      { executor with
        workers := [.resting]
        history := executor.history ++
          (events ++ block.batch.waiters.map fun ticket => .answered ticket result) }
      (steps ++ [step]) blocks queued := by
  have answers : (block.withProgress progress).answers =
      block.batch.waiters.map fun ticket => .answered ticket result := by
    simp [Block.answers, finished, Block.batch]
  have goesOn : (block.withProgress progress).events = block.events ++
      (events ++ block.batch.waiters.map fun ticket => .answered ticket result) := by
    have none_before : block.answers = [] := by simp [Block.answers, unanswered]
    rw [Block.events, Block.events, calls, answers, none_before, List.append_nil,
      List.append_assoc]
  have chronicled := ledger.chronicled.advance concludes.isWork goesOn agrees
  have isFinished : (block.withProgress progress).IsFinished :=
    Option.isSome_iff_exists.mpr ⟨_, finished⟩
  exact ⟨_, queued, ledger.advance progress concludes.isWork goesOn agrees
    (.resting (chronicled.forall_isFinished isFinished)) listed deployed⟩

/-- Every step keeps the history in blocks. -/
theorem Moves.ledger (moves : executor.Moves step later) (steady : executor.Steady)
    (ledger : executor.Ledger steps blocks queued) :
    ∃ blocks queued, later.Ledger (steps ++ [step]) blocks queued := by
  have works := ledger.works
  have queues := ledger.queues
  cases moves with
  | submit request => exact ⟨blocks, _, ledger.submit steady request⟩
  | abandon ticket =>
      refine ⟨blocks, queued, ledger.chronicled, ledger.works, ledger.queues, ?_, ?_⟩
      · simpa [Step.secrets?, List.filterMap_cons] using ledger.listings
      · simpa [Step.outcome?, List.filterMap_cons] using ledger.deploys
  | take stands pending =>
      rw [pending] at queues
      rw [stands] at works
      cases works with
      | resting finished =>
          cases queues with
          | some block fresh =>
              refine ⟨blocks ++ [block], [], ledger.chronicled.take finished fresh,
                .validating block fresh, .none, ?_, ?_⟩
              · simpa [Step.secrets?, List.filterMap_cons, fresh, BlockProgress.secrets?]
                  using ledger.listings
              · simpa [Step.outcome?, List.filterMap_cons, fresh, BlockProgress.outcome?]
                  using ledger.deploys
  | stop stands pending =>
      rw [stands] at works
      cases works with
      | resting finished =>
          refine ⟨blocks, queued, ledger.chronicled, .stopped finished, ledger.queues, ?_, ?_⟩
          · simpa [Step.secrets?, List.filterMap_cons] using ledger.listings
          · simpa [Step.outcome?, List.filterMap_cons] using ledger.deploys
  | validate stands validation =>
      rw [stands] at works
      cases works with
      | @validating done block progress =>
          rcases block with ⟨earlier, last, reached⟩
          subst progress
          refine ⟨_, queued, ledger.advance .listing ?_ rfl ⟨_, validation⟩ ?_ rfl rfl⟩
          · simp [ExecutorEvent.submission?]
          · exact .listing ⟨earlier, last, .listing⟩ rfl validation
  | @start _ validateSources secrets stands =>
      rw [stands] at works
      cases works with
      | @listing done block _ progress validation =>
          rcases block with ⟨earlier, last, reached⟩
          subst progress
          refine ⟨_, queued, ledger.advance (.deploying secrets (options _ validateSources secrets))
            ?_ rfl ⟨validation, rfl, isLatestUpdate_latestSecretUpdate secrets⟩ ?_ rfl rfl⟩
          · simp [ExecutorEvent.submission?]
          · exact .deploying ⟨earlier, last, .deploying _ _⟩ rfl
  | conclude stands concludes =>
      rw [stands] at works
      have concluded := concludes
      cases concludes with
      | validationPanicked validation =>
          cases works with
          | @validating done block progress =>
              rcases block with ⟨earlier, last, reached⟩
              subst progress
              exact ledger.conclude (.validationPanicked _) concluded rfl rfl rfl validation rfl rfl
      | listingFailed message =>
          cases works with
          | @listing done block _ progress validation =>
              rcases block with ⟨earlier, last, reached⟩
              subst progress
              exact ledger.conclude (.listingFailed message) concluded rfl rfl rfl ⟨_, validation⟩
                rfl rfl
      | listingPanicked panic =>
          cases works with
          | @listing done block _ progress validation =>
              rcases block with ⟨earlier, last, reached⟩
              subst progress
              exact ledger.conclude (.listingPanicked panic) concluded rfl rfl rfl ⟨_, validation⟩
                rfl rfl
      | deployEnded outcome =>
          cases works with
          | @deploying done block secrets options progress =>
              rcases block with ⟨earlier, last, reached⟩
              subst progress
              have agrees := ledger.chronicled.agrees _
                (List.mem_append_right done (List.mem_singleton_self _))
              exact ledger.conclude (.deployed secrets options outcome) concluded rfl rfl rfl agrees
                rfl rfl

/-- After the steps, all that workers have done is the work on the blocks, one after another. -/
structure DeploysInBlocks (executor : Executor) (steps : List Step) (blocks : List Block) :
    Prop where
  /-- The requests of the steps, numbered in order, are those of the blocks and then those of the
  pending batch. -/
  partition : ∃ queued, blocks.flatMap Block.requests ++ queued = submissionsIn executor.history ∧
    queued.map (·.1) = executor.pending.toList.flatMap (·.waiters) ∧
    (submissionsIn executor.history).map (·.1) = List.range executor.tickets ∧
    (submissionsIn executor.history).map (·.2) = steps.filterMap Step.request?
  /-- What workers have done is what is done for the blocks. -/
  work : workIn executor.history = blocks.flatMap Block.events
  /-- What is done for a block follows its last request. -/
  agrees : ∀ block ∈ blocks, block.Agrees
  /-- Nothing is done for a block before all its requests were submitted and the work on the blocks
  before it was finished. -/
  begun : ∀ before block, before ++ [block] <+: blocks → Begun executor.history before block
  /-- The blocks have been answered what listing secrets answered in the steps, -/
  listings : steps.filterMap Step.secrets? = blocks.filterMap (·.progress.secrets?)
  /-- and what the deployer answered. -/
  deploys : steps.filterMap Step.outcome? = blocks.filterMap (·.progress.outcome?)

/-- However requests and steps of the worker follow each other, requests are deployed in blocks. -/
theorem run_deploysInBlocks (taken : new.run? steps = some executor) :
    ∃ blocks, executor.DeploysInBlocks steps blocks := by
  have recorded : ∃ blocks queued, executor.Ledger steps blocks queued := by
    refine run_induction (motive := fun steps executor =>
      ∃ blocks queued, executor.Ledger steps blocks queued) ⟨[], [], ledger_new⟩ ?_ taken
    rintro steps executor step later ⟨blocks, queued, ledger⟩ steady moves
    exact moves.ledger steady ledger
  rcases recorded with ⟨blocks, queued, ledger⟩
  rcases submissions_of_run taken with ⟨tickets, requests⟩
  exact ⟨blocks, ⟨queued, ledger.chronicled.submitted.symm, ledger.queues.waiters, tickets,
    requests⟩, ledger.chronicled.work, ledger.chronicled.agrees, ledger.chronicled.begun,
    ledger.listings, ledger.deploys⟩

/-- Two requests follow while an earlier one is deployed, which fails; then they are deployed
together. -/
def following : List Step :=
  [.submit (requestOf (.ok true)), .look 0, .validate 0, .list 0 (.returned []),
    .submit (requestOf (.error .other)), .submit (requestOf (.ok false)),
    .finish 0 (.failed .inProgress), .look 0, .validate 0,
    .list 0 (.returned [⟨"key", some 5⟩, ⟨"token", none⟩, ⟨"seed", some 7⟩]),
    .finish 0 (.returned ())]

/-- Requests that follow while a deploy fails are deployed in a block of their own. -/
theorem following_deploysInBlocks :
    ∃ executor blocks, new.run? following = some executor ∧
      executor.DeploysInBlocks following blocks := by
  rcases run_deploysInBlocks (rfl : new.run? following = some _) with ⟨blocks, inBlocks⟩
  exact ⟨_, blocks, rfl, inBlocks⟩

end Executor

end CloudSynth
