import CloudSynth.Identifier
import CloudSynth.Sandbox.Failure

/-!
# The sandbox executor

The executor runs one deploy at a time. The first request starts a worker. Requests that arrive
while a deploy runs join one pending batch, which the worker deploys with the settings of the batch's
latest request once the current deploy is over. A batch is validated, its secrets are listed, then
it is deployed; whatever ends it, every request of the batch gets the result of the batch, and the
worker looks for the next one. A worker that finds no batch stops.

The executor is a step system: every step is taken under the lock of the executor or by its worker,
and steps of different requests and of the worker interleave in any order. Requests are known by the
number of requests before them.
-/

namespace CloudSynth

/-! ## Calls -/

/-- A secret and when it was last changed, in milliseconds. -/
structure ListedSecret where
  name : String
  lastUpdated : Option Int
  deriving DecidableEq, Repr

/-- The later of two times. -/
def latestOf : Option Int → Int → Option Int
  | none, time => some time
  | some latest, time => some (max latest time)

/-- When a secret was last changed. -/
def latestSecretUpdate (secrets : List ListedSecret) : Option Int :=
  (secrets.filterMap (·.lastUpdated)).foldl latestOf none

/-- How a call outside the executor ends. -/
inductive CallOutcome (ε α : Type)
  | returned (value : α)
  | failed (cause : ε)
  | panicked (panic : Panic)
  deriving DecidableEq, Repr

/-- What listing the secrets of a backend answers; a failure is a message. -/
abbrev SecretsOutcome := CallOutcome String (List ListedSecret)

/-- What the deployer answers. -/
abbrev DeployOutcome := CallOutcome DeploymentError Unit

/-- A request for a deploy. -/
structure DeployRequest where
  backend : BackendIdentifier
  /-- What validation answers: whether sources are validated in full, or a panic. -/
  validation : Except Panic Bool
  profile : Option String

/-- What a deploy is started with. -/
structure DeployOptions where
  profile : Option String
  secretLastUpdated : Option Int
  validateSources : Bool
  deriving DecidableEq, Repr

/-! ## States -/

/-- Requests that are deployed together. -/
structure Batch where
  /-- The latest request, which the deploy takes its settings from. -/
  latest : DeployRequest
  /-- The number of the latest request. -/
  ticket : Nat
  /-- The numbers of all requests of the batch in order. -/
  waiters : List Nat

namespace Batch

/-- The batch of a single request. -/
def single (ticket : Nat) (request : DeployRequest) : Batch := ⟨request, ticket, [ticket]⟩

/-- The batch with one more request. -/
def join (batch : Batch) (ticket : Nat) (request : DeployRequest) : Batch :=
  ⟨request, ticket, batch.waiters ++ [ticket]⟩

end Batch

/-- Where a worker stands. -/
inductive Stage
  /-- Waits for its quiet period, or is about to look for a batch. -/
  | resting
  /-- Has taken a batch and is about to validate it. -/
  | validating (batch : Batch)
  /-- Lists the secrets for a batch. -/
  | listing (batch : Batch) (validateSources : Bool)
  /-- Deploys a batch. -/
  | deploying (batch : Batch)

/-- The batch that a worker has taken. -/
def Stage.batch? : Stage → Option Batch
  | .resting => none
  | .validating batch => some batch
  | .listing batch _ => some batch
  | .deploying batch => some batch

/-- What has happened. -/
inductive ExecutorEvent
  | submitted (ticket : Nat) (request : DeployRequest)
  /-- The validation of a request was called. -/
  | validated (ticket : Nat)
  /-- The secrets of a backend were asked for. -/
  | listed (backend : BackendIdentifier)
  /-- A deploy was started for a batch. -/
  | started (batch : Batch) (options : DeployOptions)
  /-- The deploy of a batch is over. -/
  | ended (batch : Batch) (outcome : DeployOutcome)
  /-- A request was answered. -/
  | answered (ticket : Nat) (result : DeployResult)

/-- The executor. -/
structure Executor where
  /-- A deploy is running or queued. -/
  running : Bool
  pending : Option Batch
  workers : List Stage
  /-- The number of requests so far. -/
  tickets : Nat
  /-- The requests whose callers have stopped waiting. -/
  abandoned : List Nat
  history : List ExecutorEvent

namespace Executor

/-- An executor that has done nothing. -/
def new : Executor := ⟨false, none, [], 0, [], []⟩

instance : Inhabited Executor := ⟨new⟩

/-- The executor with more events in its history. -/
def note (executor : Executor) (events : List ExecutorEvent) : Executor :=
  { executor with history := executor.history ++ events }

/-- The executor with a worker elsewhere. -/
def moveTo (executor : Executor) (worker : Nat) (stage : Stage) : Executor :=
  { executor with workers := executor.workers.set worker stage }

/-- Takes a request: it joins the pending batch or begins one, and a worker is started if none is
running. -/
def submit (executor : Executor) (request : DeployRequest) : Executor :=
  let ticket := executor.tickets
  { executor with
    running := true
    pending := match executor.pending with
      | some batch => some (batch.join ticket request)
      | none => some (.single ticket request)
    workers := if executor.running then executor.workers else executor.workers ++ [.resting]
    tickets := ticket + 1
    history := executor.history ++ [.submitted ticket request] }

/-- The caller of a request stops waiting; the batch goes on. -/
def abandon (executor : Executor) (ticket : Nat) : Executor :=
  { executor with abandoned := executor.abandoned ++ [ticket] }

/-- Answers every request of a batch. -/
def answer (executor : Executor) (batch : Batch) (result : DeployResult) : Executor :=
  executor.note (batch.waiters.map fun ticket => .answered ticket result)

/-- A worker looks for a batch: it takes the pending one, or stops. -/
def look (executor : Executor) (worker : Nat) : Executor :=
  match executor.pending with
  | some batch => { executor with pending := none }.moveTo worker (.validating batch)
  | none => { executor with running := false, workers := executor.workers.eraseIdx worker }

/-- A worker is done with a batch. -/
def conclude (executor : Executor) (worker : Nat) (batch : Batch) (result : DeployResult) :
    Executor :=
  (executor.answer batch result).moveTo worker .resting

/-- A worker validates its batch, then asks for the secrets. -/
def validate (executor : Executor) (worker : Nat) (batch : Batch) : Executor :=
  let executor := executor.note [.validated batch.ticket]
  match batch.latest.validation with
  | .error panic => executor.conclude worker batch (.error (.panicked panic.message))
  | .ok validateSources =>
    (executor.note [.listed batch.latest.backend]).moveTo worker (.listing batch validateSources)

/-- The options that a batch is deployed with. -/
def options (batch : Batch) (validateSources : Bool) (secrets : List ListedSecret) :
    DeployOptions where
  profile := batch.latest.profile
  secretLastUpdated := latestSecretUpdate secrets
  validateSources := validateSources

/-- The secrets of a worker's batch are listed; the deploy starts unless that failed. -/
def list (executor : Executor) (worker : Nat) (batch : Batch) (validateSources : Bool) :
    SecretsOutcome → Executor
  | .panicked panic => executor.conclude worker batch (.error (.panicked panic.message))
  | .failed message => executor.conclude worker batch (.error (.secrets message))
  | .returned secrets =>
    (executor.note [.started batch (options batch validateSources secrets)]).moveTo worker
      (.deploying batch)

/-- What the callers of a deploy are told. -/
def resultOf : DeployOutcome → DeployResult
  | .returned () => .ok ()
  | .failed cause => .error (.deployment cause)
  | .panicked panic => .error (.panicked panic.message)

/-- The deploy of a worker's batch is over. -/
def finish (executor : Executor) (worker : Nat) (batch : Batch) (outcome : DeployOutcome) :
    Executor :=
  (executor.note [.ended batch outcome]).conclude worker batch (resultOf outcome)

/-! ## Steps -/

/-- A step of the executor; workers are known by their place. -/
inductive Step
  | submit (request : DeployRequest)
  | abandon (ticket : Nat)
  | look (worker : Nat)
  | validate (worker : Nat)
  | list (worker : Nat) (secrets : SecretsOutcome)
  | finish (worker : Nat) (outcome : DeployOutcome)

/-- The state after a step, if the step can be taken. -/
def step? (executor : Executor) : Step → Option Executor
  | .submit request => some (executor.submit request)
  | .abandon ticket => some (executor.abandon ticket)
  | .look worker =>
    match executor.workers[worker]? with
    | some .resting => some (executor.look worker)
    | _ => none
  | .validate worker =>
    match executor.workers[worker]? with
    | some (.validating batch) => some (executor.validate worker batch)
    | _ => none
  | .list worker secrets =>
    match executor.workers[worker]? with
    | some (.listing batch validateSources) =>
      some (executor.list worker batch validateSources secrets)
    | _ => none
  | .finish worker outcome =>
    match executor.workers[worker]? with
    | some (.deploying batch) => some (executor.finish worker batch outcome)
    | _ => none

/-- The state after several steps, if all of them can be taken. -/
def run? (executor : Executor) (steps : List Step) : Option Executor := steps.foldlM step? executor

/-- All workers are stopped for good. The requests they were working on are told so; requests of the
pending batch are never answered. -/
def shutDown (executor : Executor) : Executor :=
  let stopped := (executor.workers.filterMap Stage.batch?).foldl
    (fun executor batch => executor.answer batch (.error .stopped)) executor
  { stopped with workers := [] }

/-! ## Views -/

/-- The answers so far, in order. -/
def answers (executor : Executor) : List (Nat × DeployResult) :=
  executor.history.filterMap fun
    | .answered ticket result => some (ticket, result)
    | _ => none

/-- The result of a request whose caller is there to receive it. -/
def received? (executor : Executor) (ticket : Nat) : Option DeployResult :=
  if ticket ∈ executor.abandoned then none
  else (executor.answers.find? (·.1 = ticket)).map (·.2)

/-- The request has not been answered and its caller is still there. -/
def isWaiting (executor : Executor) (ticket : Nat) : Bool :=
  ticket ∉ executor.abandoned && executor.answers.all (·.1 ≠ ticket)

/-- The requests that wait for their answer, in order. -/
def waiting (executor : Executor) : List Nat :=
  (List.range executor.tickets).filter executor.isWaiting

end Executor

end CloudSynth
