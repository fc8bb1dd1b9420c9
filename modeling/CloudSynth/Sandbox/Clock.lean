import CloudSynth.Sandbox.Executor
import CloudSynth.Sandbox.Settings

/-!
# A sandbox on a clock

The executor together with the time, the quiet period before its worker looks for a batch, what
listing secrets answers, and the backends that were destroyed. Between two actions from outside, the
worker takes every step that it can take before time passes: it is held up only by its quiet period
and by a deploy that is not over.
-/

namespace CloudSynth

/-- A sandbox. -/
structure Sandbox where
  executor : Executor
  settings : SandboxSettings
  /-- The time in milliseconds. -/
  clock : Nat
  /-- When the resting worker looks for a batch, once it has begun to rest. -/
  wakeAt : Option Nat
  secrets : SecretsOutcome
  destroyed : List BackendIdentifier

namespace Sandbox

/-- A sandbox without secrets that has done nothing. -/
def new (settings : SandboxSettings) : Sandbox where
  executor := .new
  settings := settings
  clock := 0
  wakeAt := none
  secrets := .returned []
  destroyed := []

/-- Takes a request. -/
def submit (sandbox : Sandbox) (request : DeployRequest) : Sandbox :=
  { sandbox with executor := sandbox.executor.submit request }

/-- The caller of a request stops waiting. -/
def abandon (sandbox : Sandbox) (ticket : Nat) : Sandbox :=
  { sandbox with executor := sandbox.executor.abandon ticket }

/-- Time passes. -/
def advance (sandbox : Sandbox) (milliseconds : Nat) : Sandbox :=
  { sandbox with clock := sandbox.clock + milliseconds }

/-- The deploy that is in flight ends; nothing happens when there is none. -/
def release? (sandbox : Sandbox) (outcome : DeployOutcome) : Option Sandbox :=
  (sandbox.executor.step? (.finish 0 outcome)).map fun executor => { sandbox with executor }

/-- Destroys a backend, without regard to deploys. -/
def destroy (sandbox : Sandbox) (backend : BackendIdentifier) (outcome : DeployOutcome) :
    DeployResult × Sandbox :=
  (Executor.resultOf outcome, { sandbox with destroyed := sandbox.destroyed ++ [backend] })

/-- Stops the executor. -/
def shutDown (sandbox : Sandbox) : Sandbox :=
  { sandbox with executor := sandbox.executor.shutDown }

/-! ## The worker -/

/-- When the resting worker looks for a batch; its quiet period begins now if it has not begun. -/
def restEnd (sandbox : Sandbox) : Nat :=
  sandbox.wakeAt.getD (sandbox.clock + sandbox.settings.debounce)

/-- The step that the worker can take now. -/
def readyStep? (sandbox : Sandbox) : Option Executor.Step :=
  match sandbox.executor.workers.head? with
  | none => none
  | some .resting => if sandbox.restEnd ≤ sandbox.clock then some (.look 0) else none
  | some (.validating _) => some (.validate 0)
  | some (.listing _ _) => some (.list 0 sandbox.secrets)
  | some (.deploying _) => none

/-- The sandbox where the worker, if it rests, has begun to rest. -/
def rest (sandbox : Sandbox) : Sandbox :=
  match sandbox.executor.workers.head? with
  | some .resting => { sandbox with wakeAt := some sandbox.restEnd }
  | _ => { sandbox with wakeAt := none }

/-- The sandbox after the step that the worker can take now. -/
def advanceWorker? (sandbox : Sandbox) : Option Sandbox := do
  let step ← sandbox.readyStep?
  let executor ← sandbox.executor.step? step
  return { sandbox with executor, wakeAt := none }

/-- How many steps a worker may take from where it stands until it rests, and one to stop. -/
def stepsLeft : Stage → Nat
  | .resting => 1
  | .deploying _ => 2
  | .listing _ _ => 3
  | .validating _ => 4

/-- How many steps may be taken before time passes: those of the workers, and those that the pending
batch adds. -/
def settleBound (sandbox : Sandbox) : Nat :=
  sandbox.executor.workers.foldl (fun count stage => count + stepsLeft stage) 0 +
    (if sandbox.executor.pending.isSome then 4 else 0)

/-- Takes at most `bound` steps of the worker. -/
def settleWithin : Nat → Sandbox → Sandbox
  | 0, sandbox => sandbox.rest
  | bound + 1, sandbox =>
    match sandbox.advanceWorker? with
    | some sandbox => settleWithin bound sandbox
    | none => sandbox.rest

/-- The worker takes every step that it can take before time passes. -/
def settle (sandbox : Sandbox) : Sandbox := settleWithin sandbox.settleBound sandbox

end Sandbox

end CloudSynth
