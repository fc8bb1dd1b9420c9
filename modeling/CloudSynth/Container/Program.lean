import CloudSynth.Error

/-!
# Programs of generators

What a generator does to build its entry, as a value: it reads and writes the state of the backend,
asks for the entries of other generators, sees whether they were built or why they failed, and
finishes with a result or a failure. A program says nothing about how requests are answered.
-/

namespace CloudSynth

/-- A program over states `σ` that asks for generators `γ`, is answered with entries `ν`, and
finishes with a result `α`. -/
inductive Program (σ γ ν α : Type) : Type
  /-- Finishes with a result or a failure. -/
  | finish (outcome : Except BackendError α)
  /-- Goes on with the current state. -/
  | read (next : σ → Program σ γ ν α)
  /-- Replaces the state. -/
  | write (state : σ) (next : Program σ γ ν α)
  /-- Asks for the entry of a generator and goes on with the answer. -/
  | request (generator : γ) (next : Except BackendError ν → Program σ γ ν α)

namespace Program

variable {σ γ ν α β : Type}

/-- Continues with the result; a failure ends the program. -/
def bind (program : Program σ γ ν α) (next : α → Program σ γ ν β) : Program σ γ ν β :=
  match program with
  | .finish (.ok result) => next result
  | .finish (.error failure) => .finish (.error failure)
  | .read continuation => .read fun state => (continuation state).bind next
  | .write state continuation => .write state (continuation.bind next)
  | .request generator continuation =>
    .request generator fun answer => (continuation answer).bind next

/-- Continues with the result or the failure. -/
def attempt (program : Program σ γ ν α) : Program σ γ ν (Except BackendError α) :=
  match program with
  | .finish outcome => .finish (.ok outcome)
  | .read continuation => .read fun state => (continuation state).attempt
  | .write state continuation => .write state continuation.attempt
  | .request generator continuation =>
    .request generator fun answer => (continuation answer).attempt

instance : Monad (Program σ γ ν) where
  pure result := .finish (.ok result)
  bind := bind

instance : MonadExceptOf BackendError (Program σ γ ν) where
  throw failure := .finish (.error failure)
  tryCatch program handle := program.attempt.bind fun
    | .ok result => .finish (.ok result)
    | .error failure => handle failure

instance : MonadStateOf σ (Program σ γ ν) where
  get := .read fun state => .finish (.ok state)
  set state := .write state (.finish (.ok ()))
  modifyGet change := .read fun state =>
    let (result, state) := change state
    .write state (.finish (.ok result))

/-- The entry of a generator; its failure is the program's. -/
def entryOf (generator : γ) : Program σ γ ν ν := .request generator .finish

/-- A result that may have failed. -/
def ofExcept (outcome : Except BackendError α) : Program σ γ ν α := .finish outcome

/-- A change of the state that may fail; the state is changed either way. -/
def act (change : σ → Except BackendError α × σ) : Program σ γ ν α :=
  .read fun state => .write (change state).2 (.finish (change state).1)

/-! ## Laws -/

theorem bind_finish (program : Program σ γ ν α) :
    program.bind (fun result => .finish (.ok result)) = program := by
  induction program with
  | finish outcome => cases outcome <;> rfl
  | read continuation ih => simp only [bind, ih]
  | write state continuation ih => simp only [bind, ih]
  | request generator continuation ih => simp only [bind, ih]

theorem bind_assoc {δ : Type} (program : Program σ γ ν α) (next : α → Program σ γ ν β)
    (last : β → Program σ γ ν δ) :
    (program.bind next).bind last = program.bind fun result => (next result).bind last := by
  induction program with
  | finish outcome => cases outcome <;> rfl
  | read continuation ih => simp only [bind, ih]
  | write state continuation ih => simp only [bind, ih]
  | request generator continuation ih => simp only [bind, ih]

instance : LawfulMonad (Program σ γ ν) :=
  LawfulMonad.mk' (Program σ γ ν) bind_finish (fun _ _ => rfl) bind_assoc

end Program

end CloudSynth
