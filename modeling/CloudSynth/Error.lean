import CloudSynth.Text.Case

/-!
# Failures

A failure while describing or synthesising a backend has a stable code, a message, and for most
kinds a hint at what to do about it. Failures of the infrastructure constructs have a type of their
own; they reach the user wrapped into a failure that names the kind of resource.
-/

namespace CloudSynth

/-- Why an infrastructure construct was refused. -/
inductive ConstructError
  | invalidProps (message : String)
  | duplicateTrigger (event userPool : String)
  | duplicateLogicalId (logicalId stack : String)
  deriving DecidableEq, Repr, Inhabited

namespace ConstructError

/-- What the user reads. -/
def message : ConstructError → String
  | .invalidProps message => message
  | .duplicateTrigger event userPool =>
    "a `" ++ event ++ "` trigger is already attached to user pool `" ++ userPool ++ "`"
  | .duplicateLogicalId logicalId stack =>
    "There is already a resource with logical id `" ++ logicalId ++ "` in stack `" ++ stack ++ "`"

end ConstructError

/-- Kinds of resources that are built by a construct. -/
inductive ConstructKind
  | auth
  | data
  | function
  deriving DecidableEq, Repr

namespace ConstructKind

/-- The code of a failed construct. -/
def failureCode : ConstructKind → String
  | .auth => "AmplifyAuthConstructInitializationError"
  | .data => "AmplifyDataConstructInitializationError"
  | .function => "AmplifyFunctionConstructInitializationError"

/-- The name that users see. -/
def name : ConstructKind → String
  | .auth => "auth"
  | .data => "data"
  | .function => "function"

/-- The kind with the given capitalised name. -/
def ofTitle? (title : String) : Option ConstructKind :=
  if title = "Auth" then some .auth
  else if title = "Data" then some .data
  else if title = "Function" then some .function
  else none

end ConstructKind

/-- Why a backend cannot be described or synthesised. -/
inductive BackendError
  /-- A kind that may be defined once was defined again. -/
  | multipleSingletons (message resolution : String)
  /-- The user's settings failed a check. -/
  | configuration (code message resolution : String)
  /-- A construct was refused. -/
  | constructInitialization (code message resolution : String) (source : ConstructError)
  /-- Access was requested for a role that does not exist. -/
  | invalidResourceAccess (message resolution : String)
  /-- A resource was defined outside the file it belongs in. -/
  | importPathMismatch (message found : String)
  /-- A resource has a name that is not allowed. -/
  | invalidResourceName (name reason : String)
  /-- A resource needs itself; the path ends with the group it began with. -/
  | cyclicDependency (path : List String)
  /-- The container holds another kind of entry under the requested identity. -/
  | entryTypeMismatch (group : String)
  /-- The configuration document is malformed. -/
  | invalidConfig
  deriving DecidableEq, Repr, Inhabited

namespace BackendError

/-- A failed construct, for a kind given by its capitalised and its lower-case name. -/
def ofConstructNamed (code lowerName : String) (source : ConstructError) : BackendError :=
  .constructInitialization code ("Failed to instantiate " ++ lowerName ++ " construct")
    "See the underlying error message for more details." source

/-- A failed construct of a known kind. -/
def ofConstruct (kind : ConstructKind) (source : ConstructError) : BackendError :=
  ofConstructNamed kind.failureCode kind.name source

/-- A failed construct, for a kind given by its capitalised name; kinds without a code of their own
share one. -/
def ofConstructTitled (title : String) (source : ConstructError) : BackendError :=
  match ConstructKind.ofTitle? title with
  | some kind => ofConstruct kind source
  | none =>
    ofConstructNamed "ConstructInitializationError" (String.ofList (Text.lower title.toList)) source

/-- The stable name of the failure. -/
def code : BackendError → String
  | .multipleSingletons _ _ => "MultipleSingletonResourcesError"
  | .configuration code _ _ => code
  | .constructInitialization code _ _ _ => code
  | .invalidResourceAccess _ _ => "InvalidResourceAccessConfigError"
  | .importPathMismatch _ _ => "ImportPathVerificationError"
  | .invalidResourceName _ _ => "InvalidResourceNameError"
  | .cyclicDependency _ => "CyclicConstructResolutionError"
  | .entryTypeMismatch _ => "ConstructContainerEntryTypeError"
  | .invalidConfig => "InvalidSynthesisConfigError"

/-- What the user reads; the message of a malformed document is the business of its reader. -/
def message : BackendError → Option String
  | .multipleSingletons message _ => some message
  | .configuration _ message _ => some message
  | .constructInitialization _ message _ _ => some message
  | .invalidResourceAccess message _ => some message
  | .importPathMismatch message _ => some message
  | .invalidResourceName name reason =>
    some ("resource name `" ++ name ++ "` is invalid: " ++ reason)
  | .cyclicDependency path => some ("cyclic construct resolution: " ++ " -> ".intercalate path)
  | .entryTypeMismatch group =>
    some ("container entry for resource group `" ++ group ++ "` holds an unexpected type")
  | .invalidConfig => none

/-- What to do about the failure. -/
def resolution : BackendError → Option String
  | .multipleSingletons _ resolution => some resolution
  | .configuration _ _ resolution => some resolution
  | .constructInitialization _ _ resolution _ => some resolution
  | .invalidResourceAccess _ resolution => some resolution
  | .importPathMismatch _ _ =>
    some "Move the definition into the expected file and re-export it from there."
  | .invalidResourceName _ _ =>
    some "Use only alphanumeric characters, underscores and hyphens in resource names."
  | .cyclicDependency _ =>
    some "Remove the access grant or trigger that makes a resource depend on itself."
  | .entryTypeMismatch _ => none
  | .invalidConfig => none

/-- The failure is caused by the user's input. -/
def isUserError : BackendError → Bool
  | .entryTypeMismatch _ => false
  | _ => true

end BackendError

/-! ## Sequences that may fail -/

section Sequences

variable {ε α β : Type} {first : Except ε α} {next : α → Except ε β}

theorem bind_eq_ok {result : β} :
    first >>= next = .ok result ↔ ∃ value, first = .ok value ∧ next value = .ok result := by
  cases first <;> simp [bind, Except.bind]

theorem bind_eq_error {failure : ε} :
    first >>= next = .error failure ↔
      first = .error failure ∨ ∃ value, first = .ok value ∧ next value = .error failure := by
  cases first <;> simp [bind, Except.bind]

end Sequences

end CloudSynth
