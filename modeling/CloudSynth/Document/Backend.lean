import CloudSynth.Backend.Blueprint
import CloudSynth.Container.Recipe
import CloudSynth.Document.Auth
import CloudSynth.Document.Data
import CloudSynth.Document.Function
import CloudSynth.Sandbox.Executor

/-!
# Documents about backends

Identities, references, recipes, and what happens in a sandbox.
-/

namespace CloudSynth

/-- The identity of a backend. -/
def BackendIdentifier.ofDocument (value : Json) : Reading BackendIdentifier := .ofOption (ofJson? value)

/-- A reference: a name, or a name with others that it requires. -/
def Reference.ofDocument : Json → Reference
  | .text name => ⟨name, []⟩
  | value => ⟨value.textOf "ref", value.textsOf "requires"⟩

/-- A recipe. -/
def Recipe.ofDocument (value : Json) : Recipe where
  name := value.textOf "name"
  group := value.textOf "group"
  needs := value.textsOf "deps"
  tolerant := value.flagOf "tolerate"
  failure := value.text? "fail"
  kind := if value.textOf "entry" = "number" then .number else .text
  identity := match value.entry "identity" with
    | .integer identity => some identity
    | _ => none

/-- The entry that a document stands for. -/
def RecipeEntry.ofDocument : Json → RecipeEntry
  | .text value => .text value
  | other => .number ((other.asNatural? Json.bound64).getD 0)

/-- The first moment of the calendar in milliseconds: its years begin with -262143. -/
def calendarStart : Int := -8334601228800000

/-- The last moment of the calendar in milliseconds: its years end with 262142. -/
def calendarEnd : Int := 8210266876799999

/-- A time in milliseconds, if it is one of the calendar. -/
def timeOfDocument? : Json → Option Int
  | .integer time => if calendarStart ≤ time ∧ time ≤ calendarEnd then some time else none
  | _ => none

/-- Secrets by name, with the times of their last changes where they are known. -/
def ListedSecret.listOfDocument (values : List Json) : List ListedSecret :=
  values.map fun pair => ⟨pair.key, timeOfDocument? (pair.item 1)⟩

/-- What listing secrets answers: a message that it fails with, or the secrets. -/
def secretsOfDocument : Json → SecretsOutcome
  | .text message => .failed message
  | value => .returned (ListedSecret.listOfDocument (value.asList?.getD []))

/-- What a panic carries: a text, of which one name stands for a fixed one, or something else. -/
def Panic.ofDocument : Json → Panic
  | .text "static" => .text "static text"
  | .text message => .text message
  | _ => .other

/-- The failure of a deployer by its name. -/
def DeploymentError.ofName? : String → Option DeploymentError
  | "DeploymentInProgress" => some .inProgress
  | "StackDoesNotExist" => some .stackMissing
  | "StackOutputsNotPopulated" => some .outputsMissing
  | "ExpiredCredentials" => some .credentialsExpired
  | "InsufficientPermissions" => some .permissionsInsufficient
  | _ => none

/-- What the deployer answers when it does not panic: the failure of a name, a failure with a message
of its own, or else a success. -/
def calmOutcomeOfDocument (value : Json) : DeployOutcome :=
  match value, value.asText?.bind DeploymentError.ofName? with
  | .object fields, _ => .failed (.failed ((Json.object fields).textOf "failed"))
  | _, some cause => .failed cause
  | _, none => .returned ()

/-- What the deployer answers. -/
def deployOutcomeOfDocument (value : Json) : DeployOutcome :=
  match value.field? "panic" with
  | some panic => .panicked (.ofDocument panic)
  | none => calmOutcomeOfDocument value

/-- A request for a deploy. -/
def DeployRequest.ofDocument (value : Json) : Reading DeployRequest := do
  let backend ← BackendIdentifier.ofDocument (value.entry "backend")
  let validation := match value.entry "validate" with
    | .boolean validate => .ok validate
    | .object fields => .error (.ofDocument ((Json.object fields).entry "panic"))
    | _ => .ok false
  return { backend, validation, profile := value.text? "profile" }

end CloudSynth
