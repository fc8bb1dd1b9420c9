import CloudSynth.Data.Action
import CloudSynth.Logging

/-!
# Data settings

What users say about the data resource: its schema, how its API is authorized, the functions its
schema refers to, logs, tables to adopt, and grants to other resources. Functions and grantees are
references of some type `ρ`.
-/

namespace CloudSynth

/-- The ways in which requests to an API are authorized. -/
inductive AuthorizationMode
  | apiKey
  | userPool
  | iam
  | oidc
  | lambda
  deriving DecidableEq, Repr

namespace AuthorizationMode

/-- Every mode in order. -/
def every : List AuthorizationMode := [apiKey, userPool, iam, oidc, lambda]

/-- The place of the mode in the order. -/
def rank (mode : AuthorizationMode) : Nat := every.idxOf mode

/-- The name in settings. -/
def name : AuthorizationMode → String
  | apiKey => "apiKey"
  | userPool => "userPool"
  | iam => "iam"
  | oidc => "oidc"
  | lambda => "lambda"

/-- The mode with the given name. -/
def ofName? (name : String) : Option AuthorizationMode := every.find? (·.name = name)

/-- The name in outputs. -/
def outputName : AuthorizationMode → String
  | apiKey => "API_KEY"
  | userPool => "AMAZON_COGNITO_USER_POOLS"
  | iam => "AWS_IAM"
  | oidc => "OPENID_CONNECT"
  | lambda => "AWS_LAMBDA"

end AuthorizationMode

/-- Authorization by a key. -/
structure ApiKeySettings where
  expiresInDays : Nat
  description : Option String
  deriving DecidableEq, Repr

namespace ApiKeySettings

/-- A key of which nothing is said. -/
def default : ApiKeySettings := ⟨7, none⟩

/-- Reads the structured form. -/
def ofJson? (value : Json) : Option ApiKeySettings := do
  let value ← value.asPartialRecord? ["expiresInDays", "description"]
  let expiresInDays ← value.defaultField "expiresInDays" default.expiresInDays
    (Json.asNatural? Json.bound32)
  let description ← value.optionalField "description" Json.asText?
  return { expiresInDays, description }

/-- The structured form. -/
def toJson (settings : ApiKeySettings) : Json :=
  .record [("expiresInDays", .integer settings.expiresInDays),
    ("description", .optional .text settings.description)]

end ApiKeySettings

/-- Authorization by an OpenID Connect provider. -/
structure OidcSettings where
  providerName : String
  issuerUrl : String
  clientId : Option String
  secondsFromIssue : Nat
  secondsFromAuthentication : Nat
  deriving DecidableEq, Repr

namespace OidcSettings

/-- Reads the structured form. -/
def ofJson? (value : Json) : Option OidcSettings := do
  let value ← value.asRecord? ["oidcProviderName", "oidcIssuerUrl", "clientId",
    "tokenExpireFromIssueInSeconds", "tokenExpiryFromAuthInSeconds"]
  let providerName ← value.required "oidcProviderName" Json.asText?
  let issuerUrl ← value.required "oidcIssuerUrl" Json.asText?
  let clientId ← value.optionalField "clientId" Json.asText?
  let secondsFromIssue ← value.required "tokenExpireFromIssueInSeconds"
    (Json.asNatural? Json.bound32)
  let secondsFromAuthentication ← value.required "tokenExpiryFromAuthInSeconds"
    (Json.asNatural? Json.bound32)
  return { providerName, issuerUrl, clientId, secondsFromIssue, secondsFromAuthentication }

/-- The structured form. -/
def toJson (settings : OidcSettings) : Json :=
  .record [("oidcProviderName", .text settings.providerName),
    ("oidcIssuerUrl", .text settings.issuerUrl),
    ("clientId", .optional .text settings.clientId),
    ("tokenExpireFromIssueInSeconds", .integer settings.secondsFromIssue),
    ("tokenExpiryFromAuthInSeconds", .integer settings.secondsFromAuthentication)]

end OidcSettings

/-- Authorization by a function whose answers are kept for some time. -/
structure Authorizer (ρ : Type) where
  function : ρ
  secondsToLive : Nat

/-- How requests to the API are authorized. -/
structure AuthorizationSettings (ρ : Type) where
  defaultMode : Option AuthorizationMode
  apiKey : Option ApiKeySettings
  oidc : Option OidcSettings
  authorizer : Option (Authorizer ρ)

namespace AuthorizationSettings

variable {ρ : Type}

/-- Nothing is said. -/
def unset : AuthorizationSettings ρ := ⟨none, none, none, none⟩

/-- The modes that settings are given for. -/
def configured (settings : AuthorizationSettings ρ) : List AuthorizationMode :=
  (if settings.apiKey.isSome then [.apiKey] else []) ++
  (if settings.oidc.isSome then [.oidc] else []) ++
  (if settings.authorizer.isSome then [.lambda] else [])

end AuthorizationSettings

/-- Levels of field logs. -/
inductive FieldLogLevel
  | none
  | error
  | info
  | debug
  | all
  deriving DecidableEq, Repr

namespace FieldLogLevel

/-- The name in settings. -/
def name : FieldLogLevel → String
  | none => "none"
  | error => "error"
  | info => "info"
  | debug => "debug"
  | all => "all"

/-- The upper-case name. -/
def upperName : FieldLogLevel → String
  | none => "NONE"
  | error => "ERROR"
  | info => "INFO"
  | debug => "DEBUG"
  | all => "ALL"

/-- The level with the given name. -/
def ofName? (name : String) : Option FieldLogLevel :=
  [none, error, info, debug, all].find? (·.name = name)

/-- The level where nothing is said. -/
def default : FieldLogLevel := none

end FieldLogLevel

/-- Log settings of an API. -/
structure DataLogging where
  excludeVerboseContent : Option Bool
  fieldLogLevel : Option FieldLogLevel
  retention : Option LogRetention
  deriving DecidableEq, Repr

/-- Log settings of an API with nothing left open. -/
structure ResolvedDataLogging where
  excludeVerboseContent : Bool
  fieldLogLevel : FieldLogLevel
  retention : LogRetention
  deriving DecidableEq, Repr

namespace DataLogging

/-- Reads the structured form. -/
def ofJson? (value : Json) : Option DataLogging := do
  let value ← value.asPartialRecord? ["excludeVerboseContent", "fieldLogLevel", "retention"]
  let excludeVerboseContent ← value.optionalField "excludeVerboseContent" Json.asBoolean?
  let fieldLogLevel ← value.optionalField "fieldLogLevel" fun level =>
    level.asVariant?.bind FieldLogLevel.ofName?
  let retention ← value.optionalField "retention" LogRetention.ofJson?
  return { excludeVerboseContent, fieldLogLevel, retention }

/-- The structured form, with nulls for what is not set. -/
def toJson (logging : DataLogging) : Json :=
  .record [("excludeVerboseContent", .optional .boolean logging.excludeVerboseContent),
    ("fieldLogLevel", .optional (fun level => .text level.name) logging.fieldLogLevel),
    ("retention", .optional (fun retention => .text retention.print) logging.retention)]

/-- The settings with bodies excluded, no field logs and a week's retention where nothing is
said. -/
def resolve (logging : DataLogging) : ResolvedDataLogging where
  excludeVerboseContent := logging.excludeVerboseContent.getD true
  fieldLogLevel := logging.fieldLogLevel.getD .none
  retention := logging.retention.getD .oneWeek

end DataLogging

/-- The tables of a former deployment of a branch, by model. -/
structure TableMapping where
  branchName : String
  tables : Option (SortedMap String)
  deriving DecidableEq

namespace TableMapping

/-- Reads an object of texts. -/
def tablesOfJson? (value : Json) : Option (SortedMap String) := do
  let pairs ← (← value.asObject?).mapM fun pair => (pair.2.asText?).map fun text => (pair.1, text)
  return SortedMap.ofList pairs

/-- Reads the structured form. -/
def ofJson? (value : Json) : Option TableMapping := do
  let value ← value.asRecord? ["branchName", "modelNameToTableNameMapping"]
  let branchName ← value.required "branchName" Json.asText?
  let tables ← value.optionalField "modelNameToTableNameMapping" tablesOfJson?
  return { branchName, tables }

end TableMapping

/-- What users say about the data resource. -/
structure DataSettings (ρ : Type) where
  name : Option String
  schema : String
  authorization : Option (AuthorizationSettings ρ)
  functions : SortedMap ρ
  logging : Option DataLogging
  tableMappings : List TableMapping
  access : Option (List (Grant ρ DataAction))

/-- The name of the data resource where none is given. -/
def defaultDataName : String := "amplifyData"

/-- The name of the data resource. -/
def DataSettings.resolvedName {ρ : Type} (settings : DataSettings ρ) : String :=
  settings.name.getD defaultDataName

end CloudSynth
