import CloudSynth.Data.Construct
import CloudSynth.Document.Access

/-!
# Documents about data

The settings of a data resource, and the properties of a data construct. Functions and grantees are
read by a reader of references that is passed on.
-/

namespace CloudSynth

/-- An authorizer. -/
def Authorizer.ofDocument {ρ : Type} (reference : Json → ρ) (value : Json) :
    Reading (Authorizer ρ) := do
  let secondsToLive ← .ofOption ((value.entry "timeToLiveInSeconds").asNatural? Json.bound32)
  return ⟨reference (value.entry "function"), secondsToLive⟩

/-- How requests to the API are authorized. -/
def AuthorizationSettings.ofDocument {ρ : Type} (reference : Json → ρ) (value : Json) :
    Reading (AuthorizationSettings ρ) := do
  let defaultMode ← value.choice? "default" AuthorizationMode.ofName?
  let apiKey ← value.decoded? "apiKey" ApiKeySettings.ofJson?
  let oidc ← value.decoded? "oidc" OidcSettings.ofJson?
  let authorizer ← value.readOptional "lambda" (Authorizer.ofDocument reference)
  return { defaultMode, apiKey, oidc, authorizer }

/-- Table mappings. -/
def TableMapping.listOfJson? (value : Json) : Option (List TableMapping) := do
  (← value.asList?).mapM TableMapping.ofJson?

/-- The settings of a data resource. -/
def DataSettings.ofDocument {ρ : Type} (reference : Json → ρ) (value : Json) :
    Reading (DataSettings ρ) := do
  let authorization ← value.readOptional "authorizationModes"
    (AuthorizationSettings.ofDocument reference)
  let logging ← value.decoded? "logging" DataLogging.ofJson?
  let tableMappings ← value.decoded? "tableMappings" TableMapping.listOfJson?
  let access ← Grant.listOfDocument? reference (·.mapM DataAction.ofDocument) value
  return {
    name := value.text? "name"
    schema := value.textOf "schema"
    authorization
    functions := .ofList ((value.itemsOf "functions").map fun pair =>
      (pair.key, reference (pair.item 1)))
    logging
    tableMappings := tableMappings.getD []
    access }

/-- The properties of a data construct, whose functions are known by their names. -/
def DataProperties.ofDocument (value : Json) : Reading (DataProperties String) := do
  let defaultMode ← (value.entry "defaultMode").choice AuthorizationMode.ofName?
  let additionalModes ← (value.itemsOf "additionalModes").mapM fun mode =>
    mode.choice AuthorizationMode.ofName?
  let apiKeyDays ← value.decoded? "apiKeyDays" (Json.asNatural? Json.bound32)
  let oidc ← value.decoded? "oidc" OidcSettings.ofJson?
  let logging ← value.decoded? "logging" DataLogging.ofJson?
  return {
    schema := value.textOf "schema"
    modes := ⟨defaultMode, additionalModes⟩
    apiKeyDays
    userPoolId := none
    oidc
    authorizer := (value.text? "authorizer").map fun name => ⟨name, 0⟩
    functions := .ofList ((value.textsOf "functions").map fun name => (name, name))
    logging := logging.map (·.resolve)
    importedTables := .ofList (value.textPairsOf "importedTables")
    allowDestructiveUpdates := true
    replaceTables := true
    suffix := value.textOf "suffix" }

end CloudSynth
