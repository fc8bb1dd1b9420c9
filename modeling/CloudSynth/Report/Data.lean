import CloudSynth.Data.Construct
import CloudSynth.Report.Basic

/-!
# Reports on data

Built data constructs, and the properties that they are built from. Functions are shown as the
deployed functions that they stand for.
-/

namespace CloudSynth

variable {φ : Type} (lambdaOf : φ → Lambda)

/-- The log settings of an API. -/
def ResolvedDataLogging.report (logging : ResolvedDataLogging) : Json :=
  .record [("excludeVerboseContent", .boolean logging.excludeVerboseContent),
    ("fieldLogLevel", .text logging.fieldLogLevel.upperName),
    ("retention", .text logging.retention.print),
    ("retentionDays", .optionalNatural logging.retention.days)]

/-- The table of a model. -/
def ModelTable.report (model : String) (table : ModelTable) : Json :=
  .record [("model", .text model), ("table", .text table.name),
    ("imported", .boolean table.imported)]

/-- The resources of a data construct. -/
def DataResources.report (resources : DataResources φ) : Json :=
  .record [("apiId", .text resources.apiId), ("apiArn", .text resources.apiArn),
    ("url", .text resources.url), ("apiKey", .optionalText resources.apiKey),
    ("bucketName", .text resources.bucketName), ("bucketArn", .text resources.bucketArn),
    ("tables", .list (resources.tables.entries.map fun entry => entry.2.report entry.1)),
    ("dataSources", .list (resources.dataSources.entries.map fun entry =>
      .list [.text entry.1, (lambdaOf entry.2).report])),
    ("logging", .optional ResolvedDataLogging.report resources.logging)]

/-- A data construct. -/
def DataConstruct.report (construct : DataConstruct φ) : Json :=
  .record ([("id", .text construct.id), ("output", construct.output.report),
    ("resources", construct.resources.report lambdaOf)] ++ Tags.fields construct.tags)

/-! ## Properties -/

/-- An authorizer: its function and how long its answers are kept. -/
def Authorizer.report (authorizer : Authorizer φ) : Json :=
  .list [.text (lambdaOf authorizer.function).name, .natural authorizer.secondsToLive]

/-- The modes that are enabled, in their order. -/
def SettledModes.enabled (modes : SettledModes) : List AuthorizationMode :=
  AuthorizationMode.every.filter modes.enables

/-- The properties of a data construct, and the roles that may call its API. -/
def DataProperties.report (properties : DataProperties φ) (roles : List Role) : Json :=
  let modes := properties.modes
  .record [("schema", .text properties.schema), ("defaultMode", .text modes.defaultMode.name),
    ("additionalModes", .texts (modes.additionalModes.map (·.name))),
    ("enabled", .texts (modes.enabled.map (·.name))),
    ("apiKeyDays", .optionalNatural properties.apiKeyDays),
    ("userPoolId", .optionalText properties.userPoolId),
    ("roles", .texts (roles.map (·.name))),
    ("oidc", .optional OidcSettings.toJson properties.oidc),
    ("authorizer", .optional (Authorizer.report lambdaOf) properties.authorizer),
    ("functions", .list (properties.functions.entries.map fun entry =>
      .texts [entry.1, (lambdaOf entry.2).name])),
    ("logging", .optional ResolvedDataLogging.report properties.logging),
    ("importedTables", .textMap properties.importedTables),
    ("allowDestructive", .boolean properties.allowDestructiveUpdates),
    ("replaceTable", .boolean properties.replaceTables), ("suffix", .text properties.suffix)]

end CloudSynth
