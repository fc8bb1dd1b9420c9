import CloudSynth.Function.Resolution
import CloudSynth.Report.Basic

/-!
# Reports on functions

The settings of a function with nothing left open.
-/

namespace CloudSynth

/-- The value of an environment variable, by its kind. -/
def EnvironmentValue.report : EnvironmentValue → Json
  | .plain value => .record [("plain", .text value)]
  | .secret reference => .record [("secret", .text reference.name)]

/-- Log settings. -/
def FunctionLogging.report (logging : FunctionLogging) : Json :=
  .record [("format", .optionalText (logging.format.map (·.upperName))),
    ("level", .optionalText (logging.level.map (·.upperName))),
    ("retentionDays", .optionalNatural (logging.retention.bind (·.days))),
    ("json", logging.toJson)]

/-- A resolved function. -/
def ResolvedFunction.report (function : ResolvedFunction) : Json :=
  .record [("name", .text function.name), ("entry", .text function.entry),
    ("timeoutSeconds", .natural function.timeoutSeconds), ("memoryMB", .natural function.memoryMB),
    ("ephemeralStorageSizeMB", .natural function.ephemeralStorageSizeMB),
    ("runtime", .natural function.runtime), ("architecture", .text function.architecture.name),
    ("schedule", .texts function.schedules),
    ("environment", .list (function.environment.entries.map fun entry =>
      .list [.text entry.1, entry.2.report])),
    ("logging", function.logging.report)]

end CloudSynth
