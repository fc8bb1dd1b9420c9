import CloudSynth.Collection.OrderedMap
import CloudSynth.Double.Basic
import CloudSynth.Logging
import CloudSynth.Secret

/-!
# Function settings

What users say about a function. Sizes are floating-point numbers, so that a fractional one can be
reported as it was written.
-/

namespace CloudSynth

/-- The value of an environment variable. -/
inductive EnvironmentValue
  | plain (value : String)
  | secret (secret : Secret)
  deriving DecidableEq, Repr, Inhabited

/-- The instruction set a function runs on. -/
inductive Architecture
  | arm64
  | x86_64
  deriving DecidableEq, Repr

namespace Architecture

/-- The name in settings. -/
def name : Architecture → String
  | arm64 => "arm64"
  | x86_64 => "x86_64"

/-- The architecture with the given name. -/
def ofName? (name : String) : Option Architecture := [arm64, x86_64].find? (·.name = name)

/-- The architecture where nothing is said. -/
def default : Architecture := x86_64

end Architecture

/-- Log settings of a function. -/
structure FunctionLogging where
  format : Option LogFormat
  level : Option LogLevel
  retention : Option LogRetention
  deriving DecidableEq, Repr

namespace FunctionLogging

/-- No log settings. -/
def unset : FunctionLogging := ⟨none, none, none⟩

/-- Reads the structured form. -/
def ofJson? (value : Json) : Option FunctionLogging := do
  let value ← value.asRecord? ["format", "level", "retention"]
  let format ← value.optionalField "format" fun format => format.asVariant?.bind LogFormat.ofName?
  let level ← value.optionalField "level" fun level => level.asVariant?.bind LogLevel.ofName?
  let retention ← value.optionalField "retention" LogRetention.ofJson?
  return { format, level, retention }

/-- The structured form, with nulls for what is not set. -/
def toJson (logging : FunctionLogging) : Json :=
  .record [("format", .optional (fun format => .text format.name) logging.format),
    ("level", .optional (fun level => .text level.name) logging.level),
    ("retention", .optional (fun retention => .text retention.print) logging.retention)]

end FunctionLogging

/-- What users say about a function. -/
structure FunctionSettings where
  name : Option String
  entry : Option String
  timeoutSeconds : Option Double
  memoryMB : Option Double
  ephemeralStorageSizeMB : Option Double
  environment : OrderedMap String EnvironmentValue
  runtime : Option Nat
  architecture : Option String
  schedule : List String
  logging : FunctionLogging

/-- The settings of a function of which nothing is said. -/
def FunctionSettings.default : FunctionSettings :=
  ⟨none, none, none, none, none, {}, none, none, [], .unset⟩

end CloudSynth
