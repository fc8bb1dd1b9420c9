import CloudSynth.DefinitionSite
import CloudSynth.Double.Printer
import CloudSynth.Function.Schedule
import CloudSynth.Function.Settings

/-!
# Resolved functions

The settings of a function with defaults in place of what was not said, checked one after another.
The checks come in the order timeout, memory, ephemeral storage, environment keys, runtime,
architecture, schedules; the first that fails is reported.
-/

namespace CloudSynth

/-- Settings that must be a whole number within limits. -/
inductive SizeSetting
  | timeout
  | memory
  | ephemeralStorage
  deriving DecidableEq, Repr

namespace SizeSetting

/-- The value where nothing is said. -/
def default : SizeSetting → Nat
  | timeout => 3
  | memory => 512
  | ephemeralStorage => 512

/-- The least value. -/
def least : SizeSetting → Nat
  | timeout => 1
  | memory => 128
  | ephemeralStorage => 512

/-- The greatest value. -/
def greatest : SizeSetting → Nat
  | timeout => 900
  | memory => 10240
  | ephemeralStorage => 10240

/-- The code of a failed check. -/
def failureCode : SizeSetting → String
  | timeout => "InvalidTimeoutError"
  | memory => "InvalidMemoryMBError"
  | ephemeralStorage => "InvalidEphemeralStorageSizeMBError"

/-- The name in the message of a failed check. -/
def label : SizeSetting → String
  | timeout => "timeout"
  | memory => "memoryMB"
  | ephemeralStorage => "ephemeralStorageSizeMB"

/-- The name of the setting. -/
def property : SizeSetting → String
  | timeout => "timeoutSeconds"
  | memory => "memoryMB"
  | ephemeralStorage => "ephemeralStorageSizeMB"

end SizeSetting

/-- Why the settings of a function are refused. -/
inductive FunctionFault
  | size (setting : SizeSetting) (value : Double)
  | environmentKeys (keys : List String)
  | runtime (value : Nat)
  | architecture (name : String)
  | schedule (text : String)
  deriving DecidableEq, Repr

/-- The supported major versions of the runtime. -/
def supportedRuntimes : List Nat := [16, 18, 20, 22]

/-- The major version of the runtime where nothing is said. -/
def defaultRuntime : Nat := 20

/-- The handler file where nothing is said. -/
def defaultEntry : String := "handler.ts"

namespace FunctionFault

/-- What the user is told. -/
def toError : FunctionFault → BackendError
  | .size setting value =>
    .configuration setting.failureCode
      ("Invalid function " ++ setting.label ++ " of " ++ value.print)
      (setting.property ++ " must be a whole number between " ++ toString setting.least ++
        " and " ++ toString setting.greatest ++ " inclusive")
  | .environmentKeys keys =>
    .configuration "InvalidEnvironmentKeyError"
      ("Invalid function environment key(s): " ++ ", ".intercalate keys)
      "Environment keys must match [a-zA-Z]([a-zA-Z0-9_])+ and be at least 2 characters"
  | .runtime value =>
    .configuration "InvalidRuntimeError"
      ("Invalid function runtime of " ++ toString value)
      ("runtime must be one of the following: " ++
        ", ".intercalate (supportedRuntimes.map toString))
  | .architecture name =>
    .configuration "InvalidArchitectureError"
      ("Invalid function architecture of " ++ name)
      "architecture must be one of the following: arm64, x86_64"
  | .schedule text =>
    .configuration "InvalidScheduleError"
      ("Invalid function schedule of " ++ text)
      ("schedule must be a rate such as `every 5m`, `every 1h` or `every day`, " ++
        "or a cron expression with 5 or 6 fields")

end FunctionFault

/-- An environment key: a letter, then at least one letter, digit or underscore. -/
def isEnvironmentKey (key : String) : Bool :=
  match key.toList with
  | first :: second :: rest =>
    first.isAlpha && (second :: rest).all fun character =>
      character.isAlphanum || character = '_'
  | _ => false

/-- The settings of a function with nothing left open. -/
structure ResolvedFunction where
  name : String
  entry : String
  timeoutSeconds : Nat
  memoryMB : Nat
  ephemeralStorageSizeMB : Nat
  environment : OrderedMap String EnvironmentValue
  runtime : Nat
  architecture : Architecture
  schedules : List String
  logging : FunctionLogging

namespace FunctionSettings

/-- A path without the steps to the current directory in front. -/
def withoutCurrentSteps : List Char → List Char
  | '.' :: '/' :: rest => withoutCurrentSteps rest
  | path => path

/-- The handler file, seen from where the definition's file is seen. -/
def resolvedEntry (settings : FunctionSettings) (site : DefinitionSite) : String :=
  let relative := withoutCurrentSteps (settings.entry.getD defaultEntry).toList
  let directory := site.directory?.getD []
  String.ofList (if directory = [] then relative else directory ++ '/' :: relative)

/-- The given name, else the name of the handler file, else of the definition's directory. -/
def resolvedName (settings : FunctionSettings) (site : DefinitionSite) : String :=
  match settings.name, settings.entry with
  | some name, _ => name
  | none, some entry => String.ofList ((Text.Path.fileStem entry.toList).getD [])
  | none, none => String.ofList (site.directoryName?.getD [])

/-- A size: the default, or a whole number within the limits. -/
def resolvedSize (setting : SizeSetting) : Option Double → Except FunctionFault Nat
  | none => .ok setting.default
  | some value =>
    match value.wholeBetween? setting.least setting.greatest with
    | some size => .ok size
    | none => .error (.size setting value)

/-- The environment, if all of its keys are allowed. -/
def resolvedEnvironment (environment : OrderedMap String EnvironmentValue) :
    Except FunctionFault (OrderedMap String EnvironmentValue) :=
  match environment.keys.filter fun key => !isEnvironmentKey key with
  | [] => .ok environment
  | keys => .error (.environmentKeys keys)

/-- The runtime, if it is supported. -/
def resolvedRuntime (runtime : Option Nat) : Except FunctionFault Nat :=
  let runtime := runtime.getD defaultRuntime
  if runtime ∈ supportedRuntimes then .ok runtime else .error (.runtime runtime)

/-- The architecture, if it is known. -/
def resolvedArchitecture : Option String → Except FunctionFault Architecture
  | none => .ok .default
  | some name =>
    match Architecture.ofName? name with
    | some architecture => .ok architecture
    | none => .error (.architecture name)

/-- The cron expressions of all schedules. -/
def resolvedSchedules : List String → Except FunctionFault (List String)
  | [] => .ok []
  | schedule :: rest =>
    match Schedule.cron? schedule with
    | none => .error (.schedule schedule)
    | some cron => (resolvedSchedules rest).map (cron :: ·)

/-- The resolved function, or the first fault. -/
def resolve (settings : FunctionSettings) (site : DefinitionSite) :
    Except FunctionFault ResolvedFunction := do
  let timeoutSeconds ← resolvedSize .timeout settings.timeoutSeconds
  let memoryMB ← resolvedSize .memory settings.memoryMB
  let ephemeralStorageSizeMB ← resolvedSize .ephemeralStorage settings.ephemeralStorageSizeMB
  let environment ← resolvedEnvironment settings.environment
  let runtime ← resolvedRuntime settings.runtime
  let architecture ← resolvedArchitecture settings.architecture
  let schedules ← resolvedSchedules settings.schedule
  return {
    name := settings.resolvedName site
    entry := settings.resolvedEntry site
    timeoutSeconds, memoryMB, ephemeralStorageSizeMB, environment, runtime, architecture
    schedules
    logging := settings.logging }

end FunctionSettings

end CloudSynth
