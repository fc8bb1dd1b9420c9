import CloudSynth.DefinitionSite
import CloudSynth.Document.Basic
import CloudSynth.Double.Reader
import CloudSynth.Function.Settings

/-!
# Documents about functions

The settings of a function. Sizes are written as texts, so that every floating-point number can be
given.
-/

namespace CloudSynth

/-- A definition site. -/
def DefinitionSite.ofDocument (value : Json) : DefinitionSite where
  file := value.textOf "file"
  line := value.naturalOf "line" % Json.bound32
  column := value.naturalOf "column" % Json.bound32

/-- The value of an environment variable: a text, or the name of a secret. -/
def EnvironmentValue.ofDocument : Json → EnvironmentValue
  | .text value => .plain value
  | other => .secret ⟨other.textOf "secret"⟩

namespace FunctionSettings

/-- The environment, in the order of the document. -/
def environmentOfDocument (value : Json) : OrderedMap String EnvironmentValue :=
  .ofList ((value.itemsOf "environment").map fun pair =>
    (pair.key, .ofDocument (pair.item 1)))

/-- The settings of a function. -/
def ofDocument (value : Json) : Reading FunctionSettings := do
  let runtime ← value.decoded? "runtime" (Json.asNatural? Json.bound32)
  let logging ← value.decoded? "logging" FunctionLogging.ofJson?
  return {
    name := value.text? "name"
    entry := value.text? "entry"
    timeoutSeconds := (value.text? "timeoutSeconds").bind Double.read?
    memoryMB := (value.text? "memoryMB").bind Double.read?
    ephemeralStorageSizeMB := (value.text? "ephemeralStorageSizeMB").bind Double.read?
    environment := environmentOfDocument value
    runtime
    architecture := value.text? "architecture"
    schedule := value.textsOf "schedule"
    logging := logging.getD .unset }

end FunctionSettings

end CloudSynth
