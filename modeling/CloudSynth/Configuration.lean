import CloudSynth.Error
import CloudSynth.Identifier
import CloudSynth.Toml.Reader
import CloudSynth.Toml.Record

/-!
# Synthesis configuration

Which backend is synthesised, and into which region and account it goes.
-/

namespace CloudSynth

/-- The configuration of one synthesis. -/
structure Configuration where
  identifier : BackendIdentifier
  region : String
  account : String
  deriving DecidableEq, Repr

namespace Configuration

/-- The configuration where nothing is said. -/
def default : Configuration where
  identifier := ⟨"bdk-app", "sandbox", .sandbox⟩
  region := "us-east-1"
  account := "000000000000"

instance : Inhabited Configuration := ⟨default⟩

/-- Reads the value of a configuration document; missing fields take their defaults, others must
have the right type. -/
def ofTable? (value : Json) : Option Configuration := do
  let identifier ← value.defaultField "backend_identifier" default.identifier fun identifier =>
    (Toml.asRecord? BackendIdentifier.fieldNames identifier).bind
      (BackendIdentifier.ofFields? Toml.asVariant?)
  let region ← value.defaultField "region" default.region Json.asText?
  let account ← value.defaultField "account_id" default.account Json.asText?
  return { identifier, region, account }

/-- Reads a configuration document. -/
def read (document : String) : Except BackendError Configuration :=
  match (Toml.read? document).bind ofTable? with
  | some configuration => .ok configuration
  | none => .error .invalidConfig

/-- The structured form of a configuration. -/
def toJson (configuration : Configuration) : Json :=
  .record [("backend_identifier", configuration.identifier.toJson),
    ("region", .text configuration.region), ("account_id", .text configuration.account)]

end Configuration

end CloudSynth
