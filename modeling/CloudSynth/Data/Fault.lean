import CloudSynth.Error

/-!
# Faults of data settings

Why the settings of the data resource cannot be settled, and what the user is told.
-/

namespace CloudSynth

/-- Why the settings of the data resource are refused. -/
inductive DataFault
  /-- Several authorization modes and no default. -/
  | defaultModeMissing
  /-- User pool authorization without an auth resource. -/
  | userPoolMissing
  /-- OpenID Connect authorization without its settings. -/
  | oidcMissing
  /-- Authorization by a function without the function. -/
  | authorizerMissing
  /-- The schema refers to a function that is not given. -/
  | functionMissing (name : String)
  /-- Two table mappings are for the same branch. -/
  | branchRepeated
  deriving DecidableEq, Repr

namespace DataFault

/-- What the user reads. -/
def message : DataFault → String
  | defaultModeMissing =>
    "A defaultAuthorizationMode is required if multiple authorization modes are configured"
  | userPoolMissing => "The userPool authorization mode requires auth to be defined"
  | oidcMissing =>
    "The oidc authorization mode is the default but no OIDC settings were provided"
  | authorizerMissing =>
    "The lambda authorization mode is the default but no authorizer function was provided"
  | functionMissing name =>
    "Function `" ++ name ++ "` is referenced in the schema but was not provided to defineData"
  | branchRepeated =>
    "Branch names must be unique in the migratedAmplifyGen1DynamoDbTableMappings"

/-- What to do about it. -/
def resolution : DataFault → String
  | defaultModeMissing =>
    "When calling 'defineData' specify 'authorizationModes.defaultAuthorizationMode'"
  | userPoolMissing =>
    "Call 'defineAuth' in the same backend or choose another defaultAuthorizationMode"
  | oidcMissing => "Specify 'authorizationModes.oidcAuthorizationMode'"
  | authorizerMissing => "Specify 'authorizationModes.lambdaAuthorizationMode'"
  | functionMissing name => "Add `" ++ name ++ "` to the functions passed to 'defineData'"
  | branchRepeated =>
    "Ensure that each branch name appears only once in " ++
      "'migratedAmplifyGen1DynamoDbTableMappings'"

/-- The failure with its code. -/
def toError (fault : DataFault) : BackendError :=
  .configuration "DefineDataConfigurationError" fault.message fault.resolution

end DataFault

end CloudSynth
