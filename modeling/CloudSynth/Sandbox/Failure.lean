/-!
# Failures of sandbox deploys

What the deployer reports when a deploy fails, and what the callers of a deploy are told. A deploy
may also end in a panic of the code it calls; callers get the text that the panic carried.
-/

namespace CloudSynth

/-- Why a deployer failed. -/
inductive DeploymentError
  | inProgress
  | stackMissing
  | outputsMissing
  | credentialsExpired
  | permissionsInsufficient
  | failed (message : String)
  deriving DecidableEq, Repr, Inhabited

namespace DeploymentError

/-- What the user reads. -/
def message : DeploymentError → String
  | .inProgress => "The deployment is already in progress"
  | .stackMissing => "The stack of this backend does not exist"
  | .outputsMissing => "The stack outputs are not populated yet"
  | .credentialsExpired => "The security token included in the request is expired"
  | .permissionsInsufficient => "Unable to deploy due to insufficient permissions"
  | .failed message => "Deployment failed: " ++ message

/-- The stable name of the failure. -/
def code : DeploymentError → String
  | .inProgress => "DeploymentInProgressError"
  | .stackMissing => "StackDoesNotExistError"
  | .outputsMissing => "StackOutputsNotPopulatedError"
  | .credentialsExpired => "ExpiredTokenError"
  | .permissionsInsufficient => "AccessDeniedError"
  | .failed _ => "BackendDeploymentError"

/-- What to do about the failure. -/
def resolution : DeploymentError → String
  | .inProgress => "Wait for the current deployment to finish, then try again."
  | .stackMissing =>
    "Ensure the backend identifier and region are correct and the backend was deployed."
  | .outputsMissing => "Wait for the deployment to complete, then try again."
  | .credentialsExpired => "Refresh your credentials and try again."
  | .permissionsInsufficient =>
    "Ensure your credentials grant the permissions required to deploy the backend."
  | .failed _ => "See the underlying error message for more details."

end DeploymentError

/-- What a panic carries: a text, or something that has none. -/
inductive Panic
  | text (message : String)
  | other
  deriving DecidableEq, Repr, Inhabited

/-- The text of a panic. -/
def Panic.message : Panic → String
  | .text message => message
  | .other => "unknown panic"

/-- Why a sandbox deploy failed. -/
inductive SandboxError
  /-- The deployer failed. -/
  | deployment (cause : DeploymentError)
  /-- The secrets could not be listed. -/
  | secrets (message : String)
  /-- The executor stopped before it had an answer. -/
  | stopped
  /-- The validation, the listing of secrets or the deployer panicked. -/
  | panicked (message : String)
  deriving DecidableEq, Repr, Inhabited

namespace SandboxError

/-- What the user reads. -/
def message : SandboxError → String
  | .deployment cause => cause.message
  | .secrets message => "Failed to list secrets: " ++ message
  | .stopped => "sandbox executor stopped before the deployment finished"
  | .panicked message => "sandbox deployment panicked: " ++ message

/-- The stable name of the failure. -/
def code : SandboxError → String
  | .deployment cause => cause.code
  | .secrets _ => "SecretListError"
  | .stopped => "SandboxExecutorStoppedError"
  | .panicked _ => "SandboxDeploymentPanickedError"

end SandboxError

/-- What the caller of a deploy is told. -/
abbrev DeployResult := Except SandboxError Unit

end CloudSynth
