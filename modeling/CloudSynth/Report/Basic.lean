import CloudSynth.DefinitionSite
import CloudSynth.Error
import CloudSynth.Lambda
import CloudSynth.Output
import CloudSynth.Parameter
import CloudSynth.Sandbox.Failure
import CloudSynth.Secret
import CloudSynth.Stack
import CloudSynth.UserPool

/-!
# Reports

A report shows what has been built, or why it was not, as a structured value. This module reports
failures and the parts that all resources are made of.
-/

namespace CloudSynth

namespace Json

/-- A number. -/
def natural (value : Nat) : Json := .integer value

/-- A number or null. -/
def optionalNatural (value : Option Nat) : Json := .optional natural value

/-- A text or null. -/
def optionalText (value : Option String) : Json := .optional .text value

/-- An object of texts. -/
def textMap (values : SortedMap String) : Json := .ofMap (values.mapValues .text)

end Json

/-! ## Failures -/

/-- The name of the kind of failure. -/
def ConstructError.kind : ConstructError → String
  | .invalidProps _ => "InvalidProps"
  | .duplicateTrigger _ _ => "DuplicateTrigger"
  | .duplicateLogicalId _ _ => "DuplicateLogicalId"

/-- A refused construct. -/
def ConstructError.report (failure : ConstructError) : Json :=
  .record [("error", .text failure.kind), ("message", .text failure.message)]

/-- What a failure says beside its code, message and hint. -/
def BackendError.details : BackendError → List (String × Json)
  | .constructInitialization _ _ _ source => [("source", source.report)]
  | .importPathMismatch _ found => [("found", .text found)]
  | .cyclicDependency path => [("path", .texts path)]
  | _ => []

/-- A failed synthesis. -/
def BackendError.report (failure : BackendError) : Json :=
  .record ([("error", .text failure.code), ("message", .optionalText failure.message),
    ("resolution", .optionalText failure.resolution),
    ("userError", .boolean failure.isUserError)] ++ failure.details)

/-- A failed sandbox deploy. -/
def SandboxError.report (failure : SandboxError) : Json :=
  .record [("error", .text failure.code), ("message", .text failure.message)]

/-- A failed deployer, and what its callers are told. -/
def DeploymentError.report (failure : DeploymentError) : Json :=
  let told := SandboxError.deployment failure
  .record [("error", .text failure.code), ("message", .text failure.message),
    ("resolution", .text failure.resolution), ("wrapped", .texts [told.code, told.message])]

/-! ## Identities and sites -/

/-- What is derived from the identity of a backend for resources and secrets of the given names. -/
def BackendIdentifier.fields (identifier : BackendIdentifier) (resources secrets : List String) :
    List (String × Json) :=
  [("parameterPath", .text identifier.parameterPath),
    ("stackName", .text identifier.stackName), ("text", .text identifier.print),
    ("json", identifier.toJson), ("hash", .text identifier.stableHash),
    ("resourceIds", .texts (resources.map identifier.resourceId)),
    ("secrets", .list (secrets.map fun name =>
      let token := identifier.secretToken ⟨name⟩
      .texts [token.secretName, token.parameterPath, token.print]))]

/-- A definition site, and the directory that it lies in. -/
def DefinitionSite.report (site : DefinitionSite) : Json :=
  .record [("text", .text site.print), ("normalized", .text (String.ofList site.normalized)),
    ("directory", .optionalText (site.directory?.map String.ofList)),
    ("directoryName", .optionalText (site.directoryName?.map String.ofList))]

/-! ## Parts of resources -/

/-- A policy. -/
def Policy.report (policy : Policy) : Json :=
  .record [("name", .text policy.name), ("document", policy.document)]

/-- A role with its policies. -/
def Role.report (role : Role) : Json :=
  .record [("name", .text role.name), ("arn", .text role.arn),
    ("policies", .list (role.policies.map Policy.report))]

/-- A deployed function. -/
def Lambda.report (function : Lambda) : Json :=
  .record [("name", .text function.name), ("arn", .text function.arn),
    ("role", function.role.report), ("environment", .textMap function.environment),
    ("tags", .textMap function.tags)]

/-- A user pool, given the functions that its handlers stand for. -/
def UserPool.report {φ : Type} (lambdaOf : φ → Lambda) (pool : UserPool φ) : Json :=
  .record [("id", .text pool.id), ("arn", .text pool.arn),
    ("kmsKeyArn", .optionalText pool.keyArn), ("events", .texts pool.triggers.keys),
    ("triggers", .ofMap (pool.triggers.mapValues fun handler => (lambdaOf handler).report))]

/-- The types of resources that a report of a stack lists. -/
def Stack.reportedTypes : List String :=
  ["AWS::AppSync::ApiKey", "AWS::AppSync::DataSource", "AWS::AppSync::GraphQLApi",
   "AWS::Cognito::IdentityPool", "AWS::Cognito::UserPool", "AWS::Cognito::UserPoolClient",
   "AWS::Cognito::UserPoolDomain", "AWS::Cognito::UserPoolGroup",
   "AWS::Cognito::UserPoolIdentityProvider", "AWS::Events::Rule", "AWS::IAM::Role",
   "AWS::Lambda::Function", "AWS::Lambda::Permission", "AWS::S3::Bucket",
   "Custom::AmplifyDynamoDBTable", "Custom::ImportedAmplifyDynamoDBTable", "Custom::LogRetention"]

/-- A stack with its resources by type. -/
def Stack.report (stack : Stack) : Json :=
  .record [("name", .text stack.name), ("region", .text stack.region),
    ("account", .text stack.account), ("count", .natural stack.resources.length),
    ("resources", .list (reportedTypes.flatMap fun resourceType =>
      (stack.logicalIdsOf resourceType).map fun logicalId => .texts [resourceType, logicalId]))]

/-- An output entry. -/
def OutputEntry.report (entry : OutputEntry) : Json :=
  .record [("version", .text entry.version), ("payload", .textMap entry.payload)]

/-- A published parameter. -/
def ParameterEntry.report (entry : ParameterEntry) : Json :=
  .record [("name", .text entry.name), ("path", .text entry.path)]

/-- The tags of a construct, and its friendly name among them. -/
def Tags.fields (tags : Tags) : List (String × Json) :=
  [("tags", .textMap tags), ("friendlyName", .optionalText (Tags.friendlyName? tags))]

end CloudSynth
