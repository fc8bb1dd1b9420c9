import CloudSynth.Data.Authorization
import CloudSynth.Data.Schema
import CloudSynth.Iam.Policy
import CloudSynth.Output
import CloudSynth.Stack
import CloudSynth.Tags
import CloudSynth.Text.Case

/-!
# The data construct

The construct checks its properties, registers the API, its tables and data sources in a stack,
lets the roles of logged-in users and guests call the API, and computes the outputs. A construct
that cannot register a resource leaves in the stack what it has registered before, but no role has
gained a policy then. Functions are handlers of some type `φ`.
-/

namespace CloudSynth

/-- What the data construct is made from. -/
structure DataProperties (φ : Type) where
  schema : String
  modes : SettledModes
  apiKeyDays : Option Nat
  userPoolId : Option String
  oidc : Option OidcSettings
  authorizer : Option (Authorizer φ)
  functions : SortedMap φ
  logging : Option ResolvedDataLogging
  /-- Existing tables by model. -/
  importedTables : SortedMap String
  allowDestructiveUpdates : Bool
  replaceTables : Bool
  /-- Makes physical identifiers unique. -/
  suffix : String

/-- A table of a model. -/
structure ModelTable where
  name : String
  imported : Bool
  deriving DecidableEq, Repr

/-- The resources of a built data construct. -/
structure DataResources (φ : Type) where
  apiId : String
  apiArn : String
  url : String
  apiKey : Option String
  bucketName : String
  bucketArn : String
  tables : SortedMap ModelTable
  dataSources : SortedMap φ
  logging : Option ResolvedDataLogging

/-- A built data construct. -/
structure DataConstruct (φ : Type) where
  id : String
  resources : DataResources φ
  tags : Tags
  output : OutputEntry

/-- Why the properties are refused. -/
inductive DataConstructFault
  | modelUnknown (model : String)
  | keyLifetime (days : Nat)
  deriving DecidableEq, Repr

/-- The longest lifetime of a key. -/
def longestKeyDays : Nat := 365

/-- What the user reads. -/
def DataConstructFault.message : DataConstructFault → String
  | .modelUnknown model => "Imported model not found in schema: " ++ model
  | .keyLifetime days =>
    "API key expiration must be between 1 and " ++ toString longestKeyDays ++
      " days, received " ++ toString days

namespace DataProperties

variable {φ : Type}

/-- The models of the schema. -/
def models (properties : DataProperties φ) : List String := Schema.modelNames properties.schema

/-- Every adopted table must be of a model, and a key must be valid for a day to a year. -/
def check (properties : DataProperties φ) : Except DataConstructFault Unit :=
  match properties.importedTables.keys.find? (· ∉ properties.models) with
  | some model => .error (.modelUnknown model)
  | none =>
    match properties.apiKeyDays with
    | none => .ok ()
    | some days =>
      if 1 ≤ days ∧ days ≤ longestKeyDays then .ok () else .error (.keyLifetime days)

/-- The resource of a model's table. -/
def tableRegistration (properties : DataProperties φ) (model : String) : StackResource where
  logicalId := model ++ "Table"
  resourceType :=
    if properties.importedTables.contains model then "Custom::ImportedAmplifyDynamoDBTable"
    else "Custom::AmplifyDynamoDBTable"

/-- The resource of a function's data source. -/
def sourceRegistration (function : String) : StackResource where
  logicalId := String.ofList (Text.capitalize function.toList) ++ "LambdaDataSource"
  resourceType := "AWS::AppSync::DataSource"

/-- The resources that the construct registers, in order. -/
def registrations (properties : DataProperties φ) (id : String) : List StackResource :=
  [⟨id ++ "GraphQLAPI", "AWS::AppSync::GraphQLApi"⟩] ++
  (if properties.apiKeyDays.isSome then
    [⟨id ++ "GraphQLAPIDefaultApiKey", "AWS::AppSync::ApiKey"⟩] else []) ++
  [⟨id ++ "ModelIntrospectionSchemaBucket", "AWS::S3::Bucket"⟩] ++
  properties.models.map properties.tableRegistration ++
  properties.functions.keys.map sourceRegistration ++
  (if properties.authorizer.isSome then
    [⟨id ++ "LambdaAuthorizerPermission", "AWS::Lambda::Permission"⟩] else []) ++
  (if properties.logging.isSome then [⟨id ++ "LogRetention", "Custom::LogRetention"⟩] else [])

/-- The beginning of the suffix. -/
def suffixStart (properties : DataProperties φ) (length : Nat) : String :=
  String.ofList (properties.suffix.toList.take length)

/-- The identifier of the API. -/
def apiId (properties : DataProperties φ) : String := properties.suffixStart 26

/-- The name of the API's resource. -/
def apiArn (properties : DataProperties φ) (stack : Stack) : String :=
  stack.arn "appsync" ("apis/" ++ properties.apiId)

/-- The bucket that holds the introspection schema. -/
def bucketName (properties : DataProperties φ) (id : String) : String :=
  String.ofList (Text.lower id.toList) ++ "-modelintrospectionschemabucket-" ++
    properties.suffixStart 8

/-- The table of a model: the adopted one, or a new one. -/
def tableOf (properties : DataProperties φ) (model : String) : ModelTable :=
  match properties.importedTables.find? model with
  | some name => ⟨name, true⟩
  | none => ⟨model ++ "-" ++ properties.apiId ++ "-NONE", false⟩

/-- The resources of the construct. -/
def resources (properties : DataProperties φ) (stack : Stack) (id : String) :
    DataResources φ where
  apiId := properties.apiId
  apiArn := properties.apiArn stack
  url := "https://" ++ properties.apiId ++ ".appsync-api." ++ stack.region ++
    ".amazonaws.com/graphql"
  apiKey := properties.apiKeyDays.map fun _ =>
    "da2-" ++ String.ofList (properties.apiId.toList.take 12)
  bucketName := properties.bucketName id
  bucketArn := "arn:aws:s3:::" ++ properties.bucketName id
  tables := SortedMap.ofList (properties.models.map fun model =>
    (model, properties.tableOf model))
  dataSources := properties.functions
  logging := properties.logging

/-- The outputs of the construct. -/
def output (properties : DataProperties φ) (stack : Stack) (resources : DataResources φ) :
    OutputEntry :=
  .ofFields "1" <|
    [("awsAppsyncApiId", resources.apiId),
     ("awsAppsyncApiEndpoint", resources.url),
     ("awsAppsyncAuthenticationType", properties.modes.defaultMode.outputName),
     ("awsAppsyncRegion", stack.region),
     ("amplifyApiModelSchemaS3Uri",
       "s3://" ++ resources.bucketName ++ "/" ++ introspectionSchemaKey)] ++
    (if properties.modes.additionalModes.isEmpty then []
      else [("awsAppsyncAdditionalAuthenticationTypes",
        ",".intercalate (properties.modes.additionalModes.map (·.outputName)))]) ++
    (match resources.apiKey with
      | some key => [("awsAppsyncApiKey", key)]
      | none => [])

end DataProperties

/-- What building a data construct changes: the stack it is built in, the roles that may call the
API, and the number of the next policy. -/
structure DataScope where
  stack : Stack
  roles : List Role
  nextPolicy : Nat

namespace DataScope

/-- The policy that lets a role call the API. -/
def callerPolicy (role : Role) (id apiArn : String) : Policy where
  name := role.name ++ id ++ "GraphQLPolicy"
  statements := [.allow ["appsync:GraphQL"] [apiArn ++ "/*"]]

/-- Lets every role call the API, each by a policy of its own. -/
def allowCallers (scope : DataScope) (id apiArn : String) : DataScope where
  stack := scope.stack
  roles := scope.roles.zipIdx.map fun pair =>
    pair.1.attach ⟨scope.nextPolicy + pair.2, callerPolicy pair.1 id apiArn⟩
  nextPolicy := scope.nextPolicy + scope.roles.length

end DataScope

namespace DataConstruct

variable {φ : Type}

/-- Builds the construct. -/
def create (scope : DataScope) (id : String) (properties : DataProperties φ) :
    Except ConstructError (DataConstruct φ) × DataScope :=
  match properties.check with
  | .error fault => (.error (.invalidProps fault.message), scope)
  | .ok () =>
    match scope.stack.addAll (properties.registrations id) with
    | (.error failure, stack) => (.error failure, { scope with stack })
    | (.ok (), stack) =>
      let resources := properties.resources stack id
      let scope := { scope with stack }
      (.ok { id, resources, tags := {}, output := properties.output stack resources },
        if properties.modes.enables .iam then scope.allowCallers id resources.apiArn else scope)

end DataConstruct

end CloudSynth
