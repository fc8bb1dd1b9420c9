import CloudSynth.Backend.Access
import CloudSynth.Backend.Auth
import CloudSynth.Data.TableSelection

/-!
# Building the data resource

The settings are settled against the backend: the auth resource, if the backend provides one, is
resolved first, then the authorization modes, the functions of the schema and the tables to adopt.
Then the construct is built, its outputs are stored, and the grants are arbitrated.
-/

namespace CloudSynth.Blueprint

variable (blueprint : Blueprint)

/-- The authorizer with its function resolved. -/
def settleAuthorizer (authorizer : Authorizer Reference) : blueprint.Build (Authorizer Nat) := do
  return ⟨← blueprint.resolveHandler authorizer.function, authorizer.secondsToLive⟩

/-- Every function that the schema refers to is given. -/
def checkSchemaFunctions (settings : DataSettings Reference) : Except DataFault Unit :=
  match (Schema.functionNames settings.schema).find? fun name =>
      !settings.functions.contains name with
  | some missing => .error (.functionMissing missing)
  | none => .ok ()

/-- The functions given, resolved in the order of their names. -/
def resolveFunctions (functions : SortedMap Reference) : blueprint.Build (SortedMap Nat) := do
  let resolved ← functions.entries.mapM fun entry => do
    return (entry.1, ← blueprint.resolveHandler entry.2)
  return SortedMap.ofList resolved

/-- Settings that are refused. -/
def ofData {α : Type} (outcome : Except DataFault α) : blueprint.Build α :=
  Program.ofExcept (outcome.mapError DataFault.toError)

/-- The properties of the construct, given the auth resource of the backend. -/
def settleDataWith (auth : Option BuiltAuth) (name : String) (settings : DataSettings Reference) :
    blueprint.Build (DataProperties Nat) := do
  let authorization := settings.authorization.getD .unset
  let modes ← blueprint.ofData (authorization.settle auth.isSome)
  let authorizer ← authorization.authorizer.mapM blueprint.settleAuthorizer
  blueprint.ofData (checkSchemaFunctions settings)
  let functions ← blueprint.resolveFunctions settings.functions
  let importedTables ← blueprint.ofData
    (TableMapping.select settings.tableMappings blueprint.identifier)
  return {
    schema := settings.schema
    modes
    apiKeyDays := authorization.apiKeyDays modes
    userPoolId := auth.map (·.construct.resources.userPool.id)
    oidc := authorization.oidc
    authorizer, functions
    logging := settings.logging.map (·.resolve)
    importedTables
    allowDestructiveUpdates := true
    replaceTables := blueprint.identifier.kind = .sandbox
    suffix := blueprint.identifier.resourceId name }

/-- The auth resource of the backend and the properties of the construct. -/
def settleData (name : String) (settings : DataSettings Reference) :
    blueprint.Build (Option (Nat × BuiltAuth) × DataProperties Nat) := do
  let auth ← blueprint.providedAuth authResourcesToken
  let properties ← blueprint.settleDataWith (auth.map (·.2)) name settings
  return (auth, properties)

/-- The roles of logged-in users and guests that an auth resource has by now. -/
def identityRoles (assembly : Assembly) (auth : Option Nat) : List Role :=
  match auth.bind assembly.auths.find? with
  | some built => built.construct.resources.identityRoles
  | none => []

/-- Creates the construct in the data stack; the roles of the auth resource may call its API. -/
def createData (auth : Option Nat) (name : String) (properties : DataProperties Nat)
    (assembly : Assembly) : Except BackendError (DataConstruct Nat) × Assembly :=
  let group := ResourceKind.data.group
  let scope : DataScope :=
    { stack := assembly.stackSet.stackFor group
      roles := identityRoles assembly auth
      nextPolicy := assembly.nextPolicy }
  let (outcome, scope) := DataConstruct.create scope name properties
  let assembly := { assembly with
    stackSet := assembly.stackSet.put group scope.stack
    nextPolicy := scope.nextPolicy }
  (outcome.mapError (.ofConstruct .data),
    match auth with
    | some factory => assembly.changeAuth factory (·.withIdentityRoles scope.roles)
    | none => assembly)

/-- Publishes how the API is reached and arbitrates the grants. -/
def grantData (name : String) (resources : DataResources Nat)
    (grants : List (Grant Reference DataAction)) : blueprint.Build (List IssuedPolicy) := do
  let entries ← modifyGet fun assembly => assembly.publish
    [(name ++ "_GRAPHQL_ENDPOINT", resources.url),
     (name ++ "_MODEL_INTROSPECTION_SCHEMA_BUCKET_NAME", resources.bucketName),
     (name ++ "_MODEL_INTROSPECTION_SCHEMA_KEY", introspectionSchemaKey)]
  (blueprint.arbiter name entries
    (DataAction.statements resources.apiArn resources.bucketArn)).arbitrate grants

/-- Builds the data resource. -/
def buildData (factory : Nat) (settings : DataSettings Reference) :
    blueprint.Build Instance := do
  let name := settings.resolvedName
  let (auth, properties) ← blueprint.settleData name settings
  let construct ← Program.act (createData (auth.map (·.1)) name properties)
  let construct := { construct with tags := Tags.withFriendlyName construct.tags name }
  modify fun assembly =>
    { assembly with outputs := assembly.outputs.store graphqlOutputKey construct.output }
  settings.access.forM fun grants =>
    discard (blueprint.grantData name construct.resources grants)
  modify fun assembly =>
    let stackName := (assembly.stackSet.stackFor ResourceKind.data.group).name
    { assembly with datas := assembly.datas.insert factory { construct, stackName } }
  return ⟨.data, factory⟩

end CloudSynth.Blueprint
