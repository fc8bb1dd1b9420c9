import CloudSynth.Backend.Synthesis
import CloudSynth.Session

/-!
# Workspaces

A workspace holds the sessions in which resources are defined, the definitions with the names they
are known by, and the backends that are built from them. Sessions and backends come into being when
they are first named; all backends have the same configuration and the same checks. The checks keep
one journal for the whole workspace, which is lent to a backend while a program runs on it.
-/

namespace CloudSynth

/-- At most one auth resource is defined in a session. -/
def authSingleton : SingletonKind where
  name := "auth"
  message :=
    "Multiple `defineAuth` or `referenceAuth` calls are not allowed within an Amplify backend"
  resolution := "Remove all but one `defineAuth` or `referenceAuth` call"

/-- At most one data resource is defined in a session. -/
def dataSingleton : SingletonKind where
  name := "data"
  message := "Multiple `defineData` calls are not allowed within an Amplify backend"
  resolution := "Remove all but one `defineData` call"

/-- The kind under which definitions of functions are counted. -/
def functionDefinitionKind : String := "function"

/-- Sessions, definitions and backends. -/
structure Workspace where
  configuration : Configuration
  siteCheck : Option SiteCheck
  nameCheck : Option NameCheck
  sessions : OrderedMap String Session
  definitions : List Definition
  /-- The number of the latest definition of a name. -/
  names : OrderedMap String Nat
  backends : OrderedMap String Backend
  journal : Journal
  /-- The factory whose instance was last given out, by backend and name. -/
  given : OrderedMap (String × String) Nat

namespace Workspace

/-- A workspace without definitions. -/
def new (configuration : Configuration) (siteCheck : Option SiteCheck)
    (nameCheck : Option NameCheck) : Workspace where
  configuration := configuration
  siteCheck := siteCheck
  nameCheck := nameCheck
  sessions := {}
  definitions := []
  names := {}
  backends := {}
  journal := .empty
  given := {}

/-! ## Definitions -/

/-- The session of a name. -/
def session (workspace : Workspace) (name : String) : Session :=
  (workspace.sessions.find? name).getD .new

/-- The workspace with another session for a name. -/
def putSession (workspace : Workspace) (name : String) (session : Session) : Workspace :=
  { workspace with sessions := workspace.sessions.insert name session }

/-- Adds a definition under a name, in place of an older one. -/
def define (workspace : Workspace) (name : String) (definition : Definition) : Workspace :=
  { workspace with
    definitions := workspace.definitions ++ [definition]
    names := workspace.names.insert name workspace.definitions.length }

/-- Defines a function in a session. -/
def defineFunction (workspace : Workspace) (session name : String) (settings : FunctionSettings)
    (site : DefinitionSite) : Workspace :=
  (workspace.putSession session ((workspace.session session).define functionDefinitionKind)).define
    name (.function settings site)

/-- Defines a stub function; sessions do not count stubs. -/
def defineStub (workspace : Workspace) (name functionName : String) : Workspace :=
  workspace.define name (.stub functionName)

/-- Defines a resource of a kind of which a session has at most one. -/
def defineSingleton (workspace : Workspace) (session name : String) (kind : SingletonKind)
    (definition : Definition) : Except BackendError Unit × Workspace :=
  let (outcome, counted) := (workspace.session session).defineSingleton kind
  let workspace := workspace.putSession session counted
  match outcome with
  | .ok () => (.ok (), workspace.define name definition)
  | .error failure => (.error failure, workspace)

/-- Defines the auth resource of a session. -/
def defineAuth (workspace : Workspace) (session name : String) (settings : AuthSettings Reference)
    (site : DefinitionSite) : Except BackendError Unit × Workspace :=
  workspace.defineSingleton session name authSingleton (.auth settings site)

/-- Defines the data resource of a session. -/
def defineData (workspace : Workspace) (session name : String) (settings : DataSettings Reference)
    (site : DefinitionSite) : Except BackendError Unit × Workspace :=
  workspace.defineSingleton session name dataSingleton (.data settings site)

/-! ## Backends -/

/-- What is fixed while the backends are built. -/
def blueprint (workspace : Workspace) : Blueprint where
  configuration := workspace.configuration
  siteCheck := workspace.siteCheck
  nameCheck := workspace.nameCheck
  definitions := workspace.definitions
  names := workspace.names

/-- The backend of a name, with the journal of the workspace. -/
def backend (workspace : Workspace) (name : String) : Backend :=
  let backend := (workspace.backends.find? name).getD
    (.new workspace.configuration workspace.journal)
  backend.changeAssembly fun assembly => { assembly with journal := workspace.journal }

/-- The workspace with another backend for a name, and the journal that the backend has kept. -/
def putBackend (workspace : Workspace) (name : String) (backend : Backend) : Workspace :=
  { workspace with
    backends := workspace.backends.insert name backend
    journal := backend.assembly.journal }

/-- Runs a program on a backend. -/
def run {α : Type} (workspace : Workspace) (backendName : String)
    (program : workspace.blueprint.Build α) : Except BackendError α × Workspace :=
  let (outcome, backend) := (workspace.backend backendName).run workspace.blueprint program
  (outcome, workspace.putBackend backendName backend)

/-- Adds a defined resource to a backend under a resource name; answers with the capability that it
provides. -/
def add (workspace : Workspace) (backendName name resourceName : String) :
    Except BackendError (Option String) × Workspace :=
  match workspace.blueprint.factoryNamed? name with
  | none => (.error (unknownReference name), workspace)
  | some factory =>
    let definition := workspace.blueprint.definition factory
    let backend := (workspace.backend backendName).add resourceName factory definition
    (.ok definition.provides, workspace.putBackend backendName backend)

/-- Resolves every resource of a backend. -/
def synthesize (workspace : Workspace) (backendName : String) :
    Except BackendError Unit × Workspace :=
  let (outcome, backend) := (workspace.backend backendName).synthesize workspace.blueprint
  (outcome, workspace.putBackend backendName backend)

/-- The stack of a group; it is there from now on. -/
def stack (workspace : Workspace) (backendName group : String) : Stack × Workspace :=
  let backend := (workspace.backend backendName).changeAssembly fun assembly =>
    { assembly with stackSet := assembly.stackSet.touch group }
  (backend.assembly.stackSet.stackFor group, workspace.putBackend backendName backend)

end Workspace

/-! ## Programs -/

namespace Blueprint

variable (blueprint : Blueprint)

/-- The instance of the resource of a name. -/
def instanceNamed (name : String) : blueprint.Build Instance := do
  blueprint.instanceOf (← blueprint.named name)

/-- Who accepts policies for a role of the resource of a name; nobody does for a data resource. -/
def acceptorNamed (name : String) (role : Option String) :
    blueprint.Build (Option (Acceptor blueprint.Build)) := do
  let holder ← blueprint.instanceNamed name
  if holder.kind = .data then return none
  else return some (← blueprint.acceptorOf holder role)

/-- Hands one new policy to an acceptor, `times` times. -/
def handOver (policy : Policy) (entries : List ParameterEntry) (times : Nat)
    (acceptor : Acceptor blueprint.Build) : blueprint.Build Unit := do
  let issued ← modifyGet fun assembly => assembly.issue policy
  (List.range times).forM fun _ => acceptor.accept issued entries

/-- Hands one new policy to who accepts policies for a role of the resource of a name, if anybody
does; answers with the identifier of the acceptor. -/
def handOverTo (name : String) (role : Option String) (policy : Policy)
    (entries : List ParameterEntry) (times : Nat) : blueprint.Build (Option String) := do
  let acceptor ← blueprint.acceptorNamed name role
  acceptor.forM (blueprint.handOver policy entries times)
  return acceptor.map (·.identifier)

/-- Sets an environment variable of the resource of a name, if it is a function; answers with the
value that is stored. -/
def setVariable (name key value : String) : blueprint.Build (Option (Option String)) := do
  let holder ← blueprint.instanceNamed name
  if holder.kind ≠ .function then return none
  modify fun assembly => assembly.changeFunction holder.factory (·.setVariable key value)
  return some (((← get).functions.find? holder.factory).bind (·.lambda.valueOf? key))

/-- A resource that calls functions: an auth resource on events, a data resource for fields of its
schema. -/
def callsHandlers (kind : ResourceKind) : Bool := kind = .auth || kind = .data

/-- The function that a resource calls on an event, or for a field of its schema. -/
def handlerOf? (holder : Instance) (event : String) (assembly : Assembly) : Option Nat :=
  match holder.kind with
  | .auth => (assembly.auths.find? holder.factory).bind fun built =>
      built.construct.resources.userPool.trigger? event
  | .data => (assembly.datas.find? holder.factory).bind fun built =>
      built.construct.resources.dataSources.find? event
  | _ => none

/-- Whether a resource calls the given function on an event, if it calls any. There is no answer
when the first is of a kind that calls no functions, or the second is no function. -/
def callsHandler (name event function : String) : blueprint.Build (Option (Option Bool)) := do
  let holder ← blueprint.instanceNamed name
  let called ← blueprint.instanceNamed function
  if callsHandlers holder.kind && called.kind = .function then
    return some ((handlerOf? holder event (← get)).map (· = called.factory))
  else return none

/-- The auth resource that the backend provides under a token. -/
def discover (token : String) : blueprint.Build (Option BuiltAuth) := do
  return (← blueprint.providedAuth token).map (·.2)

/-- Arbitrates grants on behalf of a resource; answers with the policies. -/
def arbitrateGrants {α : Type} (resource : String) (entries : List ParameterEntry)
    (statementsFor : α → List Statement) (grants : List (Grant Reference α)) :
    blueprint.Build (List Policy) := do
  let issued ← (blueprint.arbiter resource entries statementsFor).arbitrate grants
  return issued.map (·.policy)

/-- The properties of an auth construct that would be built in the stack of a group. -/
def authPropertiesIn (group name : String) (settings : AuthSettings Reference) :
    blueprint.Build (AuthProperties Nat) := do
  modify fun assembly => { assembly with stackSet := assembly.stackSet.touch group }
  blueprint.settleAuth name settings

/-- The properties of a data construct that would be built in the stack of a group, and the roles of
logged-in users and guests. -/
def dataPropertiesIn (group name : String) (settings : DataSettings Reference) :
    blueprint.Build (DataProperties Nat × List Role) := do
  modify fun assembly => { assembly with stackSet := assembly.stackSet.touch group }
  let (auth, properties) ← blueprint.settleData name settings
  return (properties, identityRoles (← get) (auth.map (·.1)))

end Blueprint

namespace Workspace

/-- The instance of the resource of a name, and whether it is the one that was given out under this
name before. -/
def getInstance (workspace : Workspace) (backendName name : String) :
    Except BackendError (Option Bool × Instance) × Workspace :=
  match workspace.run backendName (workspace.blueprint.instanceNamed name) with
  | (.error failure, workspace) => (.error failure, workspace)
  | (.ok found, workspace) =>
    let key := (backendName, name)
    let same := (workspace.given.find? key).map fun factory => factory == found.factory
    (.ok (same, found), { workspace with given := workspace.given.insert key found.factory })

end Workspace

end CloudSynth
