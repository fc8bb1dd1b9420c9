import CloudSynth.Backend.Assembly
import CloudSynth.Configuration
import CloudSynth.Container.Basic
import CloudSynth.Data.Settings

/-!
# Blueprints

A blueprint is all that is fixed while a backend is built: its configuration, its checks, and the
factories that have been defined. A factory is known by its number. A reference names a factory and
is looked up when it is used, so it may name one that is defined later.

A factory that is asked for its instance first checks its definition, every time, and then requests
its entry from the container.
-/

namespace CloudSynth

/-- Names a factory, and others that are resolved first. -/
structure Reference where
  name : String
  requires : List String
  deriving DecidableEq, Repr, Inhabited

/-- A defined resource. -/
inductive Definition
  | function (settings : FunctionSettings) (site : DefinitionSite)
  | stub (name : String)
  | auth (settings : AuthSettings Reference) (site : DefinitionSite)
  | data (settings : DataSettings Reference) (site : DefinitionSite)

/-- The kind of resource that is defined. -/
def Definition.kind : Definition → ResourceKind
  | .function .. => .function
  | .stub .. => .stub
  | .auth .. => .auth
  | .data .. => .data

/-- The token of the auth resource. -/
def authResourcesToken : String := "AuthResources"

/-- The capability that a defined resource provides to others. -/
def Definition.provides : Definition → Option String
  | .auth .. => some authResourcesToken
  | _ => none

/-- What is fixed while a backend is built. -/
structure Blueprint where
  configuration : Configuration
  siteCheck : Option SiteCheck
  nameCheck : Option NameCheck
  definitions : List Definition
  /-- The number of the factory that a name stands for. -/
  names : OrderedMap String Nat

/-- A reference that names nothing, or a resource of the wrong kind. -/
def unknownReference (name : String) : BackendError :=
  .configuration "UnknownReference" name ""

namespace Blueprint

/-- The factories of a blueprint, by number. -/
abbrev Factory (blueprint : Blueprint) := Fin blueprint.definitions.length

/-- What happens while a backend of the blueprint is built. -/
abbrev Build (blueprint : Blueprint) := Program Assembly blueprint.Factory Instance

variable (blueprint : Blueprint)

/-- The definition of a factory. -/
def definition (factory : blueprint.Factory) : Definition := blueprint.definitions.get factory

/-- The factory of a number. -/
def factoryAt? (number : Nat) : Option blueprint.Factory :=
  if inRange : number < blueprint.definitions.length then some ⟨number, inRange⟩ else none

/-- The factory of a name. -/
def factoryNamed? (name : String) : Option blueprint.Factory :=
  (blueprint.names.find? name).bind blueprint.factoryAt?

/-! ## Checks -/

/-- Checks a definition site. -/
def checkSite (site : DefinitionSite) (expected message : String) (assembly : Assembly) :
    Except BackendError Unit × Assembly :=
  match blueprint.siteCheck with
  | none => (.ok (), assembly)
  | some check =>
    let (outcome, journal) := check.verify site expected message assembly.journal
    (outcome, { assembly with journal })

/-- Checks a name, if there is one. -/
def checkName (name : Option String) (assembly : Assembly) :
    Except BackendError Unit × Assembly :=
  match blueprint.nameCheck, name with
  | some check, some name =>
    let (outcome, journal) := check.validate name assembly.journal
    (outcome, { assembly with journal })
  | _, _ => (.ok (), assembly)

/-- Checks a definition: the settings of a function, the file of a singleton, the name. -/
def checkDefinition : Definition → blueprint.Build Unit
  | .function settings site =>
    match settings.resolve site with
    | .error fault => throw fault.toError
    | .ok resolved => Program.act (blueprint.checkName (some resolved.name))
  | .stub _ => return ()
  | .auth settings site => do
    Program.act (blueprint.checkSite site "amplify/auth/resource"
      "Amplify Auth must be defined in amplify/auth/resource.rs")
    Program.act (blueprint.checkName settings.name)
  | .data settings site => do
    Program.act (blueprint.checkSite site "amplify/data/resource"
      "Amplify Data must be defined in amplify/data/resource.rs")
    Program.act (blueprint.checkName settings.name)

/-! ## Instances -/

/-- The instance of a factory: its definition is checked and its entry requested. -/
def instanceOf (factory : blueprint.Factory) : blueprint.Build Instance := do
  blueprint.checkDefinition (blueprint.definition factory)
  Program.entryOf factory

/-- The factory that a name stands for. -/
def named (name : String) : blueprint.Build blueprint.Factory :=
  match blueprint.factoryNamed? name with
  | some factory => return factory
  | none => throw (unknownReference name)

/-- The instance that a reference stands for, after what it requires. -/
def resolveReference (reference : Reference) (admits : ResourceKind → Bool) :
    blueprint.Build Instance := do
  reference.requires.forM fun name => do
    let factory ← blueprint.named name
    discard (blueprint.instanceOf factory)
  let factory ← blueprint.named reference.name
  if admits (blueprint.definition factory).kind then blueprint.instanceOf factory
  else throw (unknownReference reference.name)

/-- A resource that can handle events: a function or a stub. -/
def handles (kind : ResourceKind) : Bool := kind = .function || kind = .stub

/-- A resource that can be granted access: a function, a stub or an auth resource. -/
def isGrantee (kind : ResourceKind) : Bool := handles kind || kind = .auth

/-- The function that a reference stands for, by the number of its factory. -/
def resolveHandler (reference : Reference) : blueprint.Build Nat := do
  return (← blueprint.resolveReference reference handles).factory

/-- The auth resource that a factory has built. -/
def builtAuth (factory : Nat) : blueprint.Build BuiltAuth := do
  match (← get).auths.find? factory with
  | some built => return built
  | none => throw (.entryTypeMismatch ResourceKind.auth.group)

/-- The auth resource that the backend provides, with the number of its factory. -/
def providedAuth (token : String) : blueprint.Build (Option (Nat × BuiltAuth)) := do
  match ((← get).providers.find? token).bind blueprint.factoryAt? with
  | none => return none
  | some factory =>
    let found ← blueprint.instanceOf factory
    return some (found.factory, ← blueprint.builtAuth found.factory)

end Blueprint

end CloudSynth
