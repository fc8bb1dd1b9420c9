import CloudSynth.Backend.Access

/-!
# Building the auth resource

The settings are settled: functions that send messages are resolved and external providers get
their tokens. Then the handlers of events are resolved, the construct is built and wired to them,
its outputs are stored, and the grants are arbitrated. All references are resolved before the first
resource is registered.
-/

namespace CloudSynth.Blueprint

variable (blueprint : Blueprint)

/-- The identity of the backend. -/
def identifier : BackendIdentifier := blueprint.configuration.identifier

/-- A function that sends messages, with its handler resolved. -/
def settleSender (sender : CustomSender Reference) : blueprint.Build (CustomSender Nat) := do
  return ⟨← blueprint.resolveHandler sender.handler, sender.keyArn⟩

/-- A sender of mail with its handler resolved. -/
def settleEmailSender : EmailSender Reference → blueprint.Build (EmailSender Nat)
  | .ses fromEmail fromName replyTo => return .ses fromEmail fromName replyTo
  | .custom sender => do return .custom (← blueprint.settleSender sender)

/-- A sender of text messages with its handler resolved. -/
def settleSmsSender : SmsSender Reference → blueprint.Build (SmsSender Nat)
  | .sns externalId callerArn region => return .sns externalId callerArn region
  | .custom sender => do return .custom (← blueprint.settleSender sender)

/-- The properties of the construct. -/
def settleAuth (name : String) (settings : AuthSettings Reference) :
    blueprint.Build (AuthProperties Nat) := do
  let emailSender ← settings.emailSender.mapM blueprint.settleEmailSender
  let smsSender ← settings.smsSender.mapM blueprint.settleSmsSender
  return {
    email := settings.login.email
    phone := settings.login.phone
    federation := settings.login.external.map (·.federation blueprint.identifier)
    multifactor := settings.multifactor
    emailSender, smsSender
    groups := settings.groups
    suffix := blueprint.identifier.resourceId name }

/-- The handlers of events, in the order of the events. -/
def resolveTriggers (settings : AuthSettings Reference) :
    blueprint.Build (List (TriggerEvent × Nat)) :=
  settings.triggers.toList.mapM fun trigger => do
    return (trigger.1, ← blueprint.resolveHandler trigger.2)

/-- Creates the construct in the auth stack. -/
def createAuth (name : String) (properties : AuthProperties Nat) (assembly : Assembly) :
    Except BackendError (AuthConstruct Nat) × Assembly :=
  let group := ResourceKind.auth.group
  let (outcome, stack) := AuthConstruct.create (assembly.stackSet.stackFor group) name properties
  (outcome.mapError (.ofConstruct .auth),
    { assembly with stackSet := assembly.stackSet.put group stack })

/-- The construct with its friendly name and its handlers. -/
def wireAuth (name : String) (triggers : List (TriggerEvent × Nat))
    (construct : AuthConstruct Nat) : Except BackendError (AuthConstruct Nat) := do
  let userPool ← (triggers.foldlM (fun (pool : UserPool Nat) trigger =>
    pool.addTrigger trigger.1.name trigger.2) construct.resources.userPool).mapError
      (.ofConstruct .auth)
  let resources := { construct.resources with userPool }
  return { construct with resources, tags := Tags.withFriendlyName construct.tags name }

/-- Publishes the identifier of the user pool and arbitrates the grants. -/
def grantAuth (name : String) (resources : AuthResources Nat)
    (grants : List (Grant Reference AuthAction)) : blueprint.Build (List IssuedPolicy) := do
  let entries ← modifyGet fun assembly =>
    assembly.publish [(name ++ "_USERPOOL_ID", resources.userPool.id)]
  (blueprint.arbiter name entries (AuthAction.statements resources.userPool.arn)).arbitrate grants

/-- Builds the auth resource. -/
def buildAuth (factory : Nat) (settings : AuthSettings Reference) :
    blueprint.Build Instance := do
  let name := settings.resolvedName
  let properties ← blueprint.settleAuth name settings
  let triggers ← blueprint.resolveTriggers settings
  let construct ← Program.act (createAuth name properties)
  let construct ← Program.ofExcept (wireAuth name triggers construct)
  modify fun assembly =>
    { assembly with outputs := assembly.outputs.store authOutputKey construct.output }
  settings.access.forM fun grants =>
    discard (blueprint.grantAuth name construct.resources grants)
  modify fun assembly =>
    let stackName := (assembly.stackSet.stackFor ResourceKind.auth.group).name
    { assembly with auths := assembly.auths.insert factory { construct, stackName } }
  return ⟨.auth, factory⟩

end CloudSynth.Blueprint
