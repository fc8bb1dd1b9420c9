import CloudSynth.Auth.Federation
import CloudSynth.Iam.Policy
import CloudSynth.Output
import CloudSynth.Stack
import CloudSynth.Tags
import CloudSynth.Text.Case
import CloudSynth.UserPool

/-!
# The auth construct

The construct checks its properties one after another, registers its resources in a stack and
computes the outputs. A construct that cannot register a resource leaves in the stack what it has
registered before. Functions that send messages are handlers of some type `φ`.
-/

namespace CloudSynth

/-- What the auth construct is made from. -/
structure AuthProperties (φ : Type) where
  email : Option EmailLogin
  phone : Option PhoneLogin
  federation : Option Federation
  multifactor : Option Multifactor
  emailSender : Option (EmailSender φ)
  smsSender : Option (SmsSender φ)
  groups : List String
  /-- Makes physical identifiers unique. -/
  suffix : String

/-- Why the properties are refused. -/
inductive AuthFault
  | loginMissing
  | emailCodeMissing
  | emailLinkMissing
  | phoneCodeMissing
  | smsFactorMissing
  | factorCodeMissing
  | callerIncomplete
  | keysDiffer
  | callbackUrlsMissing
  | domainMissing
  | logoutUrlsMissing
  deriving DecidableEq, Repr

namespace AuthFault

/-- What the user reads. -/
def message : AuthFault → String
  | loginMissing => "At least one of email or phone must be enabled."
  | emailCodeMissing =>
    "Invalid email settings. Property 'verificationEmailBody' must utilize the 'code' parameter " ++
      "at least once as a placeholder for the verification code."
  | emailLinkMissing =>
    "Invalid email settings. Property 'verificationEmailBody' must utilize the 'link' parameter " ++
      "at least once as a placeholder for the verification link."
  | phoneCodeMissing =>
    "Invalid phone settings. Property 'verificationMessage' must utilize the 'code' parameter " ++
      "at least once as a placeholder for the verification code."
  | smsFactorMissing =>
    "Invalid MFA settings. SMS must be enabled in multiFactor if loginWith phone is enabled"
  | factorCodeMissing =>
    "Invalid MFA settings. Property 'smsMessage' must utilize the 'code' parameter " ++
      "at least once as a placeholder for the verification code."
  | callerIncomplete =>
    "Both externalId and snsCallerArn are required when providing a custom IAM role. " ++
      "Ensure that your IAM role trust policy have an sts:ExternalId condition and is equal " ++
      "to the externalId value"
  | keysDiffer => "KMS key ARN must be the same for both email and sms senders"
  | callbackUrlsMissing =>
    "You must define callbackUrls when configuring external login providers."
  | domainMissing =>
    "Cognito Domain Prefix is missing when external providers are configured."
  | logoutUrlsMissing =>
    "You must define logoutUrls when configuring external login providers."

end AuthFault

/-! ## Checks -/

/-- What stands for a code in messages. -/
def codePlaceholder : String := "\x7b####\x7d"

/-- What stands for a link in messages. -/
def linkPlaceholder : String := "\x7b##Verify Email##\x7d"

/-- The text after the first occurrence of a pattern. -/
def afterFirst? (pattern : List Char) : List Char → Option (List Char)
  | [] => if pattern = [] then some [] else none
  | character :: rest =>
    if pattern.isPrefixOf (character :: rest) then
      some ((character :: rest).drop pattern.length)
    else afterFirst? pattern rest

/-- The pattern occurs in the text. -/
def occurs (pattern text : List Char) : Bool := (afterFirst? pattern text).isSome

/-- A link begins in the text and ends later, the two marks not sharing characters. -/
def hasLink (text : List Char) : Bool :=
  match afterFirst? "\x7b##".toList text with
  | some rest => occurs "##\x7d".toList rest
  | none => false

/-- The message says where the code goes. -/
def MessageTemplate.showsCode (template : MessageTemplate) : Bool :=
  occurs codePlaceholder.toList (template.render codePlaceholder).toList

/-- The message says where the link goes. -/
def MessageTemplate.showsLink (template : MessageTemplate) : Bool :=
  hasLink (template.render linkPlaceholder).toList

/-- A message that is given satisfies the condition. -/
def messageSatisfies (condition : MessageTemplate → Bool) : Option MessageTemplate → Bool
  | some template => condition template
  | none => true

namespace AuthProperties

variable {φ : Type}

/-- Refuses with a fault unless the condition holds. -/
def require (condition : Bool) (fault : AuthFault) : Except AuthFault Unit :=
  if condition then .ok () else .error fault

/-- Mail verification must show the code or the link, according to its style. -/
def checkEmail (email : EmailLogin) : Except AuthFault Unit :=
  match email.style with
  | .code => require (messageSatisfies (·.showsCode) email.body) .emailCodeMissing
  | .link => require (messageSatisfies (·.showsLink) email.body) .emailLinkMissing

/-- A second factor that is asked for must suit the login and show its code. -/
def checkMultifactor (multifactor : Multifactor) (phoneLogin : Bool) : Except AuthFault Unit :=
  if multifactor.mode = .off then .ok ()
  else do
    require (!phoneLogin || multifactor.sms.isSome) .smsFactorMissing
    require (messageSatisfies (·.showsCode) (multifactor.sms.bind (·.message))) .factorCodeMissing

/-- A caller for text messages needs both of its settings. -/
def checkCaller : Option (SmsSender φ) → Except AuthFault Unit
  | some (.sns externalId callerArn _) =>
    require (externalId.isSome == callerArn.isSome) .callerIncomplete
  | _ => .ok ()

/-- The key that a function encrypts codes with. -/
def emailKey? (properties : AuthProperties φ) : Option String :=
  (properties.emailSender.bind (·.custom?)).bind (·.keyArn)

/-- The key that a function encrypts codes with. -/
def smsKey? (properties : AuthProperties φ) : Option String :=
  (properties.smsSender.bind (·.custom?)).bind (·.keyArn)

/-- Two keys that are given are the same. -/
def checkKeys (properties : AuthProperties φ) : Except AuthFault Unit :=
  match properties.emailKey?, properties.smsKey? with
  | some emailKey, some smsKey => require (emailKey == smsKey) .keysDiffer
  | _, _ => .ok ()

/-- Providers need pages to come back to and a domain. -/
def checkFederation (federation : Federation) : Except AuthFault Unit :=
  if federation.providers.isEmpty then .ok ()
  else do
    require (!federation.callbackUrls.isEmpty) .callbackUrlsMissing
    require federation.domainStart.isSome .domainMissing
    require (!federation.logoutUrls.isEmpty) .logoutUrlsMissing

/-- All checks in order; the first that fails is reported. -/
def check (properties : AuthProperties φ) : Except AuthFault Unit := do
  require (properties.email.isSome || properties.phone.isSome) .loginMissing
  properties.email.forM checkEmail
  require (messageSatisfies (·.showsCode) (properties.phone.bind (·.message))) .phoneCodeMissing
  properties.multifactor.forM fun multifactor =>
    checkMultifactor multifactor properties.phone.isSome
  checkCaller properties.smsSender
  properties.checkKeys
  properties.federation.forM checkFederation

end AuthProperties

/-! ## Resources -/

/-- A group of users with the role that its members take. -/
structure UserGroup where
  name : String
  role : Role
  precedence : Nat

/-- The resources of a built auth construct. -/
structure AuthResources (φ : Type) where
  userPool : UserPool φ
  clientId : String
  identityPoolId : String
  authenticatedRole : Role
  unauthenticatedRole : Role
  groups : SortedMap UserGroup

/-- A built auth construct. -/
structure AuthConstruct (φ : Type) where
  id : String
  resources : AuthResources φ
  tags : Tags
  output : OutputEntry

namespace AuthProperties

variable {φ : Type}

/-- The resources that the construct registers, in order. -/
def registrations (properties : AuthProperties φ) (id : String) : List StackResource :=
  [⟨id ++ "UserPool", "AWS::Cognito::UserPool"⟩,
   ⟨id ++ "UserPoolAppClient", "AWS::Cognito::UserPoolClient"⟩,
   ⟨id ++ "IdentityPool", "AWS::Cognito::IdentityPool"⟩,
   ⟨id ++ "AuthenticatedUserRole", "AWS::IAM::Role"⟩,
   ⟨id ++ "UnauthenticatedUserRole", "AWS::IAM::Role"⟩] ++
  properties.groups.flatMap (fun group =>
    [⟨id ++ group ++ "Group", "AWS::Cognito::UserPoolGroup"⟩,
     ⟨id ++ group ++ "GroupRole", "AWS::IAM::Role"⟩]) ++
  (match properties.federation with
    | some federation =>
      federation.providers.map (fun provider =>
        ⟨id ++ provider.name ++ "IdP", "AWS::Cognito::UserPoolIdentityProvider"⟩) ++
      (if federation.domainStart.isSome then
        [⟨id ++ "UserPoolDomain", "AWS::Cognito::UserPoolDomain"⟩] else [])
    | none => [])

/-- The part of the suffix that physical identifiers carry. -/
def shortSuffix (properties : AuthProperties φ) : String :=
  String.ofList (properties.suffix.toList.take 9)

/-- A role of the construct. -/
def role (stack : Stack) (name : String) : Role := .new name (stack.arn "iam" ("role/" ++ name))

/-- The groups with their roles; the first group takes precedence. -/
def userGroups (properties : AuthProperties φ) (stack : Stack) (id : String) :
    SortedMap UserGroup :=
  SortedMap.ofList (properties.groups.zipIdx.map fun pair =>
    (pair.1, ⟨pair.1, role stack (id ++ pair.1 ++ "GroupRole"), pair.2⟩))

/-- Attaches a function that sends messages and takes over its key. -/
def attachSender (event : String) (sender : Option (CustomSender φ)) (pool : UserPool φ) :
    Except ConstructError (UserPool φ) :=
  match sender with
  | some sender => (pool.addTrigger event sender.handler).map (·.withKey sender.keyArn)
  | none => .ok pool

/-- The user pool with the functions that send messages. -/
def userPool (properties : AuthProperties φ) (stack : Stack) :
    Except ConstructError (UserPool φ) := do
  let poolId := stack.region ++ "_" ++ properties.shortSuffix
  let pool := UserPool.new poolId (stack.arn "cognito-idp" ("userpool/" ++ poolId))
  let pool ← attachSender "customEmailSender" (properties.emailSender.bind (·.custom?)) pool
  attachSender "customSmsSender" (properties.smsSender.bind (·.custom?)) pool

/-- The attributes that users log in with. -/
def loginAttributes (properties : AuthProperties φ) : List String :=
  (if properties.email.isSome then ["email"] else []) ++
  (if properties.phone.isSome then ["phone_number"] else [])

/-- The second factors, if any is asked for. -/
def activeMultifactor? (properties : AuthProperties φ) : Option Multifactor :=
  properties.multifactor.filter (·.mode ≠ .off)

/-- The outputs about second factors. -/
def multifactorFields (properties : AuthProperties φ) : List (String × String) :=
  match properties.activeMultifactor? with
  | none => [("mfaConfiguration", MfaMode.off.outputName)]
  | some multifactor =>
    [("mfaConfiguration", multifactor.mode.outputName),
     ("mfaTypes", Json.encodeTexts
       ((if multifactor.sms.isSome then ["SMS"] else []) ++
        (if multifactor.totp then ["TOTP"] else [])))]

/-- The outputs about external providers. -/
def federationFields (federation : Federation) (region : String) : List (String × String) :=
  [("socialProviders", Json.encodeTexts (federation.providers.map fun provider =>
      String.ofList (Text.upper provider.type.toList))),
   ("oauthScope", Json.encodeTexts federation.scopes),
   ("oauthRedirectSignIn", ",".intercalate federation.callbackUrls),
   ("oauthRedirectSignOut", ",".intercalate federation.logoutUrls),
   ("oauthResponseType", "code")] ++
  (match federation.domainStart with
    | some start =>
      [("oauthCognitoDomain", start ++ ".auth." ++ region ++ ".amazoncognito.com")]
    | none => [])

/-- The outputs of the construct. -/
def output (properties : AuthProperties φ) (stack : Stack) (resources : AuthResources φ) :
    OutputEntry :=
  let attributes := Json.encodeTexts properties.loginAttributes
  .ofFields "1" <|
    [("userPoolId", resources.userPool.id),
     ("webClientId", resources.clientId),
     ("identityPoolId", resources.identityPoolId),
     ("authRegion", stack.region),
     ("usernameAttributes", attributes),
     ("signupAttributes", attributes),
     ("verificationMechanisms", attributes),
     ("passwordPolicyMinLength", "8"),
     ("allowUnauthenticatedIdentities", "true")] ++
    properties.multifactorFields ++
    (if resources.groups.entries.isEmpty then []
      else [("groups", Json.encodeTexts resources.groups.keys)]) ++
    (match properties.federation with
      | some federation => federationFields federation stack.region
      | none => [])

end AuthProperties

namespace AuthConstruct

variable {φ : Type}

/-- The construct, once its resources are registered. -/
def assemble (stack : Stack) (id : String) (properties : AuthProperties φ) :
    Except ConstructError (AuthConstruct φ) := do
  let userPool ← properties.userPool stack
  let resources : AuthResources φ :=
    { userPool
      clientId := properties.shortSuffix ++ "client"
      identityPoolId := stack.region ++ ":" ++ properties.shortSuffix
      authenticatedRole := AuthProperties.role stack (id ++ "AuthenticatedUserRole")
      unauthenticatedRole := AuthProperties.role stack (id ++ "UnauthenticatedUserRole")
      groups := properties.userGroups stack id }
  return { id, resources, tags := {}, output := properties.output stack resources }

/-- Builds the construct in a stack; the stack keeps what was registered, even on failure. -/
def create (stack : Stack) (id : String) (properties : AuthProperties φ) :
    Except ConstructError (AuthConstruct φ) × Stack :=
  match properties.check with
  | .error fault => (.error (.invalidProps fault.message), stack)
  | .ok () =>
    match stack.addAll (properties.registrations id) with
    | (.error failure, stack) => (.error failure, stack)
    | (.ok (), stack) => (assemble stack id properties, stack)

end AuthConstruct

end CloudSynth
