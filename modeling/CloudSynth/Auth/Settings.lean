import CloudSynth.Access.Grant
import CloudSynth.Auth.Action
import CloudSynth.Secret

/-!
# Auth settings

What users say about the auth resource: how people log in, second factors, who sends messages,
groups, handlers of events, and grants to other resources. Handlers and grantees are references of
some type `ρ`, so that the same settings serve before and after references are resolved.
-/

namespace CloudSynth

/-- A message in which a placeholder stands for the code or link. -/
structure MessageTemplate where
  render : String → String

/-- The template that puts the placeholder for every `$P` of a text. -/
def MessageTemplate.ofPattern (pattern : String) : MessageTemplate where
  render placeholder := String.ofList (substitute placeholder.toList pattern.toList)
where
  /-- Puts the placeholder for every `$P`. -/
  substitute (placeholder : List Char) : List Char → List Char
    | '$' :: 'P' :: rest => placeholder ++ substitute placeholder rest
    | character :: rest => character :: substitute placeholder rest
    | [] => []

/-- How a verification mail proves that the address is the user's. -/
inductive VerificationStyle
  | code
  | link
  deriving DecidableEq, Repr

namespace VerificationStyle

/-- The name in settings. -/
def name : VerificationStyle → String
  | code => "CODE"
  | link => "LINK"

/-- The style with the given name. -/
def ofName? (name : String) : Option VerificationStyle := [code, link].find? (·.name = name)

/-- The style where nothing is said. -/
def default : VerificationStyle := code

end VerificationStyle

/-- Login with a mail address. -/
structure EmailLogin where
  style : VerificationStyle
  subject : Option String
  body : Option MessageTemplate

/-- Login with a mail address, of which nothing else is said. -/
def EmailLogin.default : EmailLogin := ⟨.default, none, none⟩

/-- Login with a phone number. -/
structure PhoneLogin where
  message : Option MessageTemplate

/-- Login with a phone number, of which nothing else is said. -/
def PhoneLogin.default : PhoneLogin := ⟨none⟩

/-- A social provider with its client credentials. -/
structure SocialProvider where
  clientId : Secret
  clientSecret : Secret
  scopes : List String

/-- Sign in with Apple. -/
structure AppleProvider where
  clientId : Secret
  keyId : Secret
  privateKey : Secret
  teamId : Secret

/-- An OpenID Connect provider. -/
structure OidcProvider where
  name : String
  clientId : Secret
  clientSecret : Secret
  issuerUrl : String

/-- A SAML provider. -/
structure SamlProvider where
  name : String
  metadata : String

/-- Login through external providers. -/
structure ExternalProviders where
  google : Option SocialProvider
  facebook : Option SocialProvider
  amazon : Option SocialProvider
  apple : Option AppleProvider
  oidc : List OidcProvider
  saml : Option SamlProvider
  callbackUrls : List String
  logoutUrls : List String
  scopes : List String

/-- Some provider is configured. -/
def ExternalProviders.hasProviders (external : ExternalProviders) : Bool :=
  external.google.isSome || external.facebook.isSome || external.amazon.isSome ||
    external.apple.isSome || !external.oidc.isEmpty || external.saml.isSome

/-- How users log in. -/
structure LoginSettings where
  email : Option EmailLogin
  phone : Option PhoneLogin
  external : Option ExternalProviders

/-- Whether a second factor is asked for. -/
inductive MfaMode
  | off
  | optional
  | required
  deriving DecidableEq, Repr

namespace MfaMode

/-- The name in settings. -/
def name : MfaMode → String
  | off => "OFF"
  | optional => "OPTIONAL"
  | required => "REQUIRED"

/-- The mode with the given name. -/
def ofName? (name : String) : Option MfaMode := [off, optional, required].find? (·.name = name)

/-- The mode where nothing is said. -/
def default : MfaMode := off

/-- The name in outputs. -/
def outputName : MfaMode → String
  | off => "OFF"
  | optional => "OPTIONAL"
  | required => "ON"

end MfaMode

/-- The second factor by text message. -/
structure SmsFactor where
  message : Option MessageTemplate

/-- Second factors. -/
structure Multifactor where
  mode : MfaMode
  sms : Option SmsFactor
  totp : Bool

/-- A function that sends messages, and the key that codes are encrypted with. -/
structure CustomSender (φ : Type) where
  handler : φ
  keyArn : Option String

/-- A sender of mail. -/
inductive EmailSender (φ : Type)
  | ses (fromEmail : String) (fromName replyTo : Option String)
  | custom (sender : CustomSender φ)

/-- A sender of text messages. -/
inductive SmsSender (φ : Type)
  | sns (externalId callerArn region : Option String)
  | custom (sender : CustomSender φ)

/-- The function that sends mail. -/
def EmailSender.custom? {φ : Type} : EmailSender φ → Option (CustomSender φ)
  | .ses .. => none
  | .custom sender => some sender

/-- The function that sends text messages. -/
def SmsSender.custom? {φ : Type} : SmsSender φ → Option (CustomSender φ)
  | .sns .. => none
  | .custom sender => some sender

/-- Events in the life of a user that handlers may be called on. -/
inductive TriggerEvent
  | createAuthChallenge
  | customMessage
  | defineAuthChallenge
  | postAuthentication
  | postConfirmation
  | preAuthentication
  | preSignUp
  | preTokenGeneration
  | userMigration
  | verifyAuthChallengeResponse
  deriving DecidableEq, Repr

namespace TriggerEvent

/-- Every event in order. -/
def every : List TriggerEvent :=
  [createAuthChallenge, customMessage, defineAuthChallenge, postAuthentication, postConfirmation,
   preAuthentication, preSignUp, preTokenGeneration, userMigration, verifyAuthChallengeResponse]

/-- The place of the event in the order. -/
def rank (event : TriggerEvent) : Nat := every.idxOf event

/-- The name that the user pool has for the event. -/
def name : TriggerEvent → String
  | createAuthChallenge => "createAuthChallenge"
  | customMessage => "customMessage"
  | defineAuthChallenge => "defineAuthChallenge"
  | postAuthentication => "postAuthentication"
  | postConfirmation => "postConfirmation"
  | preAuthentication => "preAuthentication"
  | preSignUp => "preSignUp"
  | preTokenGeneration => "preTokenGeneration"
  | userMigration => "userMigration"
  | verifyAuthChallengeResponse => "verifyAuthChallengeResponse"

/-- The event with the given name. -/
def ofName? (name : String) : Option TriggerEvent := every.find? (·.name = name)

end TriggerEvent

/-- Handlers of events, at most one for each. -/
structure Triggers (ρ : Type) where
  handler? : TriggerEvent → Option ρ

namespace Triggers

variable {ρ : Type}

/-- No handlers. -/
def empty : Triggers ρ := ⟨fun _ => none⟩

/-- The handlers with another one for an event. -/
def set (triggers : Triggers ρ) (event : TriggerEvent) (handler : ρ) : Triggers ρ :=
  ⟨fun other => if other = event then some handler else triggers.handler? other⟩

/-- The events that have a handler, in their order. -/
def toList (triggers : Triggers ρ) : List (TriggerEvent × ρ) :=
  TriggerEvent.every.filterMap fun event =>
    (triggers.handler? event).map fun handler => (event, handler)

end Triggers

/-- What users say about the auth resource. -/
structure AuthSettings (ρ : Type) where
  name : Option String
  login : LoginSettings
  multifactor : Option Multifactor
  emailSender : Option (EmailSender ρ)
  smsSender : Option (SmsSender ρ)
  groups : List String
  triggers : Triggers ρ
  access : Option (List (Grant ρ AuthAction))

/-- The name of the auth resource where none is given. -/
def defaultAuthName : String := "amplifyAuth"

/-- The name of the auth resource. -/
def AuthSettings.resolvedName {ρ : Type} (settings : AuthSettings ρ) : String :=
  settings.name.getD defaultAuthName

end CloudSynth
