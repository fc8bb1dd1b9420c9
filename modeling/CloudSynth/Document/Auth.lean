import CloudSynth.Auth.Construct
import CloudSynth.Document.Access

/-!
# Documents about auth

The settings of an auth resource, and the properties of an auth construct. Handlers and grantees are
read by a reader of references that is passed on.
-/

namespace CloudSynth

/-- A message template, if it is there. -/
def MessageTemplate.ofDocument? (value : Json) (name : String) : Option MessageTemplate :=
  (value.text? name).map ofPattern

/-- Login with a mail address. -/
def EmailLogin.ofDocument (value : Json) : Reading EmailLogin := do
  let style ← value.choice? "style" VerificationStyle.ofName?
  return {
    style := style.getD .default
    subject := value.text? "subject"
    body := MessageTemplate.ofDocument? value "body" }

/-- Login with a phone number. -/
def PhoneLogin.ofDocument (value : Json) : PhoneLogin :=
  ⟨MessageTemplate.ofDocument? value "message"⟩

/-- A secret by its name. -/
def Secret.ofDocument (value : Json) (name : String) : Secret := ⟨value.textOf name⟩

/-- A social provider. -/
def SocialProvider.ofDocument (value : Json) : SocialProvider where
  clientId := .ofDocument value "clientId"
  clientSecret := .ofDocument value "clientSecret"
  scopes := value.textsOf "scopes"

/-- Sign in with Apple. -/
def AppleProvider.ofDocument (value : Json) : AppleProvider where
  clientId := .ofDocument value "clientId"
  keyId := .ofDocument value "keyId"
  privateKey := .ofDocument value "privateKey"
  teamId := .ofDocument value "teamId"

/-- An OpenID Connect provider. -/
def OidcProvider.ofDocument (value : Json) : OidcProvider where
  name := value.textOf "name"
  clientId := .ofDocument value "clientId"
  clientSecret := .ofDocument value "clientSecret"
  issuerUrl := value.textOf "issuerUrl"

/-- Login through external providers. -/
def ExternalProviders.ofDocument (value : Json) : ExternalProviders where
  google := (value.given? "google").map .ofDocument
  facebook := (value.given? "facebook").map .ofDocument
  amazon := (value.given? "loginWithAmazon").map .ofDocument
  apple := (value.given? "signInWithApple").map .ofDocument
  oidc := (value.itemsOf "oidc").map .ofDocument
  saml := (value.given? "saml").map fun saml =>
    ⟨saml.textOf "name", saml.textOf "metadataContent"⟩
  callbackUrls := value.textsOf "callbackUrls"
  logoutUrls := value.textsOf "logoutUrls"
  scopes := value.textsOf "scopes"

/-- How users log in: the name of a way of which nothing else is said, or all ways. -/
def LoginSettings.ofDocument : Json → Reading LoginSettings
  | .text "email" => .ok ⟨some .default, none, none⟩
  | .text "phone" => .ok ⟨none, some .default, none⟩
  | value => do
    let email ← value.readOptional "email" EmailLogin.ofDocument
    return {
      email
      phone := (value.given? "phone").map .ofDocument
      external := (value.given? "externalProviders").map .ofDocument }

/-- Second factors. -/
def Multifactor.ofDocument (value : Json) : Reading Multifactor := do
  let mode ← value.choice? "mode" MfaMode.ofName?
  return {
    mode := mode.getD .default
    sms := (value.given? "sms").map fun sms => ⟨MessageTemplate.ofDocument? sms "message"⟩
    totp := value.flagOf "totp" }

/-! ## Senders -/

variable {φ : Type}

/-- A function that sends messages. -/
def CustomSender.ofDocument (handler : Json → φ) (value : Json) : CustomSender φ where
  handler := handler (value.entry "handler")
  keyArn := value.text? "kmsKeyArn"

/-- The sender of mail, if one of the two kinds is given. -/
def EmailSender.ofDocument? (handler : Json → φ) (value : Json) : Option (EmailSender φ) :=
  match value.given? "ses", value.given? "custom" with
  | some service, _ =>
    some (.ses (service.textOf "fromEmail") (service.text? "fromName") (service.text? "replyTo"))
  | none, some function => some (.custom (.ofDocument handler function))
  | none, none => none

/-- The sender of text messages, if one of the two kinds is given. -/
def SmsSender.ofDocument? (handler : Json → φ) (value : Json) : Option (SmsSender φ) :=
  match value.given? "sns", value.given? "custom" with
  | some service, _ =>
    some (.sns (service.text? "externalId") (service.text? "snsCallerArn")
      (service.text? "snsRegion"))
  | none, some function => some (.custom (.ofDocument handler function))
  | none, none => none

/-- Handlers of events; of two handlers of one event the later counts. -/
def Triggers.ofDocument {ρ : Type} (reference : Json → ρ) (values : List Json) :
    Reading (Triggers ρ) :=
  values.foldlM (fun (triggers : Triggers ρ) pair => do
    let event ← (pair.item 0).choice TriggerEvent.ofName?
    return triggers.set event (reference (pair.item 1))) Triggers.empty

/-! ## Settings and properties -/

/-- The settings of an auth resource. -/
def AuthSettings.ofDocument {ρ : Type} (reference : Json → ρ) (value : Json) :
    Reading (AuthSettings ρ) := do
  let login ← LoginSettings.ofDocument (value.entry "loginWith")
  let multifactor ← value.readOptional "multifactor" Multifactor.ofDocument
  let triggers ← Triggers.ofDocument reference (value.itemsOf "triggers")
  let access ← Grant.listOfDocument? reference (·.mapM AuthAction.ofDocument) value
  let senders := value.entry "senders"
  return {
    name := value.text? "name"
    login, multifactor
    emailSender := (senders.given? "email").bind (EmailSender.ofDocument? reference)
    smsSender := (senders.given? "sms").bind (SmsSender.ofDocument? reference)
    groups := value.textsOf "groups"
    triggers, access }

/-- External providers by type and name, without credentials. -/
def Federation.ofDocument (value : Json) : Federation where
  providers := (value.textPairsOf "providers").map fun pair => ⟨pair.1, pair.2, {}⟩
  callbackUrls := value.textsOf "callbackUrls"
  logoutUrls := value.textsOf "logoutUrls"
  scopes := value.textsOf "scopes"
  domainStart := value.text? "domainPrefix"

/-- The properties of an auth construct. -/
def AuthProperties.ofDocument (handler : Json → φ) (value : Json) :
    Reading (AuthProperties φ) := do
  let login ← LoginSettings.ofDocument (value.entry "loginWith")
  let multifactor ← value.readOptional "multifactor" Multifactor.ofDocument
  let senders := value.entry "senders"
  return {
    email := login.email
    phone := login.phone
    federation := (value.given? "external").map .ofDocument
    multifactor
    emailSender := (senders.given? "email").bind (EmailSender.ofDocument? handler)
    smsSender := (senders.given? "sms").bind (SmsSender.ofDocument? handler)
    groups := value.textsOf "groups"
    suffix := value.textOf "suffix" }

end CloudSynth
