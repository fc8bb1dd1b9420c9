import CloudSynth.Auth.Construct
import CloudSynth.Report.Basic

/-!
# Reports on auth

Built auth constructs, and the properties that they are built from. Handlers are shown as the
functions that they stand for.
-/

namespace CloudSynth

variable {φ : Type} (lambdaOf : φ → Lambda)

/-- A group of users under its key. -/
def UserGroup.report (key : String) (group : UserGroup) : Json :=
  .record [("key", .text key), ("name", .text group.name), ("role", group.role.report),
    ("precedence", .natural group.precedence)]

/-- The resources of an auth construct. -/
def AuthResources.report (resources : AuthResources φ) : Json :=
  .record [("userPool", resources.userPool.report lambdaOf),
    ("userPoolClientId", .text resources.clientId),
    ("identityPoolId", .text resources.identityPoolId),
    ("authenticatedRole", resources.authenticatedRole.report),
    ("unauthenticatedRole", resources.unauthenticatedRole.report),
    ("groups", .list (resources.groups.entries.map fun entry => entry.2.report entry.1))]

/-- An auth construct. -/
def AuthConstruct.report (construct : AuthConstruct φ) : Json :=
  .record ([("id", .text construct.id), ("resources", construct.resources.report lambdaOf),
    ("output", construct.output.report)] ++ Tags.fields construct.tags)

/-! ## Properties -/

/-- What stands for a code or link in a message that is shown. -/
def shownPlaceholder : String := "<P>"

/-- A message that is shown. -/
def MessageTemplate.report (template : Option MessageTemplate) : Json :=
  .optionalText (template.map fun template => template.render shownPlaceholder)

/-- Login with a mail address. -/
def EmailLogin.report (login : EmailLogin) : Json :=
  .record [("style", .text login.style.name), ("subject", .optionalText login.subject),
    ("body", MessageTemplate.report login.body)]

/-- Login with a phone number. -/
def PhoneLogin.report (login : PhoneLogin) : Json :=
  .record [("message", MessageTemplate.report login.message)]

/-- A provider with its credentials: attribute, secret, path and token. -/
def FederatedProvider.report (provider : FederatedProvider) : Json :=
  .record [("type", .text provider.type), ("name", .text provider.name),
    ("credentials", .list (provider.credentials.entries.map fun entry =>
      .texts [entry.1, entry.2.secretName, entry.2.parameterPath, entry.2.print]))]

/-- External providers. -/
def Federation.report (federation : Federation) : Json :=
  .record [("providers", .list (federation.providers.map FederatedProvider.report)),
    ("callbackUrls", .texts federation.callbackUrls),
    ("logoutUrls", .texts federation.logoutUrls), ("scopes", .texts federation.scopes),
    ("domainPrefix", .optionalText federation.domainStart)]

/-- Second factors. -/
def Multifactor.report (multifactor : Multifactor) : Json :=
  .record [("mode", .text multifactor.mode.name), ("sms", .boolean multifactor.sms.isSome),
    ("totp", .boolean multifactor.totp)]

/-- A function that sends messages. -/
def CustomSender.report (sender : CustomSender φ) : Json :=
  .record [("custom", .record [("handler", .text (lambdaOf sender.handler).name),
    ("kmsKeyArn", .optionalText sender.keyArn)])]

/-- A sender of mail. -/
def EmailSender.report : EmailSender φ → Json
  | .ses fromEmail fromName replyTo =>
    .record [("ses", .list [.text fromEmail, .optionalText fromName, .optionalText replyTo])]
  | .custom sender => sender.report lambdaOf

/-- A sender of text messages. -/
def SmsSender.report : SmsSender φ → Json
  | .sns externalId callerArn region => .record [("sns",
      .list [.optionalText externalId, .optionalText callerArn, .optionalText region])]
  | .custom sender => sender.report lambdaOf

/-- The properties of an auth construct. -/
def AuthProperties.report (properties : AuthProperties φ) : Json :=
  .record [("email", .optional EmailLogin.report properties.email),
    ("phone", .optional PhoneLogin.report properties.phone),
    ("external", .optional Federation.report properties.federation),
    ("multifactor", .optional Multifactor.report properties.multifactor),
    ("emailSender", .optional (EmailSender.report lambdaOf) properties.emailSender),
    ("smsSender", .optional (SmsSender.report lambdaOf) properties.smsSender),
    ("groups", .texts properties.groups), ("suffix", .text properties.suffix)]

end CloudSynth
