import CloudSynth.Auth.Settings

/-!
# Federation

External providers with their credentials replaced by tokens, in the order in which they are
registered: the four optional ones, the OpenID Connect providers, SAML. As soon as there is a
provider, users are sent to a page whose domain begins with the backend's stable hash.
-/

namespace CloudSynth

/-- An external provider with the tokens of its credentials. -/
structure FederatedProvider where
  type : String
  name : String
  credentials : SortedMap SecretToken

/-- The external providers of a user pool. -/
structure Federation where
  providers : List FederatedProvider
  callbackUrls : List String
  logoutUrls : List String
  scopes : List String
  domainStart : Option String

namespace ExternalProviders

/-- The tokens of named secrets. -/
def credentials (identifier : BackendIdentifier) (secrets : List (String × Secret)) :
    SortedMap SecretToken :=
  SortedMap.ofList (secrets.map fun pair => (pair.1, identifier.secretToken pair.2))

/-- A social provider. -/
def socialProvider (identifier : BackendIdentifier) (type : String) (provider : SocialProvider) :
    FederatedProvider where
  type := type
  name := type
  credentials := credentials identifier
    [("client_id", provider.clientId), ("client_secret", provider.clientSecret)]

/-- Sign in with Apple. -/
def appleProvider (identifier : BackendIdentifier) (provider : AppleProvider) :
    FederatedProvider where
  type := "SignInWithApple"
  name := "SignInWithApple"
  credentials := credentials identifier
    [("client_id", provider.clientId), ("key_id", provider.keyId),
     ("private_key", provider.privateKey), ("team_id", provider.teamId)]

/-- An OpenID Connect provider. -/
def oidcProvider (identifier : BackendIdentifier) (provider : OidcProvider) :
    FederatedProvider where
  type := "OIDC"
  name := provider.name
  credentials := credentials identifier
    [("client_id", provider.clientId), ("client_secret", provider.clientSecret)]

/-- A SAML provider; it has no credentials. -/
def samlProvider (provider : SamlProvider) : FederatedProvider where
  type := "SAML"
  name := provider.name
  credentials := {}

/-- All configured providers. -/
def federatedProviders (external : ExternalProviders) (identifier : BackendIdentifier) :
    List FederatedProvider :=
  (external.google.map (socialProvider identifier "Google")).toList ++
  (external.facebook.map (socialProvider identifier "Facebook")).toList ++
  (external.amazon.map (socialProvider identifier "LoginWithAmazon")).toList ++
  (external.apple.map (appleProvider identifier)).toList ++
  external.oidc.map (oidcProvider identifier) ++
  (external.saml.map samlProvider).toList

/-- The federation of the backend's user pool. -/
def federation (external : ExternalProviders) (identifier : BackendIdentifier) : Federation :=
  let providers := external.federatedProviders identifier
  { providers
    callbackUrls := external.callbackUrls
    logoutUrls := external.logoutUrls
    scopes := external.scopes
    domainStart := if providers.isEmpty then none else some identifier.stableHash }

end ExternalProviders

end CloudSynth
