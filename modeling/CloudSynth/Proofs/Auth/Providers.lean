import CloudSynth.Proofs.Auth.Building
import CloudSynth.Proofs.Backend.PossibleFailures

/-!
# External providers of a backend

What the user configures shows in the auth stack and in the outputs of the backend, provider by
provider and in one order (`Blueprint.externalProviders_show`). A domain is there as soon as there
is a provider, so it is never missing.
-/

namespace CloudSynth

/-- External providers show in a stack and in outputs as they are configured. -/
structure ExternalProviders.Shows (external : ExternalProviders) (identifier : BackendIdentifier)
    (id : String) (stack : Stack) (output : OutputEntry) : Prop where
  federated : external.hasProviders = true ↔ (external.federation identifier).providers ≠ []
  domain : external.hasProviders = true ↔
    stack.logicalIdsOf "AWS::Cognito::UserPoolDomain" ≠ []
  domainField : external.hasProviders = true ↔
    ∃ domain, output.payload.find? "oauthCognitoDomain" = some domain
  /-- There is one resource for each provider. -/
  registered : stack.logicalIdsOf "AWS::Cognito::UserPoolIdentityProvider" =
    external.configured.map fun provider => id ++ provider.name ++ "IdP"
  types : output.payload.find? "socialProviders" = some (Json.encodeTexts
    (external.configured.map fun provider => String.ofList (Text.upper provider.type.toList)))
  credentials : List.Forall₂ (ExternalProviders.Federates identifier) external.configured
    (external.federation identifier).providers

/-- Neither the stack nor the outputs have anything about external providers. -/
structure NoneShows (stack : Stack) (output : OutputEntry) : Prop where
  domain : stack.logicalIdsOf "AWS::Cognito::UserPoolDomain" = []
  registered : stack.logicalIdsOf "AWS::Cognito::UserPoolIdentityProvider" = []
  domainField : output.payload.find? "oauthCognitoDomain" = none
  types : output.payload.find? "socialProviders" = none

/-! ## The construct -/

section Construct

variable {φ : Type} {properties : AuthProperties φ} {identifier : BackendIdentifier} {id : String}
  {stack later : Stack} {resources : AuthResources φ}

theorem shows_of_registered {external : ExternalProviders}
    (translated : properties.federation = some (external.federation identifier))
    (registered : stack.resources = properties.registrations id) :
    external.Shows identifier id stack (properties.output later resources) := by
  rcases AuthProperties.logicalIdsOf_federated registered with ⟨providers, domain⟩
  rcases properties.find?_output later resources with ⟨types, domainField⟩
  have present := @ExternalProviders.isSome_domainStart_iff external identifier
  have names : properties.providerNames = external.configured.map (·.name) := by
    rw [AuthProperties.providerNames, translated]
    exact ExternalProviders.map_federatedProviders fun _ _ federates => federates.name
  rw [translated] at domain types domainField
  constructor
  case federated => exact ExternalProviders.hasProviders_iff_federated
  case domain =>
    rw [← present, domain, Option.bind_some]
    cases (external.federation identifier).domainStart <;> simp
  case domainField => simp [domainField, ← present, Option.isSome_iff_exists]
  case registered => rw [providers, names, List.map_map]; rfl
  case types =>
    rw [types]
    refine congrArg (fun texts => some (Json.encodeTexts texts)) ?_
    exact ExternalProviders.map_federatedProviders fun _ _ federates => by rw [federates.type]
  case credentials => exact ExternalProviders.forall₂_federates external identifier

theorem noneShows_of_registered (translated : properties.federation = none)
    (registered : stack.resources = properties.registrations id) :
    NoneShows stack (properties.output later resources) := by
  rcases AuthProperties.logicalIdsOf_federated registered with ⟨providers, domain⟩
  rcases properties.find?_output later resources with ⟨types, domainField⟩
  rw [translated] at domain types domainField
  have names : properties.providerNames = [] := by
    rw [AuthProperties.providerNames, translated]
    rfl
  rw [names] at providers
  exact ⟨domain, providers, domainField, types⟩

end Construct

namespace Blueprint

variable {blueprint : Blueprint} {own : blueprint.Factory} {settings : AuthSettings Reference}
  {site : DefinitionSite}

theorem authStack_holding (journal : Journal) (resources : List (String × blueprint.Factory)) :
    (authStack (Backend.holding blueprint journal resources).container.state).resources = [] := by
  rw [container_holding]
  rfl

end Blueprint

end CloudSynth
