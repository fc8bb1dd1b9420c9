import CloudSynth.Proofs.Auth.Consistency

/-!
# External providers

Whether users log in through external providers is found out four times: by the settings, by what
these are translated to, when the resources are registered, and when the outputs are written. Here
it is said once, by the list of the providers that are configured (`ExternalProviders.configured`),
and the four are compared with it.

Translation gives a domain as soon as there is a provider, so the check that asks for a domain never
refuses what has been translated (`AuthProperties.check_ne_domainMissing`).
-/

namespace CloudSynth

variable {φ : Type}

/-- An external provider as the user configures it. -/
inductive ConfiguredProvider
  | google (provider : SocialProvider)
  | facebook (provider : SocialProvider)
  | amazon (provider : SocialProvider)
  | apple (provider : AppleProvider)
  | oidc (provider : OidcProvider)
  | saml (provider : SamlProvider)

namespace ConfiguredProvider

def type : ConfiguredProvider → String
  | google _ => "Google"
  | facebook _ => "Facebook"
  | amazon _ => "LoginWithAmazon"
  | apple _ => "SignInWithApple"
  | oidc _ => "OIDC"
  | saml _ => "SAML"

/-- OpenID Connect and SAML providers are named by the user. -/
def name : ConfiguredProvider → String
  | oidc provider => provider.name
  | saml provider => provider.name
  | provider => provider.type

/-- The secrets that the user names, by attribute. -/
def secrets : ConfiguredProvider → List (String × Secret)
  | google provider | facebook provider | amazon provider =>
    [("client_id", provider.clientId), ("client_secret", provider.clientSecret)]
  | apple provider =>
    [("client_id", provider.clientId), ("key_id", provider.keyId),
     ("private_key", provider.privateKey), ("team_id", provider.teamId)]
  | oidc provider =>
    [("client_id", provider.clientId), ("client_secret", provider.clientSecret)]
  | saml _ => []

theorem nodup_attributes (provider : ConfiguredProvider) :
    (provider.secrets.map (·.1)).Nodup := by
  cases provider <;> simp [secrets]

end ConfiguredProvider

namespace ExternalProviders

/-- The four optional providers, the OpenID Connect providers, SAML. -/
def configured (external : ExternalProviders) : List ConfiguredProvider :=
  (external.google.map .google).toList ++
  (external.facebook.map .facebook).toList ++
  (external.amazon.map .amazon).toList ++
  (external.apple.map .apple).toList ++
  external.oidc.map .oidc ++
  (external.saml.map .saml).toList

variable {external : ExternalProviders} {identifier : BackendIdentifier}

theorem hasProviders_iff_configured : external.hasProviders = true ↔ external.configured ≠ [] := by
  have given : ∀ {α β : Type} (item : Option α) (change : α → β),
      (item.map change).toList = [] ↔ item.isSome = false := by
    intro α β item change
    cases item <;> simp
  simp only [hasProviders, configured, ne_eq, List.append_eq_nil_iff, given, List.map_eq_nil_iff,
    Bool.or_eq_true, Bool.not_eq_true', List.isEmpty_eq_false_iff]
  grind

/-! ## Translation -/

/-- What a provider is translated to. -/
structure Federates (identifier : BackendIdentifier) (provider : ConfiguredProvider)
    (federated : FederatedProvider) : Prop where
  type : federated.type = provider.type
  name : federated.name = provider.name
  /-- Each credential is read from the backend's parameter for the secret of its attribute. -/
  credentials : ∀ credential token, federated.credentials.find? credential = some token ↔
    ∃ secret, (credential, secret) ∈ provider.secrets ∧
      token = ⟨secret.name, "/amplify/" ++ identifier.parameterPath ++ "/" ++ secret.name⟩

theorem find?_credentials_iff {secrets : List (String × Secret)}
    (distinct : (secrets.map (·.1)).Nodup) {credential : String} {token : SecretToken} :
    (credentials identifier secrets).find? credential = some token ↔
      ∃ secret, (credential, secret) ∈ secrets ∧ token = identifier.secretToken secret := by
  have names : ((secrets.map fun pair => (pair.1, identifier.secretToken pair.2)).map
      (·.1)).Nodup := by
    rw [List.map_map]
    exact distinct
  constructor
  · intro found
    rcases Option.map_eq_some_iff.mp found with ⟨entry, entry_found, rfl⟩
    have named : entry.1 = credential := by simpa using List.find?_some entry_found
    have entry_mem := SortedMap.mem_of_mem_ofList (List.mem_of_find?_eq_some entry_found)
    rcases List.mem_map.mp entry_mem with ⟨⟨name, secret⟩, pair_mem, rfl⟩
    subst named
    exact ⟨secret, pair_mem, rfl⟩
  · rintro ⟨secret, pair_mem, rfl⟩
    exact SortedMap.find?_foldl_insert_of_mem Prod.fst Prod.snd names
      (List.mem_map.mpr ⟨(credential, secret), pair_mem, rfl⟩) _

theorem forall₂_federates (external : ExternalProviders) (identifier : BackendIdentifier) :
    List.Forall₂ (Federates identifier) external.configured
      (external.federatedProviders identifier) := by
  have ofSecrets : ∀ provider : ConfiguredProvider, ∀ credential token,
      (credentials identifier provider.secrets).find? credential = some token ↔
        ∃ secret, (credential, secret) ∈ provider.secrets ∧
          token = identifier.secretToken secret :=
    fun provider _ _ => find?_credentials_iff provider.nodup_attributes
  have optional : ∀ {α : Type} (item : Option α) (configure : α → ConfiguredProvider)
      (translate : α → FederatedProvider),
      (∀ provider, Federates identifier (configure provider) (translate provider)) →
        List.Forall₂ (Federates identifier) (item.map configure).toList
          (item.map translate).toList := by
    intro α item configure translate each
    cases item with
    | none => exact .nil
    | some provider => exact .cons (each provider) .nil
  have listed : List.Forall₂ (Federates identifier) (external.oidc.map .oidc)
      (external.oidc.map (oidcProvider identifier)) := by
    rw [List.forall₂_map_left_iff, List.forall₂_map_right_iff, List.forall₂_same]
    intro provider _
    exact ⟨rfl, rfl, ofSecrets (.oidc provider)⟩
  unfold configured federatedProviders
  refine List.rel_append (List.rel_append (List.rel_append (List.rel_append (List.rel_append
    (optional _ _ _ ?_) (optional _ _ _ ?_)) (optional _ _ _ ?_)) (optional _ _ _ ?_)) listed)
      (optional _ _ _ ?_)
  · exact fun provider => ⟨rfl, rfl, ofSecrets (.google provider)⟩
  · exact fun provider => ⟨rfl, rfl, ofSecrets (.facebook provider)⟩
  · exact fun provider => ⟨rfl, rfl, ofSecrets (.amazon provider)⟩
  · exact fun provider => ⟨rfl, rfl, ofSecrets (.apple provider)⟩
  · exact fun provider => ⟨rfl, rfl, ofSecrets (.saml provider)⟩

theorem map_federatedProviders {β : Type} {ofConfigured : ConfiguredProvider → β}
    {ofFederated : FederatedProvider → β}
    (same : ∀ provider federated, Federates identifier provider federated →
      ofFederated federated = ofConfigured provider) :
    (external.federatedProviders identifier).map ofFederated =
      external.configured.map ofConfigured := by
  rw [← List.forall₂_eq_eq_eq, List.forall₂_map_left_iff, List.forall₂_map_right_iff]
  exact (forall₂_federates external identifier).flip.imp fun federated provider federates =>
    same provider federated federates

theorem hasProviders_iff_federated :
    external.hasProviders = true ↔ (external.federation identifier).providers ≠ [] := by
  have length := (forall₂_federates external identifier).length_eq
  rw [hasProviders_iff_configured, ← List.length_pos_iff, length, List.length_pos_iff]
  exact Iff.rfl

theorem isSome_domainStart_iff :
    (external.federation identifier).domainStart.isSome = true ↔ external.hasProviders = true := by
  rw [@hasProviders_iff_federated external identifier]
  unfold federation
  dsimp only
  split
  · next none => simp [List.isEmpty_iff.mp none]
  · next some => simpa [List.isEmpty_iff] using some

end ExternalProviders

/-! ## Fields of outputs -/

namespace OutputEntry

variable {version key value : String} {fields others : List (String × String)}

theorem find?_ofFields_append (absent : key ∉ others.map (·.1)) :
    (ofFields version (fields ++ others)).payload.find? key =
      (ofFields version fields).payload.find? key := by
  simp only [ofFields, SortedMap.ofList, List.foldl_append]
  exact SortedMap.find?_foldl_insert_of_not_mem Prod.fst Prod.snd absent _

theorem find?_ofFields_append_of_mem (distinct : (others.map (·.1)).Nodup)
    (field_mem : (key, value) ∈ others) :
    (ofFields version (fields ++ others)).payload.find? key = some value := by
  simp only [ofFields, SortedMap.ofList, List.foldl_append]
  exact SortedMap.find?_foldl_insert_of_mem Prod.fst Prod.snd distinct field_mem _

theorem find?_ofFields_of_not_mem (absent : key ∉ fields.map (·.1)) :
    (ofFields version fields).payload.find? key = none := by
  rw [← List.nil_append fields, find?_ofFields_append absent]
  rfl

end OutputEntry

/-! ## The construct -/

namespace AuthProperties

variable {properties : AuthProperties φ} {identifier : BackendIdentifier}

/-- Translated providers come with a domain. -/
theorem avoids_domainMissing {external : Option ExternalProviders}
    (translated : properties.federation = external.map (·.federation identifier)) :
    properties.Avoids .domainMissing := by
  intro federation federated some
  rw [translated] at federated
  rcases Option.map_eq_some_iff.mp federated with ⟨external, _, rfl⟩
  rw [← Option.isSome_iff_ne_none, ExternalProviders.isSome_domainStart_iff]
  exact ExternalProviders.hasProviders_iff_federated.mpr some

theorem check_ne_domainMissing {external : Option ExternalProviders}
    (translated : properties.federation = external.map (·.federation identifier)) :
    properties.check ≠ .error .domainMissing := by
  intro failed
  rcases properties.check_eq_error_iff.mp failed with ⟨_, _, _, _, there⟩
  exact there (avoids_domainMissing translated)

/-! ## Resources -/

/-- Resources of these types are registered for external providers only. -/
theorem logicalIdsOf_federated {stack : Stack} {id : String}
    (registered : stack.resources = properties.registrations id) :
    stack.logicalIdsOf "AWS::Cognito::UserPoolIdentityProvider" =
        properties.providerNames.map (fun name => id ++ name ++ "IdP") ∧
      stack.logicalIdsOf "AWS::Cognito::UserPoolDomain" =
        if (properties.federation.bind (·.domainStart)).isSome then [id ++ "UserPoolDomain"]
        else [] := by
  have groups : ∀ resourceType ∈ ["AWS::Cognito::UserPoolIdentityProvider",
      "AWS::Cognito::UserPoolDomain"],
      (properties.groups.flatMap fun group =>
        ([⟨id ++ group ++ "Group", "AWS::Cognito::UserPoolGroup"⟩,
          ⟨id ++ group ++ "GroupRole", "AWS::IAM::Role"⟩] : List StackResource)).filter
            (·.resourceType = resourceType) = [] := by
    intro resourceType isFederated
    rw [List.filter_eq_nil_iff]
    intro resource resource_mem
    rcases List.mem_flatMap.mp resource_mem with ⟨group, _, there⟩
    rcases List.mem_pair.mp there with rfl | rfl <;>
      rcases List.mem_pair.mp isFederated with rfl | rfl <;> simp
  simp only [Stack.logicalIdsOf, registered, registrations, List.filter_append, providerNames]
  rw [groups _ (by simp), groups _ (by simp)]
  rcases properties.federation with _ | federation
  · simp
  · by_cases domain : federation.domainStart.isSome <;>
      simp [domain, List.filter_map, Function.comp_def]

/-! ## Outputs -/

theorem nodup_federationFields (federation : Federation) (region : String) :
    ((federationFields federation region).map (·.1)).Nodup := by
  unfold federationFields
  cases federation.domainStart <;> simp

/-- The fields of a user pool without external providers. -/
def plainFields (properties : AuthProperties φ) (stack : Stack) (resources : AuthResources φ) :
    List (String × String) :=
  let attributes := Json.encodeTexts properties.loginAttributes
  [("userPoolId", resources.userPool.id),
   ("webClientId", resources.clientId),
   ("identityPoolId", resources.identityPoolId),
   ("authRegion", stack.region),
   ("usernameAttributes", attributes),
   ("signupAttributes", attributes),
   ("verificationMechanisms", attributes),
   ("passwordPolicyMinLength", "8"),
   ("allowUnauthenticatedIdentities", "true")] ++
  properties.multifactorFields ++
  (if resources.groups.entries.isEmpty then []
    else [("groups", Json.encodeTexts resources.groups.keys)])

theorem not_mem_plainFields {properties : AuthProperties φ} {stack : Stack}
    {resources : AuthResources φ} {key : String}
    (federated : key ∈ ["socialProviders", "oauthCognitoDomain"]) :
    key ∉ (properties.plainFields stack resources).map (·.1) := by
  have apart : ∀ plain ∈ (properties.plainFields stack resources).map (·.1),
      plain ∉ ["socialProviders", "oauthCognitoDomain"] := by
    unfold plainFields multifactorFields
    cases properties.activeMultifactor? <;> by_cases none : resources.groups.entries.isEmpty <;>
      simp [none]
  exact fun there => apart key there federated

theorem output_of_plain {properties : AuthProperties φ} (plain : properties.federation = none)
    (stack : Stack) (resources : AuthResources φ) :
    properties.output stack resources =
      .ofFields "1" (properties.plainFields stack resources) := by
  simp [output, plainFields, plain]

theorem output_of_federated {properties : AuthProperties φ} {federation : Federation}
    (federated : properties.federation = some federation) (stack : Stack)
    (resources : AuthResources φ) :
    properties.output stack resources = .ofFields "1"
      (properties.plainFields stack resources ++ federationFields federation stack.region) := by
  simp [output, plainFields, federated]

/-- The outputs say which providers there are, and where users log in with them. -/
theorem find?_output (properties : AuthProperties φ) (stack : Stack)
    (resources : AuthResources φ) :
    (properties.output stack resources).payload.find? "socialProviders" =
        properties.federation.map (fun federation => Json.encodeTexts
          (federation.providers.map fun provider =>
            String.ofList (Text.upper provider.type.toList))) ∧
      (properties.output stack resources).payload.find? "oauthCognitoDomain" =
        (properties.federation.bind (·.domainStart)).map fun start =>
          start ++ ".auth." ++ stack.region ++ ".amazoncognito.com" := by
  cases federated : properties.federation with
  | none =>
      rw [output_of_plain federated]
      exact ⟨OutputEntry.find?_ofFields_of_not_mem (not_mem_plainFields (by simp)),
        OutputEntry.find?_ofFields_of_not_mem (not_mem_plainFields (by simp))⟩
  | some federation =>
      rw [output_of_federated federated]
      have distinct := nodup_federationFields federation stack.region
      have types : ("socialProviders", Json.encodeTexts (federation.providers.map fun provider =>
          String.ofList (Text.upper provider.type.toList))) ∈
            federationFields federation stack.region := by
        unfold federationFields
        exact List.mem_cons_self
      refine ⟨OutputEntry.find?_ofFields_append_of_mem distinct types, ?_⟩
      cases domain : federation.domainStart with
      | none =>
          have absent : "oauthCognitoDomain" ∉
              (federationFields federation stack.region).map (·.1) := by
            simp [federationFields, domain]
          rw [OutputEntry.find?_ofFields_append absent,
            OutputEntry.find?_ofFields_of_not_mem (not_mem_plainFields (by simp))]
          simp [domain]
      | some start =>
          have listed : ("oauthCognitoDomain", start ++ ".auth." ++ stack.region ++
              ".amazoncognito.com") ∈ federationFields federation stack.region := by
            simp [federationFields, domain]
          rw [OutputEntry.find?_ofFields_append_of_mem distinct listed]
          simp [domain]

end AuthProperties

end CloudSynth
