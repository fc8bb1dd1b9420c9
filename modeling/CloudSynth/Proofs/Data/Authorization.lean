import CloudSynth.Proofs.Data.Building

/-!
# Authorization of the data resource

Which modes are enabled is decided once, when the settings are settled, and told in several places:
by the modes themselves, by the key and the permission in the data stack, by the handle of the key
and by the outputs. That all the places tell the same of a resource that is built is
`Blueprint.built_authorization`; what settling comes to is in `AuthorizationSettings.settle_eq_error`
and `AuthorizationSettings.enables_iff`.
-/

namespace CloudSynth

/-! ## Outputs -/

/-- The outputs name the modes in order, and have a key if the construct has one. -/
theorem DataProperties.find?_output {φ : Type} (properties : DataProperties φ) (stack : Stack)
    (resources : DataResources φ) :
    let payload := (properties.output stack resources).payload
    payload.find? "awsAppsyncAuthenticationType" = some properties.modes.defaultMode.outputName ∧
      payload.find? "awsAppsyncAdditionalAuthenticationTypes" =
        (if properties.modes.additionalModes = [] then none
          else some (",".intercalate (properties.modes.additionalModes.map (·.outputName)))) ∧
      payload.find? "awsAppsyncApiKey" = resources.apiKey := by
  unfold output OutputEntry.ofFields SortedMap.ofList
  cases resources.apiKey <;> cases properties.modes.additionalModes <;>
    simp [SortedMap.find?_insert]

namespace Blueprint

variable {blueprint : Blueprint} {own : blueprint.Factory} {settings : DataSettings Reference}
  {site : DefinitionSite} {container after : BackendContainer}

/-! ## Places that tell the modes -/

/-- What is told of the authorization of a data resource: by its modes, by the data stack, by the
construct and by the outputs. -/
structure AuthorizationTold (own : blueprint.Factory) (settings : DataSettings Reference)
    (hasAuth : Bool) (assembly : Assembly) (modes : SettledModes) (construct : DataConstruct Nat) :
    Prop where
  settled : (settings.authorization.getD .unset).settle hasAuth = .ok modes
  apart : modes.defaultMode ∉ modes.additionalModes
  distinct : modes.additionalModes.Nodup
  iam : modes.enables .iam = true
  userPool : modes.enables .userPool = true ↔ hasAuth = true
  oidc : modes.enables .oidc = true ↔ (settings.authorization.getD .unset).oidc.isSome = true
  lambda : modes.enables .lambda = true ↔
    (settings.authorization.getD .unset).authorizer.isSome = true
  permission : modes.enables .lambda = true ↔
    ⟨settings.resolvedName ++ "LambdaAuthorizerPermission", "AWS::Lambda::Permission"⟩ ∈
      (dataStack assembly).resources
  key : modes.enables .apiKey = true ↔
    ⟨settings.resolvedName ++ "GraphQLAPIDefaultApiKey", "AWS::AppSync::ApiKey"⟩ ∈
      (dataStack assembly).resources
  handle : modes.enables .apiKey = true ↔ construct.resources.apiKey.isSome = true
  keyOutput : construct.output.payload.find? "awsAppsyncApiKey" = construct.resources.apiKey
  defaultOutput : construct.output.payload.find? "awsAppsyncAuthenticationType" =
    some modes.defaultMode.outputName
  additionalOutput : construct.output.payload.find? "awsAppsyncAdditionalAuthenticationTypes" =
    if modes.additionalModes = [] then none
    else some (",".intercalate (modes.additionalModes.map (·.outputName)))
  /-- If there is no other data resource, the outputs of the backend are those of the construct, and
  the stack has no other key and no other permission. -/
  sole : Sole own →
    assembly.outputs.find? graphqlOutputKey = some construct.output ∧
      (dataStack assembly).logicalIdsOf "AWS::AppSync::ApiKey" =
        (if modes.enables .apiKey = true then
          [settings.resolvedName ++ "GraphQLAPIDefaultApiKey"] else []) ∧
      (dataStack assembly).logicalIdsOf "AWS::Lambda::Permission" =
        (if modes.enables .lambda = true then
          [settings.resolvedName ++ "LambdaAuthorizerPermission"] else [])

theorem Produced.authorizationTold {properties : DataProperties Nat} {scope created : DataScope}
    {construct : DataConstruct Nat} (defined : blueprint.definition own = .data settings site)
    (produced : Produced own settings container after properties scope construct created)
    {built : DataConstruct Nat} (resources : built.resources = construct.resources)
    (output : built.output = construct.output) :
    AuthorizationTold own settings (blueprint.provider container.state).isSome after.state
      properties.modes built := by
  have settled := produced.settled.modes
  have enables : ∀ {mode : AuthorizationMode}, mode ≠ .apiKey →
      (properties.modes.enables mode = true ↔ (settings.authorization.getD .unset).isAvailable
        (blueprint.provider container.state).isSome mode = true) :=
    AuthorizationSettings.enables_iff settled
  have lambda : properties.modes.enables .lambda = true ↔
      (settings.authorization.getD .unset).authorizer.isSome = true := by
    rw [enables (by decide), AuthorizationSettings.isAvailable_iff]
  have permission : properties.authorizer.isSome = true ↔
      properties.modes.enables .lambda = true := by
    rw [produced.settled.authorizer, lambda]
  have key : properties.apiKeyDays.isSome = true ↔ properties.modes.enables .apiKey = true := by
    rw [produced.settled.apiKeyDays, AuthorizationSettings.apiKeyDays]
    split <;> simp [*]
  have permissionListed : ("AWS::Lambda::Permission", if properties.authorizer.isSome then
      [settings.resolvedName ++ "LambdaAuthorizerPermission"] else []) ∈
        properties.idsByType settings.resolvedName := by simp [DataProperties.idsByType]
  have keyListed : ("AWS::AppSync::ApiKey", if properties.apiKeyDays.isSome then
      [settings.resolvedName ++ "GraphQLAPIDefaultApiKey"] else []) ∈
        properties.idsByType settings.resolvedName := by simp [DataProperties.idsByType]
  have told := properties.find?_output created.stack construct.resources
  rw [← produced.completed.outputs] at told
  rcases told with ⟨defaultOutput, additionalOutput, keyOutput⟩
  rw [← output] at defaultOutput additionalOutput keyOutput
  rw [← resources] at keyOutput
  refine {
    settled, lambda, defaultOutput, additionalOutput, keyOutput
    apart := AuthorizationSettings.default_not_mem_additional settled
    distinct := AuthorizationSettings.nodup_additional settled
    iam := AuthorizationSettings.enables_iam settled
    userPool := by rw [enables (by decide), AuthorizationSettings.isAvailable_iff]
    oidc := by rw [enables (by decide), AuthorizationSettings.isAvailable_iff]
    permission := ?permission
    key := ?key
    handle := ?handle
    sole := ?sole }
  case permission =>
    rw [produced.mem_dataStack_iff (by decide), properties.mem_registrations_iff _ permissionListed,
      ← permission]
    simp
  case key =>
    rw [produced.mem_dataStack_iff (by decide), properties.mem_registrations_iff _ keyListed, ← key]
    simp
  case handle => rw [resources, produced.completed.key, key]
  case sole =>
    intro sole
    rw [produced.logicalIdsOf_of_sole defined sole keyListed,
      produced.logicalIdsOf_of_sole defined sole permissionListed, output]
    refine ⟨(produced.sole sole).2, ?_, ?_⟩ <;> simp only [key, permission]

/-- Where the modes cannot be settled the data resource is not built. -/
theorem Unbuilt.error_of_settle (unbuilt : Unbuilt container own)
    (defined : blueprint.definition own = .data settings site) {fault : DataFault}
    (refused : (settings.authorization.getD .unset).settle
      (blueprint.provider container.state).isSome = .error fault)
    {auth : Option (Nat × BuiltAuth)}
    (provided : (blueprint.catalogue.run (blueprint.providedAuth authResourcesToken)
      (started container own)).1 = .ok auth) :
    (blueprint.catalogue.run (blueprint.instanceOf own) container).1 = .error fault.toError := by
  apply unbuilt.error_of_body
  rcases ended : blueprint.catalogue.run (blueprint.providedAuth authResourcesToken)
    (started container own) with ⟨outcome, between⟩
  rw [ended] at provided
  cases provided
  have isSome := isSome_of_run_providedAuth ended
  change auth.isSome = (blueprint.provider container.state).isSome at isSome
  rw [← isSome] at refused
  rw [defined]
  simp only [build, buildData_eq_settle, settleData_eq, settleParts, bind_assoc]
  rw [Catalogue.run_bind blueprint.listed, ended]
  simp only [refused]
  rfl

end Blueprint

end CloudSynth
