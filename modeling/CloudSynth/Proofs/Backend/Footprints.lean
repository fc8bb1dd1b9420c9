import CloudSynth.Proofs.Backend.Singletons

/-!
# What building a resource may change

The body of a generator asks for instances, reads the state, and changes it in steps. All its steps
keep to its own stack, its own output and its own user pool (`Blueprint.Footprint`), nothing that is
registered is ever removed, and what the data stack gains a data construct registers. This holds of
functions, auth and data alike (`Blueprint.composed_build`).
-/

namespace CloudSynth

/-- The key of the output entry of a resource. -/
def ResourceKind.outputKey : ResourceKind → String
  | function => functionOutputKey
  | stub => functionOutputKey
  | auth => authOutputKey
  | data => graphqlOutputKey

/-- The identifier of the user pool. -/
def BuiltAuth.poolId (built : BuiltAuth) : String := built.construct.resources.userPool.id

/-! ## Constructs -/

/-- Properties that are refused change nothing; otherwise the resources are registered. -/
theorem AuthConstruct.create_cases {φ : Type} (id : String) (properties : AuthProperties φ) :
    (properties.check ≠ .ok () ∧
        ∃ fault, ∀ stack, AuthConstruct.create stack id properties = (.error fault, stack)) ∨
      properties.check = .ok () ∧ ∀ stack,
        (AuthConstruct.create stack id properties).2 =
            (stack.addAll (properties.registrations id)).2 ∧
          ∀ failure after, stack.addAll (properties.registrations id) = (.error failure, after) →
            AuthConstruct.create stack id properties = (.error failure, after) := by
  unfold create
  cases properties.check with
  | error fault => exact Or.inl ⟨nofun, _, fun stack => rfl⟩
  | ok =>
      refine Or.inr ⟨rfl, fun stack => ?_⟩
      rcases stack.addAll (properties.registrations id) with ⟨failure | _, after⟩
      · exact ⟨rfl, fun _ _ same => by cases same; rfl⟩
      · exact ⟨rfl, fun _ _ other => nomatch other⟩

/-- Properties that are refused change nothing; otherwise the resources are registered, and roles
gain policies only once all of them are. -/
theorem DataConstruct.create_cases {φ : Type} (id : String) (properties : DataProperties φ) :
    (properties.check ≠ .ok () ∧
        ∃ fault, ∀ scope, DataConstruct.create scope id properties = (.error fault, scope)) ∨
      properties.check = .ok () ∧ ∀ scope,
        (DataConstruct.create scope id properties).2.stack =
            (scope.stack.addAll (properties.registrations id)).2 ∧
          ∀ failure after, scope.stack.addAll (properties.registrations id) =
              (.error failure, after) →
            DataConstruct.create scope id properties =
              (.error failure, { scope with stack := after }) := by
  unfold create
  cases properties.check with
  | error fault => exact Or.inl ⟨nofun, _, fun scope => rfl⟩
  | ok =>
      refine Or.inr ⟨rfl, fun scope => ?_⟩
      rcases scope.stack.addAll (properties.registrations id) with ⟨failure | _, stack⟩
      · exact ⟨rfl, fun _ _ same => by cases same; rfl⟩
      · refine ⟨?_, fun _ _ other => nomatch other⟩
        dsimp only
        split <;> rfl

theorem AuthConstruct.has_create {φ : Type} {stack : Stack} {logicalId : String} (id : String)
    (properties : AuthProperties φ) (there : stack.has logicalId = true) :
    (AuthConstruct.create stack id properties).2.has logicalId = true := by
  rcases AuthConstruct.create_cases id properties with ⟨_, fault, refused⟩ | ⟨_, registers⟩
  · rw [refused]
    exact there
  · rw [(registers stack).1]
    exact Stack.has_addAll there _

theorem DataConstruct.has_create {φ : Type} (scope : DataScope) {logicalId : String} (id : String)
    (properties : DataProperties φ) (there : scope.stack.has logicalId = true) :
    (DataConstruct.create scope id properties).2.stack.has logicalId = true := by
  rcases DataConstruct.create_cases id properties with ⟨_, fault, refused⟩ | ⟨_, registers⟩
  · rw [refused]
    exact there
  · rw [(registers scope).1]
    exact Stack.has_addAll there _

namespace Blueprint

variable {blueprint : Blueprint} {α β : Type} {kind : ResourceKind} {number : Nat}

/-! ## Steps -/

/-- What a step may change that builds a resource of a kind, by the number of its factory. -/
structure Footprint (blueprint : Blueprint) (kind : ResourceKind) (number : Nat)
    (before after : Assembly) : Prop where
  providers : after.providers = before.providers
  identifier : after.parameters.identifier = before.parameters.identifier
  stackFor : ∀ group, group ≠ kind.group →
    after.stackSet.stackFor group = before.stackSet.stackFor group
  /-- Nothing that is registered is removed. -/
  registered : ∀ logicalId, (before.stackSet.stackFor kind.group).has logicalId = true →
    (after.stackSet.stackFor kind.group).has logicalId = true
  outputs : ∀ key, key ≠ kind.outputKey → after.outputs.find? key = before.outputs.find? key
  /-- Only the body of a function adds functions. -/
  functions : handles kind = false → after.functions.keys = before.functions.keys
  names : handles kind = false → ∀ factory,
    (after.functions.find? factory).map BuiltFunction.name =
      (before.functions.find? factory).map BuiltFunction.name
  pools : ∀ other, other ≠ number →
    (after.auths.find? other).map BuiltAuth.poolId =
      (before.auths.find? other).map BuiltAuth.poolId
  /-- The data stack stays, or it gains what a data construct registers under its own name. -/
  registers : kind = .data →
    after.stackSet.stackFor kind.group = before.stackSet.stackFor kind.group ∨
      ∃ properties : DataProperties Nat, after.stackSet.stackFor kind.group =
        ((before.stackSet.stackFor kind.group).addAll
          (properties.registrations (blueprint.resourceName number))).2

theorem footprint_of_same {before after : Assembly} (providers : after.providers = before.providers)
    (identifier : after.parameters.identifier = before.parameters.identifier)
    (stackSet : after.stackSet = before.stackSet) (outputs : after.outputs = before.outputs)
    (functions : after.functions.keys = before.functions.keys)
    (names : ∀ factory, (after.functions.find? factory).map BuiltFunction.name =
      (before.functions.find? factory).map BuiltFunction.name)
    (pools : ∀ other, other ≠ number → (after.auths.find? other).map BuiltAuth.poolId =
      (before.auths.find? other).map BuiltAuth.poolId) :
    blueprint.Footprint kind number before after where
  providers := providers
  identifier := identifier
  stackFor group _ := by rw [stackSet]
  registered logicalId there := by rw [stackSet]; exact there
  outputs key _ := by rw [outputs]
  functions _ := functions
  names _ := names
  pools := pools
  registers _ := Or.inl (by rw [stackSet])

theorem footprint_put (assembly : Assembly) {stack : Stack}
    (registered : ∀ logicalId,
      (assembly.stackSet.stackFor kind.group).has logicalId = true → stack.has logicalId = true)
    (registers : kind = .data → stack = assembly.stackSet.stackFor kind.group ∨
      ∃ properties : DataProperties Nat, stack =
        ((assembly.stackSet.stackFor kind.group).addAll
          (properties.registrations (blueprint.resourceName number))).2) :
    blueprint.Footprint kind number assembly
      { assembly with stackSet := assembly.stackSet.put kind.group stack } where
  providers := rfl
  identifier := rfl
  stackFor group other := by rw [StackSet.stackFor_put, if_neg other.symm]
  registered logicalId there := by
    rw [StackSet.stackFor_put_self]
    exact registered logicalId there
  outputs _ _ := rfl
  functions _ := rfl
  names _ _ := rfl
  pools _ _ := rfl
  registers isData := by
    rw [StackSet.stackFor_put_self]
    exact registers isData

theorem footprint_store (assembly : Assembly) (entry : OutputEntry) :
    blueprint.Footprint kind number assembly
      { assembly with outputs := assembly.outputs.store kind.outputKey entry } where
  providers := rfl
  identifier := rfl
  stackFor _ _ := rfl
  registered _ there := there
  outputs key other := by rw [OutputStorage.find?_store, if_neg other.symm]
  functions _ := rfl
  names _ _ := rfl
  pools _ _ := rfl
  registers _ := Or.inl rfl

theorem pools_changeAuth (assembly : Assembly) (factory : Nat)
    {change : AuthResources Nat → AuthResources Nat}
    (same : ∀ resources, (change resources).userPool.id = resources.userPool.id) (other : Nat) :
    ((assembly.changeAuth factory change).auths.find? other).map BuiltAuth.poolId =
      (assembly.auths.find? other).map BuiltAuth.poolId := by
  simp only [Assembly.changeAuth, OrderedMap.find?_modify]
  split
  · rw [Option.map_map]
    exact congrArg (Option.map · _) (funext fun built => same built.construct.resources)
  · rfl

theorem names_changeFunction (assembly : Assembly) (factory : Nat)
    {change : BuiltFunction → BuiltFunction}
    (same : ∀ built : BuiltFunction, (change built).name = built.name) (other : Nat) :
    ((assembly.changeFunction factory change).functions.find? other).map BuiltFunction.name =
      (assembly.functions.find? other).map BuiltFunction.name := by
  simp only [Assembly.changeFunction, OrderedMap.find?_modify]
  split
  · rw [Option.map_map]
    exact congrArg (Option.map · _) (funext same)
  · rfl

theorem poolId_withIdentityRoles (resources : AuthResources Nat) (roles : List Role) :
    (resources.withIdentityRoles roles).userPool.id = resources.userPool.id := by
  unfold AuthResources.withIdentityRoles
  split <;> rfl

/-! ## Bodies -/

/-- The program asks for instances, reads the state, and changes it in steps of a footprint. -/
inductive Composed (kind : ResourceKind) (number : Nat) : {α : Type} → blueprint.Build α → Prop
  | finish {α : Type} (outcome : Except BackendError α) : Composed kind number (.finish outcome)
  | instanceOf (factory : blueprint.Factory) : Composed kind number (blueprint.instanceOf factory)
  | read {α : Type} {next : Assembly → blueprint.Build α}
    (every : ∀ assembly, Composed kind number (next assembly)) : Composed kind number (.read next)
  | act {α : Type} {step : Assembly → Except BackendError α × Assembly}
    (footprint : ∀ assembly, blueprint.Footprint kind number assembly (step assembly).2) :
    Composed kind number (Program.act step)
  | bind {α β : Type} {program : blueprint.Build α} {next : α → blueprint.Build β}
    (head : Composed kind number program) (rest : ∀ result, Composed kind number (next result)) :
    Composed kind number (program >>= next)

theorem Asks.composed {program : blueprint.Build α} (asks : Asks program) :
    Composed kind number program := by
  induction asks with
  | finish outcome => exact .finish outcome
  | instanceOf factory => exact .instanceOf factory
  | bind head rest ihHead ihRest => exact .bind ihHead ihRest

theorem composed_modify {change : Assembly → Assembly}
    (footprint : ∀ assembly, blueprint.Footprint kind number assembly (change assembly)) :
    Composed kind number (modify change : blueprint.Build PUnit) := by
  change Composed kind number (Program.act fun assembly => (.ok (), change assembly))
  exact .act footprint

theorem composed_modifyGet {change : Assembly → α × Assembly}
    (footprint : ∀ assembly, blueprint.Footprint kind number assembly (change assembly).2) :
    Composed kind number (modifyGet change : blueprint.Build α) := by
  change Composed kind number
    (Program.act fun assembly => (.ok (change assembly).1, (change assembly).2))
  exact .act footprint

/-! ### Grants -/

theorem footprint_issue (assembly : Assembly) (policy : Policy) :
    blueprint.Footprint kind number assembly (assembly.issue policy).2 :=
  footprint_of_same rfl rfl rfl rfl rfl (fun _ => rfl) fun _ _ => rfl

theorem footprint_publish (assembly : Assembly) (named : List (String × String)) :
    blueprint.Footprint kind number assembly (assembly.publish named).2 :=
  footprint_of_same rfl rfl rfl rfl rfl (fun _ => rfl) fun _ _ => rfl

theorem composed_builtFunction (factory : Nat) :
    Composed kind number (blueprint.builtFunction factory) := by
  rw [builtFunction_eq]
  refine .read fun assembly => ?_
  cases assembly.functions.find? factory <;> exact .finish _

theorem composed_builtAuth (factory : Nat) :
    Composed kind number (blueprint.builtAuth factory) := by
  rw [builtAuth_eq]
  refine .read fun assembly => ?_
  cases assembly.auths.find? factory <;> exact .finish _

section Grants

variable {resource : String} {entries : List ParameterEntry} {statementsFor : α → List Statement}

/-- Whoever is granted access, at most a policy is handed to a function. -/
theorem composed_arbitrateOne (index : Nat) (grant : Grant Reference α) :
    Composed kind number
      ((blueprint.arbiter resource entries statementsFor).arbitrateOne index grant) := by
  have handed : ∀ factory : Nat, Composed kind number (do
      let acceptor ← blueprint.functionAcceptor factory none
      let issued ← modifyGet fun assembly => assembly.issue
        ((blueprint.arbiter resource entries statementsFor).policyFor index acceptor.identifier
          grant.actions)
      acceptor.accept issued entries
      return issued) := by
    intro factory
    simp only [functionAcceptor, bind_assoc, pure_bind]
    refine (composed_builtFunction factory).bind fun built => ?_
    refine (composed_modifyGet fun assembly => footprint_issue assembly _).bind fun issued => ?_
    refine (composed_modify fun assembly => ?_).bind fun _ => .finish _
    exact footprint_of_same rfl rfl rfl rfl (OrderedMap.keys_modify _ _ _)
      (names_changeFunction assembly factory fun built => built.name_accept issued entries)
      fun _ _ => rfl
  simp only [Arbiter.arbitrateOne, arbiter, granteeAcceptor, bind_assoc]
  refine (asks_resolveReference grant.grantee isGrantee).composed.bind fun holder => ?_
  unfold acceptorOf
  cases holder.kind with
  | function => exact handed holder.factory
  | stub => exact handed holder.factory
  | auth =>
      simp only [authAcceptor, bind_assoc]
      exact (composed_builtAuth _).bind fun _ => .finish _
  | data => exact .finish _

theorem composed_arbitrateFrom (index : Nat) (grants : List (Grant Reference α)) :
    Composed kind number
      ((blueprint.arbiter resource entries statementsFor).arbitrateFrom index grants) := by
  induction grants generalizing index with
  | nil => exact .finish _
  | cons grant rest ih =>
      refine (composed_arbitrateOne index grant).bind fun issued => ?_
      exact (ih (index + 1)).bind fun others => .finish _

end Grants

theorem composed_grant {resource : String} {statementsFor : α → List Statement}
    (named : List (String × String)) (grants : List (Grant Reference α)) :
    Composed kind number (discard do
      let entries ← modifyGet fun assembly => assembly.publish named
      (blueprint.arbiter resource entries statementsFor).arbitrate grants) := by
  refine Composed.bind ?_ fun _ => .finish _
  exact (composed_modifyGet fun assembly => footprint_publish assembly _).bind fun entries =>
    composed_arbitrateFrom 0 grants

theorem Composed.forM_option {act : α → blueprint.Build PUnit}
    (every : ∀ item, Composed kind number (act item)) (item : Option α) :
    Composed kind number (item.forM act) := by
  cases item with
  | none => exact .finish _
  | some item => exact every item

/-! ### The four kinds -/

theorem composed_buildFunction (resolved : ResolvedFunction) :
    Composed .function number
      (Program.act (·.buildFunction number resolved) : blueprint.Build Instance) := by
  refine .act fun assembly => ?_
  have put := @footprint_put blueprint .function number assembly _
    (fun logicalId there => Stack.has_addAll there resolved.registrations)
    fun other => absurd other (by decide)
  simp only [Assembly.buildFunction]
  rcases added : (assembly.stackSet.stackFor ResourceKind.function.group).addAll
    resolved.registrations with ⟨failure | _, stack⟩
  · rw [added] at put
    exact put
  · rw [added] at put
    exact {
      providers := rfl
      identifier := rfl
      stackFor := put.stackFor
      registered := put.registered
      outputs := fun key other => OutputStorage.find?_append_of_ne _ _ _ _ other.symm
      functions := fun other => absurd other (by decide)
      names := fun other => absurd other (by decide)
      pools := fun _ _ => rfl
      registers := fun other => absurd other (by decide) }

theorem composed_buildStub (name : String) :
    Composed .stub number (Program.act (·.buildStub number name) : blueprint.Build Instance) :=
  .act fun _ => ⟨rfl, rfl, fun _ _ => rfl, fun _ there => there, fun _ _ => rfl,
    fun other => absurd other (by decide), fun other => absurd other (by decide), fun _ _ => rfl,
    fun other => absurd other (by decide)⟩

theorem composed_createAuth (name : String) (properties : AuthProperties Nat) :
    Composed .auth number
      (Program.act (createAuth name properties) : blueprint.Build (AuthConstruct Nat)) :=
  .act fun assembly => footprint_put assembly
    (fun _ there => AuthConstruct.has_create name properties there)
    fun other => absurd other (by decide)

/-- What remains to be done for the auth resource when it is created. -/
def finishAuth (blueprint : Blueprint) (factory : Nat) (settings : AuthSettings Reference)
    (triggers : List (TriggerEvent × Nat)) (created : AuthConstruct Nat) :
    blueprint.Build Instance := do
  let name := settings.resolvedName
  let construct ← Program.ofExcept (wireAuth name triggers created)
  modify fun assembly =>
    { assembly with outputs := assembly.outputs.store authOutputKey construct.output }
  settings.access.forM fun grants =>
    discard (blueprint.grantAuth name construct.resources grants)
  modify fun assembly =>
    let stackName := (assembly.stackSet.stackFor ResourceKind.auth.group).name
    { assembly with auths := assembly.auths.insert factory { construct, stackName } }
  return ⟨.auth, factory⟩

theorem buildAuth_eq (factory : Nat) (settings : AuthSettings Reference) :
    blueprint.buildAuth factory settings = (do
      let properties ← blueprint.settleAuth settings.resolvedName settings
      let triggers ← blueprint.resolveTriggers settings
      let created ← Program.act (createAuth settings.resolvedName properties)
      blueprint.finishAuth factory settings triggers created) := rfl

theorem composed_finishAuth (settings : AuthSettings Reference)
    (triggers : List (TriggerEvent × Nat)) (created : AuthConstruct Nat) :
    Composed .auth number (blueprint.finishAuth number settings triggers created) := by
  have grant : ∀ (resources : AuthResources Nat) grants, Composed .auth number
      (discard (blueprint.grantAuth settings.resolvedName resources grants)) :=
    fun resources grants => composed_grant _ grants
  refine (Composed.finish _).bind fun construct => ?_
  refine (composed_modify fun assembly => footprint_store assembly _).bind fun _ => ?_
  refine (Composed.forM_option (grant _) settings.access).bind fun _ => ?_
  refine (composed_modify fun assembly => ?_).bind fun _ => .finish _
  refine footprint_of_same rfl rfl rfl rfl rfl (fun _ => rfl) fun other different => ?_
  rw [OrderedMap.find?_insert, if_neg different.symm]

theorem composed_buildAuth (settings : AuthSettings Reference) :
    Composed .auth number (blueprint.buildAuth number settings) := by
  rw [buildAuth_eq]
  refine (asks_settleAuth _ settings).composed.bind fun properties => ?_
  refine (asks_resolveTriggers settings).composed.bind fun triggers => ?_
  exact (composed_createAuth _ properties).bind fun created =>
    composed_finishAuth settings triggers created

theorem composed_createData (auth : Option Nat) {name : String}
    (named : blueprint.resourceName number = name) (properties : DataProperties Nat) :
    Composed .data number
      (Program.act (createData auth name properties) : blueprint.Build (DataConstruct Nat)) := by
  refine .act fun assembly => ?_
  let scope : DataScope := ⟨assembly.stackSet.stackFor ResourceKind.data.group,
    identityRoles assembly auth, assembly.nextPolicy⟩
  have registers : (DataConstruct.create scope name properties).2.stack = scope.stack ∨
      ∃ registered : DataProperties Nat, (DataConstruct.create scope name properties).2.stack =
        (scope.stack.addAll (registered.registrations (blueprint.resourceName number))).2 := by
    rcases DataConstruct.create_cases name properties with ⟨_, fault, refused⟩ | ⟨_, registers⟩
    · exact Or.inl (by rw [refused])
    · exact Or.inr ⟨properties, by rw [named, (registers scope).1]⟩
  have put := @footprint_put blueprint .data number assembly _
    (fun _ there => DataConstruct.has_create scope name properties there) fun _ => registers
  cases auth with
  | none =>
      exact ⟨rfl, rfl, put.stackFor, put.registered, fun _ _ => rfl, fun _ => rfl,
        fun _ _ => rfl, fun _ _ => rfl, put.registers⟩
  | some factory =>
      exact ⟨rfl, rfl, put.stackFor, put.registered, fun _ _ => rfl, fun _ => rfl,
        fun _ _ => rfl, fun other _ =>
          pools_changeAuth assembly factory (fun resources => poolId_withIdentityRoles resources _)
            other, put.registers⟩

/-- What remains to be done for the data resource when it is created. -/
def finishData (blueprint : Blueprint) (factory : Nat) (settings : DataSettings Reference)
    (created : DataConstruct Nat) : blueprint.Build Instance := do
  let name := settings.resolvedName
  let construct := { created with tags := Tags.withFriendlyName created.tags name }
  modify fun assembly =>
    { assembly with outputs := assembly.outputs.store graphqlOutputKey construct.output }
  settings.access.forM fun grants =>
    discard (blueprint.grantData name construct.resources grants)
  modify fun assembly =>
    let stackName := (assembly.stackSet.stackFor ResourceKind.data.group).name
    { assembly with datas := assembly.datas.insert factory { construct, stackName } }
  return ⟨.data, factory⟩

theorem completeData_eq (factory : Nat) (settings : DataSettings Reference)
    (auth : Option (Nat × BuiltAuth)) :
    blueprint.completeData factory settings auth = (do
      let properties ← blueprint.settleDataWith (auth.map (·.2)) settings.resolvedName settings
      let created ← Program.act (createData (auth.map (·.1)) settings.resolvedName properties)
      blueprint.finishData factory settings created) := rfl

theorem composed_finishData (settings : DataSettings Reference) (created : DataConstruct Nat) :
    Composed .data number (blueprint.finishData number settings created) := by
  have grant : ∀ (resources : DataResources Nat) grants, Composed .data number
      (discard (blueprint.grantData settings.resolvedName resources grants)) :=
    fun resources grants => composed_grant _ grants
  refine (composed_modify fun assembly => footprint_store assembly _).bind fun _ => ?_
  refine (Composed.forM_option (grant _) settings.access).bind fun _ => ?_
  refine (composed_modify fun assembly => ?_).bind fun _ => .finish _
  exact footprint_of_same rfl rfl rfl rfl rfl (fun _ => rfl) fun _ _ => rfl

theorem composed_providedAuth :
    Composed kind number (blueprint.providedAuth authResourcesToken) := by
  rw [providedAuth_eq]
  refine .read fun assembly => ?_
  cases blueprint.provider assembly with
  | none => exact .finish _
  | some factory =>
      refine (Composed.instanceOf factory).bind fun found => ?_
      exact (composed_builtAuth _).bind fun built => .finish _

theorem composed_settleData (name : String) (settings : DataSettings Reference) :
    Composed kind number (blueprint.settleData name settings) :=
  composed_providedAuth.bind fun _ =>
    (asks_settleDataWith _ _ settings).composed.bind fun _ => .finish _

theorem composed_buildData {settings : DataSettings Reference}
    (named : blueprint.resourceName number = settings.resolvedName) :
    Composed .data number (blueprint.buildData number settings) := by
  rw [buildData_eq]
  refine composed_providedAuth.bind fun auth => ?_
  rw [completeData_eq]
  refine (asks_settleDataWith _ _ settings).composed.bind fun properties => ?_
  exact (composed_createData _ named properties).bind fun created =>
    composed_finishData settings created

/-- The body of every generator keeps to the footprint of its kind. -/
theorem composed_build (factory : blueprint.Factory) :
    Composed (blueprint.kindOf factory) factory
      (blueprint.build factory (blueprint.definition factory)) := by
  unfold kindOf
  cases defined : blueprint.definition factory with
  | function settings site =>
      simp only [build, Definition.kind]
      cases settings.resolve site with
      | error fault => exact .finish _
      | ok resolved => exact composed_buildFunction resolved
  | stub name => exact composed_buildStub name
  | auth settings site => exact composed_buildAuth settings
  | data settings site => exact composed_buildData (resourceName_of_data defined)

end Blueprint

end CloudSynth
