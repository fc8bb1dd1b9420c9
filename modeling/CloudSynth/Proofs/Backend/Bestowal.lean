import Mathlib.Logic.Relation
import CloudSynth.Proofs.Backend.Synthesis
import CloudSynth.Proofs.Data.SettledModes
import CloudSynth.Proofs.Data.Settling

/-!
# What auth and data bestow

What building the auth or the data resource does for functions: values are published, and every
function that is granted access accepts one policy for each grant, and the paths of the values with
it (`Blueprint.Bestows`). The data resource also lets the roles of the auth resource call its API.

A backend that is synthesised goes through stages (`Blueprint.Stage`): functions are built, the auth
resource is built, and then the data resource.
-/

namespace CloudSynth

/-- The entries under which named values are published. -/
def ParameterStore.entriesFor (store : ParameterStore) (named : List (String × String)) :
    List ParameterEntry :=
  named.map fun pair => store.entryFor pair.1

/-- All roles: those of logged-in users and guests, and those of the groups. -/
def AuthResources.roles {φ : Type} (resources : AuthResources φ) : List Role :=
  resources.identityRoles ++ resources.groups.values.map (·.role)

/-- The policy allows these pairs of an action and a resource, and no others. -/
def IssuedPolicy.AllowsExactly (issued : IssuedPolicy) (allowed : String → String → Prop) : Prop :=
  ∀ action resource,
    (action, resource) ∈ issued.policy.document.allowances ↔ allowed action resource

/-- What calling an API needs. -/
def DataScope.CallerAllowed (apiArn action resource : String) : Prop :=
  action = "appsync:GraphQL" ∧ resource = apiArn ++ "/*"

theorem DataConstruct.roles_of_create {scope : DataScope} {id : String}
    {properties : DataProperties Nat} {construct : DataConstruct Nat}
    (created : (DataConstruct.create scope id properties).1 = .ok construct)
    (iam : properties.modes.enables .iam = true) :
    (DataConstruct.create scope id properties).2.roles =
      scope.roles.zipIdx.map fun pair => pair.1.attach
        ⟨scope.nextPolicy + pair.2,
          DataScope.callerPolicy pair.1 id construct.resources.apiArn⟩ := by
  simp only [DataConstruct.create] at created ⊢
  split at created
  · cases created
  rcases registered : scope.stack.addAll (properties.registrations id) with ⟨failure | _, stack⟩
  · rw [registered] at created
    cases created
  rw [registered] at created
  cases created
  simp only [iam, if_true]
  rfl

theorem DataConstruct.nextPolicy_le_create (scope : DataScope) (id : String)
    (properties : DataProperties Nat) :
    scope.nextPolicy ≤ (DataConstruct.create scope id properties).2.nextPolicy := by
  unfold DataConstruct.create
  split
  · exact Nat.le_refl _
  · split
    · exact Nat.le_refl _
    · simp only
      split
      · exact Nat.le_add_right _ _
      · exact Nat.le_refl _

namespace Blueprint

variable {blueprint : Blueprint} {α : Type}

/-- The grants of the auth resource that a factory builds. -/
def authGrants (blueprint : Blueprint) (factory : Nat) : List (Grant Reference AuthAction) :=
  match blueprint.definitions[factory]? with
  | some (.auth settings _) => settings.access.getD []
  | _ => []

/-- The grants of the data resource that a factory builds. -/
def dataGrants (blueprint : Blueprint) (factory : Nat) : List (Grant Reference DataAction) :=
  match blueprint.definitions[factory]? with
  | some (.data settings _) => settings.access.getD []
  | _ => []

section Defined

variable {factory : blueprint.Factory} {site : DefinitionSite}

theorem authGrants_of_defined {settings : AuthSettings Reference}
    (defined : blueprint.definition factory = .auth settings site) :
    blueprint.authGrants factory = settings.access.getD [] := by
  rw [authGrants, getElem?_definitions, defined]

theorem dataGrants_of_defined {settings : DataSettings Reference}
    (defined : blueprint.definition factory = .data settings site) :
    blueprint.dataGrants factory = settings.access.getD [] := by
  rw [dataGrants, getElem?_definitions, defined]

end Defined

/-! ## Grants -/

/-- A resource has published values and granted access to functions: each has accepted a policy for
every grant that names it, and the paths of the values with it. -/
structure Bestows (blueprint : Blueprint) (resource : String) (named : List (String × String))
    (statementsFor : α → List Statement) (access : Option (List (Grant Reference α)))
    (before after : Assembly) : Prop where
  numbered : blueprint.Numbered after
  auths : after.auths = before.auths
  datas : after.datas = before.datas
  parameters : after.parameters =
    if access.isSome then (before.parameters.publish named).2 else before.parameters
  accepts : ∀ function, ∃ accepted,
    blueprint.functionIn after function = (blueprint.functionIn before function).map
        (·.acceptAll accepted (before.parameters.entriesFor named)) ∧
      blueprint.attachedTo after function = blueprint.attachedTo before function ++ accepted ∧
      accepted.map (·.policy) =
        (blueprint.placedGrants function 0 (access.getD [])).map fun placed =>
          (blueprint.arbiter resource (before.parameters.entriesFor named) statementsFor).policyFor
            placed.2 (blueprint.acceptorIn before function) placed.1.actions

section Bestows

variable {resource : String} {named : List (String × String)} {statementsFor : α → List Statement}
  {access : Option (List (Grant Reference α))} {before between after : Assembly}

theorem Bestows.of_same
    (bestows : blueprint.Bestows resource named statementsFor access between after)
    (functions : ∀ function, blueprint.functionIn between function =
      blueprint.functionIn before function)
    (parameters : between.parameters = before.parameters) (auths : between.auths = before.auths)
    (datas : between.datas = before.datas) :
    blueprint.Bestows resource named statementsFor access before after where
  numbered := bestows.numbered
  auths := bestows.auths.trans auths
  datas := bestows.datas.trans datas
  parameters := by rw [bestows.parameters, parameters]
  accepts function := by
    have accepts := bestows.accepts function
    simpa only [attachedTo, acceptorIn, functions, parameters] using accepts

/-- The auth resource is the only one of its kind if there was none. -/
theorem Bestows.entries_auths
    (bestows : blueprint.Bestows resource named statementsFor access before after)
    (noAuth : before.auths.entries = []) (factory : Nat) (built : BuiltAuth) :
    (after.auths.insert factory built).entries = [(factory, built)] := by
  apply OrderedMap.entries_insert_of_nil
  rw [bestows.auths, noAuth]

/-- The data resource is the only one of its kind if there was none. -/
theorem Bestows.entries_datas
    (bestows : blueprint.Bestows resource named statementsFor access before after)
    (noData : before.datas.entries = []) (factory : Nat) (built : BuiltData) :
    (after.datas.insert factory built).entries = [(factory, built)] := by
  apply OrderedMap.entries_insert_of_nil
  rw [bestows.datas, noData]

end Bestows

/-- Values are published and then grants are arbitrated, if there are any. -/
theorem bestows_of_run {before after : BackendContainer}
    (holds : ∃ built, blueprint.Built before built) (closed : blueprint.Closed before)
    (numbered : blueprint.Numbered before.state) {resource : String}
    {named : List (String × String)} {statementsFor : α → List Statement}
    {access : Option (List (Grant Reference α))}
    (done : blueprint.catalogue.run (access.forM fun grants => discard (do
      let entries ← modifyGet fun assembly : Assembly => assembly.publish named
      (blueprint.arbiter resource entries statementsFor).arbitrate grants)) before =
        (.ok (), after)) :
    blueprint.Bestows resource named statementsFor access before.state after.state := by
  cases access with
  | none =>
      cases done
      exact ⟨numbered, rfl, rfl, rfl, fun function =>
        ⟨[], by simp [BuiltFunction.acceptAll], by simp, rfl⟩⟩
  | some grants =>
      change blueprint.catalogue.run (discard _) before = _ at done
      rw [Catalogue.run_discard_eq_ok blueprint.listed] at done
      rcases done with ⟨policies, done⟩
      rw [Catalogue.run_bind_eq_ok blueprint.listed] at done
      rcases done with ⟨entries, between, published, arbitrated⟩
      rcases (mirrors_publish named).alone holds closed published with
        ⟨_, holdsBetween, closedBetween, _⟩
      rw [Catalogue.run_modifyGet] at published
      cases published
      have hands := hands_of_run holdsBetween closedBetween numbered arbitrated
      exact ⟨hands.numbered, hands.assets.auths.symm, hands.assets.datas.symm,
        hands.assets.parameters.symm, hands.accepts⟩

/-! ## The auth resource -/

theorem attached_of_createAuth {assembly : Assembly} {name : String}
    {properties : AuthProperties Nat} {construct : AuthConstruct Nat}
    (created : (createAuth name properties assembly).1 = .ok construct) :
    ∀ role ∈ construct.resources.roles, role.attached = [] := by
  have groups : ∀ stack, ∀ group ∈ (properties.userGroups stack name).values,
      group.role.attached = [] := by
    intro stack group group_mem
    rcases List.mem_map.mp group_mem with ⟨entry, entry_mem, rfl⟩
    rcases List.mem_map.mp (SortedMap.mem_of_mem_ofList entry_mem) with ⟨pair, _, rfl⟩
    rfl
  simp only [createAuth, AuthConstruct.create] at created
  split at created
  · cases created
  rcases registered : (assembly.stackSet.stackFor ResourceKind.auth.group).addAll
    (properties.registrations name) with ⟨failure | _, later⟩
  · rw [registered] at created
    cases created
  simp only [registered, AuthConstruct.assemble] at created
  cases pool : properties.userPool later with
  | error failure =>
      rw [pool] at created
      cases created
  | ok userPool =>
      rw [pool] at created
      cases created
      intro role role_mem
      rcases List.mem_append.mp role_mem with ofIdentity | ofGroup
      · rcases List.mem_pair.mp ofIdentity with rfl | rfl <;> rfl
      · rcases List.mem_map.mp ofGroup with ⟨group, group_mem, rfl⟩
        exact groups later group group_mem

theorem roles_wireAuth {name : String} {triggers : List (TriggerEvent × Nat)}
    {construct wired : AuthConstruct Nat} (wiring : wireAuth name triggers construct = .ok wired) :
    wired.resources.roles = construct.resources.roles := by
  unfold wireAuth at wiring
  cases pool : triggers.foldlM (fun (pool : UserPool Nat) trigger =>
      pool.addTrigger trigger.1.name trigger.2) construct.resources.userPool with
  | error failure =>
      rw [pool] at wiring
      cases wiring
  | ok userPool =>
      rw [pool] at wiring
      cases wiring
      rfl

/-- The values that the auth resource publishes, by the variables that they are for. -/
def authValues (name : String) (resources : AuthResources Nat) : List (String × String) :=
  [(name ++ "_USERPOOL_ID", resources.userPool.id)]

/-- What building the auth resource does for functions. -/
theorem bestows_of_buildAuth {before after : BackendContainer}
    (holds : ∃ built, blueprint.Built before built) (closed : blueprint.Closed before)
    (numbered : blueprint.Numbered before.state) {factory : Nat}
    {settings : AuthSettings Reference} {found : Instance}
    (done : blueprint.catalogue.run (blueprint.buildAuth factory settings) before =
      (.ok found, after)) :
    ∃ built between,
      blueprint.Bestows settings.resolvedName
        (authValues settings.resolvedName built.construct.resources)
        (AuthAction.statements built.construct.resources.userPool.arn) settings.access before.state
        between ∧
      (∀ role ∈ built.construct.resources.roles, role.attached = []) ∧
      after.state = { between with auths := between.auths.insert factory built } := by
  simp only [buildAuth, Catalogue.run_bind_eq_ok blueprint.listed, Catalogue.run_act,
    Catalogue.run_ofExcept, Catalogue.run_modify, Catalogue.run_pure] at done
  rcases done with ⟨properties, first, settled, triggers, second, resolved, construct, third,
    creating, wired, _, wiring, _, fourth, storing, _, fifth, granting, _, _, inserting, ended⟩
  -- Settling and resolving build functions at most, and creating changes nothing about them.
  rcases (asks_settleAuth _ settings).mirrors.alone holds closed settled with
    ⟨agrees, holdsFirst, closedFirst, _⟩
  rcases (asks_resolveTriggers settings).mirrors.alone holdsFirst closedFirst resolved with
    ⟨agreesSecond, holdsSecond, closedSecond, _⟩
  have agreesBoth := Agrees.trans agrees agreesSecond
  rcases (mirrors_createAuth _ properties).alone holdsSecond closedSecond creating with
    ⟨_, holdsThird, closedThird, _⟩
  rcases Prod.mk.injEq .. ▸ wiring with ⟨wires, rfl⟩
  rcases (mirrors_store (by decide) _).alone holdsThird closedThird storing with
    ⟨_, holdsFourth, closedFourth, _⟩
  rcases Prod.mk.injEq .. ▸ creating with ⟨created, rfl⟩
  cases storing
  cases inserting
  cases ended
  have bestows : blueprint.Bestows settings.resolvedName
      (authValues settings.resolvedName wired.resources)
      (AuthAction.statements wired.resources.userPool.arn) settings.access _ fifth.state :=
    bestows_of_run holdsFourth closedFourth (agreesBoth.numbered numbered) granting
  refine ⟨⟨wired, (fifth.state.stackSet.stackFor ResourceKind.auth.group).name⟩, fifth.state,
    bestows.of_same (fun function => (agreesBoth.functions function).symm)
      agreesBoth.parameters.symm agreesBoth.auths.symm agreesBoth.datas.symm, ?_, rfl⟩
  intro role role_mem
  rw [roles_wireAuth wires] at role_mem
  exact attached_of_createAuth created role role_mem

/-! ## The data resource -/

/-- The roles of logged-in users and guests have one policy each, which lets them call the API. -/
def LetsCall (apiArn : String) (built : BuiltAuth) : Prop :=
  ∀ role ∈ built.construct.resources.identityRoles,
    ∃ issued, role.attached = [issued] ∧ issued.AllowsExactly (DataScope.CallerAllowed apiArn)

/-- The roles of logged-in users and guests have no policies. -/
def LetsNothing (built : BuiltAuth) : Prop :=
  ∀ role ∈ built.construct.resources.identityRoles, role.attached = []

theorem attach_callerPolicy {role : Role} (fresh : role.attached = []) (serial : Nat)
    (id apiArn : String) :
    ∃ issued, (role.attach ⟨serial, DataScope.callerPolicy role id apiArn⟩).attached = [issued] ∧
      issued.AllowsExactly (DataScope.CallerAllowed apiArn) := by
  refine ⟨⟨serial, DataScope.callerPolicy role id apiArn⟩, ?_, ?_⟩
  · rw [Role.attached_attach (by simp [fresh]), fresh]
    rfl
  · intro action resource
    exact DataScope.mem_allowances_callerPolicy role id apiArn

section CreateData

variable {auth : Option Nat} {name : String} {properties : DataProperties Nat} {assembly : Assembly}

/-- What creating the construct works on. -/
def dataScope (assembly : Assembly) (auth : Option Nat) : DataScope where
  stack := assembly.stackSet.stackFor ResourceKind.data.group
  roles := identityRoles assembly auth
  nextPolicy := assembly.nextPolicy

theorem functions_createData :
    (createData auth name properties assembly).2.functions = assembly.functions := by
  cases auth <;> rfl

theorem parameters_createData :
    (createData auth name properties assembly).2.parameters = assembly.parameters := by
  cases auth <;> rfl

theorem datas_createData :
    (createData auth name properties assembly).2.datas = assembly.datas := by
  cases auth <;> rfl

theorem nextPolicy_le_createData :
    assembly.nextPolicy ≤ (createData auth name properties assembly).2.nextPolicy := by
  have kept := DataConstruct.nextPolicy_le_create (dataScope assembly auth) name properties
  cases auth <;> exact kept

theorem create_of_createData {construct : DataConstruct Nat}
    (created : (createData auth name properties assembly).1 = .ok construct) :
    (DataConstruct.create (dataScope assembly auth) name properties).1 = .ok construct := by
  simp only [createData] at created
  rcases outcome : (DataConstruct.create (dataScope assembly auth) name properties).1 with
    failure | other
  · rw [dataScope] at outcome
    rw [outcome] at created
    cases created
  · rw [dataScope] at outcome
    rw [outcome] at created
    cases created
    rfl

end CreateData

/-- A data construct that is created lets the roles of the auth resource call its API. -/
theorem exists_letsCall_of_createData {assembly : Assembly} {number : Nat} {name : String}
    {properties : DataProperties Nat} {construct : DataConstruct Nat} {built : BuiltAuth}
    (created : (createData (some number) name properties assembly).1 = .ok construct)
    (iam : properties.modes.enables .iam = true)
    (entries : assembly.auths.entries = [(number, built)]) (fresh : LetsNothing built) :
    ∃ allowed, (createData (some number) name properties assembly).2.auths.entries =
        [(number, allowed)] ∧
      allowed.construct.resources.userPool = built.construct.resources.userPool ∧
      allowed.construct.resources.groups = built.construct.resources.groups ∧
      LetsCall construct.resources.apiArn allowed := by
  have found : assembly.auths.find? number = some built := by
    simp [OrderedMap.find?, entries]
  have roles : identityRoles assembly (some number) = built.construct.resources.identityRoles := by
    simp [identityRoles, found]
  have callers := DataConstruct.roles_of_create (create_of_createData created) iam
  have scopeRoles : (dataScope assembly (some number)).roles =
      built.construct.resources.identityRoles := roles
  rw [scopeRoles] at callers
  have changed : (createData (some number) name properties assembly).2.auths =
      assembly.auths.modify number fun kept =>
        let construct := { kept.construct with
          resources := kept.construct.resources.withIdentityRoles
            (DataConstruct.create (dataScope assembly (some number)) name properties).2.roles }
        { kept with construct } := rfl
  rw [changed, callers]
  simp only [OrderedMap.modify, found, OrderedMap.insert, entries, OrderedMap.put, if_true]
  refine ⟨_, rfl, rfl, rfl, ?_⟩
  intro role role_mem
  have cases : role ∈ [_, _] := role_mem
  rw [List.mem_pair] at cases
  rcases cases with rfl | rfl
  · exact attach_callerPolicy (fresh _ List.mem_cons_self) _ _ _
  · exact attach_callerPolicy (fresh _ (List.mem_cons_of_mem _ List.mem_cons_self)) _ _ _

/-- The roles of the auth resource, if there is one, have been allowed to call an API, and nothing
else has been done to functions and parameters. -/
structure Admits (blueprint : Blueprint) (auth : Option Nat) (apiArn : String)
    (before after : Assembly) : Prop where
  functions : ∀ function, blueprint.functionIn after function = blueprint.functionIn before function
  parameters : after.parameters = before.parameters
  datas : after.datas = before.datas
  without : auth = none → after.auths = before.auths
  allows : ∀ number built, auth = some number → before.auths.entries = [(number, built)] →
    LetsNothing built → ∃ allowed, after.auths.entries = [(number, allowed)] ∧
      allowed.construct.resources.userPool = built.construct.resources.userPool ∧
      allowed.construct.resources.groups = built.construct.resources.groups ∧
      LetsCall apiArn allowed

/-- The auth resource, if there is one, has roles that may call the API, and is the same otherwise.
-/
def Admitted (apiArn : String) (before after : List (Nat × BuiltAuth)) : Prop :=
  (before = [] ∧ after = []) ∨ ∃ number kept allowed, before = [(number, kept)] ∧
    after = [(number, allowed)] ∧
    allowed.construct.resources.userPool = kept.construct.resources.userPool ∧
    allowed.construct.resources.groups = kept.construct.resources.groups ∧
    LetsCall apiArn allowed

theorem Admits.attached {auth : Option Nat} {apiArn : String} {before after : Assembly}
    (admits : blueprint.Admits auth apiArn before after) (function : blueprint.Factory) :
    blueprint.attachedTo after function = blueprint.attachedTo before function := by
  rw [attachedTo, attachedTo, admits.functions]

theorem Admits.admitted {auth : Option Nat} {apiArn : String} {before after : Assembly}
    (admits : blueprint.Admits auth apiArn before after)
    (provided : (auth = none ∧ before.auths.entries = []) ∨
      ∃ number built, auth = some number ∧ before.auths.entries = [(number, built)])
    (fresh : ∀ entry ∈ before.auths.entries, LetsNothing entry.2) :
    Admitted apiArn before.auths.entries after.auths.entries := by
  rcases provided with ⟨none, empty⟩ | ⟨number, built, same, entries⟩
  · rw [admits.without none]
    exact Or.inl ⟨empty, empty⟩
  · rcases admits.allows number built same entries (fresh (number, built) (by simp [entries])) with
      ⟨allowed, later, userPool, groups, calls⟩
    exact Or.inr ⟨number, built, allowed, entries, later, userPool, groups, calls⟩

theorem Admitted.letsCall {apiArn : String} {before after : List (Nat × BuiltAuth)}
    (admitted : Admitted apiArn before after) : ∀ entry ∈ after, LetsCall apiArn entry.2 := by
  intro entry entry_mem
  rcases admitted with ⟨_, empty⟩ | ⟨number, kept, allowed, _, entries, _, _, calls⟩
  · rw [empty] at entry_mem
    cases entry_mem
  · rw [entries, List.mem_singleton] at entry_mem
    rw [entry_mem]
    exact calls

/-- The values that the data resource publishes, by the variables that they are for. -/
def dataValues (name : String) (resources : DataResources Nat) : List (String × String) :=
  [(name ++ "_GRAPHQL_ENDPOINT", resources.url),
   (name ++ "_MODEL_INTROSPECTION_SCHEMA_BUCKET_NAME", resources.bucketName),
   (name ++ "_MODEL_INTROSPECTION_SCHEMA_KEY", introspectionSchemaKey)]

/-- What building the data resource does for functions, and for the roles of the auth resource. -/
theorem bestows_of_completeData {before after : BackendContainer}
    (holds : ∃ built, blueprint.Built before built) (closed : blueprint.Closed before)
    (numbered : blueprint.Numbered before.state) {factory : Nat}
    {settings : DataSettings Reference} {auth : Option (Nat × BuiltAuth)} {found : Instance}
    (done : blueprint.catalogue.run (blueprint.completeData factory settings auth) before =
      (.ok found, after)) :
    ∃ built middle between,
      blueprint.Admits (auth.map (·.1)) built.construct.resources.apiArn before.state middle ∧
      blueprint.Bestows settings.resolvedName
        (dataValues settings.resolvedName built.construct.resources)
        (DataAction.statements built.construct.resources.apiArn built.construct.resources.bucketArn)
        settings.access middle between ∧
      after.state = { between with datas := between.datas.insert factory built } := by
  simp only [completeData, Catalogue.run_bind_eq_ok blueprint.listed, Catalogue.run_act,
    Catalogue.run_modify, Catalogue.run_pure] at done
  rcases done with ⟨properties, first, settled, construct, second, creating, _, third, storing, _,
    fourth, granting, _, _, inserting, ended⟩
  rcases (asks_settleDataWith _ _ settings).mirrors.alone holds closed settled with
    ⟨agrees, holdsFirst, closedFirst, _⟩
  rcases (mirrors_createData _ _ properties).alone holdsFirst closedFirst creating with
    ⟨_, holdsSecond, closedSecond, _⟩
  rcases (mirrors_store (by decide) _).alone holdsSecond closedSecond storing with
    ⟨_, holdsThird, closedThird, _⟩
  rcases Prod.mk.injEq .. ▸ creating with ⟨created, rfl⟩
  cases storing
  cases inserting
  cases ended
  have iam := AuthorizationSettings.enables_iam (settled_of_run_with settled).modes
  have numberedFirst := Agrees.numbered agrees numbered
  let middle := (createData (auth.map (·.1)) settings.resolvedName properties first.state).2
  have functions : ∀ function,
      blueprint.functionIn middle function = blueprint.functionIn first.state function := by
    intro function
    simp only [middle, functionIn]
    rw [functions_createData]
  have numberedMiddle : blueprint.Numbered middle := by
    intro function issued issued_mem
    rw [attachedTo, functions] at issued_mem
    exact Nat.lt_of_lt_of_le (numberedFirst function issued issued_mem) nextPolicy_le_createData
  have constructed : (createData (auth.map (·.1)) settings.resolvedName properties first.state).1 =
      .ok construct := created
  have bestows : blueprint.Bestows settings.resolvedName
      (dataValues settings.resolvedName construct.resources)
      (DataAction.statements construct.resources.apiArn construct.resources.bucketArn)
      settings.access _ fourth.state :=
    bestows_of_run holdsThird closedThird numberedMiddle granting
  refine ⟨⟨{ construct with tags := construct.tags.withFriendlyName settings.resolvedName },
    (fourth.state.stackSet.stackFor ResourceKind.data.group).name⟩, middle, fourth.state, ?_,
    bestows.of_same (fun _ => rfl) rfl rfl rfl, rfl⟩
  have sameAuths := SameAssets.auths (Agrees.toSameAssets agrees)
  constructor
  case functions =>
    intro function
    rw [functions, Agrees.functions agrees]
  case parameters =>
    exact parameters_createData.trans (SameAssets.parameters (Agrees.toSameAssets agrees)).symm
  case datas => exact datas_createData.trans (SameAssets.datas (Agrees.toSameAssets agrees)).symm
  case without =>
    intro without
    simp only [middle, without]
    exact sameAuths.symm
  case allows =>
    intro number built provided entries fresh
    rw [sameAuths] at entries
    simp only [middle, provided] at constructed ⊢
    exact exists_letsCall_of_createData constructed iam entries fresh

/-! ## Stages -/

/-- What happens to a backend between two moments at which nothing is being resolved: functions are
built, or the first of all auth and data resources is an auth resource, or the data resource is
built. -/
inductive Stage (blueprint : Blueprint) : Assembly → Assembly → Prop
  | functions {before after : Assembly} (agrees : blueprint.Agrees before after) :
    Stage blueprint before after
  | auth {before between : Assembly} {factory : blueprint.Factory}
    {settings : AuthSettings Reference} {site : DefinitionSite} {built : BuiltAuth}
    (defined : blueprint.definition factory = .auth settings site)
    (noAuth : before.auths.entries = []) (noData : before.datas.entries = [])
    (bestows : blueprint.Bestows settings.resolvedName
      (authValues settings.resolvedName built.construct.resources)
      (AuthAction.statements built.construct.resources.userPool.arn) settings.access before between)
    (fresh : ∀ role ∈ built.construct.resources.roles, role.attached = []) :
    Stage blueprint before { between with auths := between.auths.insert factory built }
  | data {before middle between : Assembly} {factory : blueprint.Factory}
    {settings : DataSettings Reference} {site : DefinitionSite} {built : BuiltData}
    {auth : Option Nat} (defined : blueprint.definition factory = .data settings site)
    (noData : before.datas.entries = [])
    (admits : blueprint.Admits auth built.construct.resources.apiArn before middle)
    (admitted : Admitted built.construct.resources.apiArn before.auths.entries
      middle.auths.entries)
    (bestows : blueprint.Bestows settings.resolvedName
      (dataValues settings.resolvedName built.construct.resources)
      (DataAction.statements built.construct.resources.apiArn built.construct.resources.bucketArn)
      settings.access middle between) :
    Stage blueprint before { between with datas := between.datas.insert factory built }

/-- The backend has gone through stages. -/
abbrev Unfolds (blueprint : Blueprint) : Assembly → Assembly → Prop :=
  Relation.ReflTransGen blueprint.Stage

end Blueprint

end CloudSynth
