import CloudSynth.Proofs.Backend.Bestowal

/-!
# Least privilege

What policies a backend has attached when it is synthesised (`Blueprint.synthesize_privileged`). A
function has one policy for each grant that names it, those of the auth resource before those of the
data resource, and each allows what the granted actions allow and nothing else. The roles of
logged-in users and guests have one policy each, which lets them call the API.

This holds at any time and not only in the end, of the resources that are built by then:
`Blueprint.LeastPrivilege` is preserved by every request that succeeds outside of any generator. A
request builds the auth resource, or the data resource and before it the auth resource, or functions
only; the auth resource is never built after the data resource, which is why its policies come first
whatever the order of the requests.
-/

namespace CloudSynth

/-- What a grant of operations on a user pool allows. -/
def AuthAction.Allowed (userPoolArn : String) (actions : List AuthAction)
    (action resource : String) : Prop :=
  resource = userPoolArn ∧ ∃ granted ∈ actions, action ∈ granted.iamActions

/-- What a grant of operations on the data resource allows. -/
def DataAction.Allowed (apiArn bucketArn : String) (actions : List DataAction)
    (action resource : String) : Prop :=
  (action = "appsync:GraphQL" ∧
    ∃ granted ∈ actions, resource = apiArn ++ "/types/" ++ granted.operationType ++ "/*") ∨
  (action = "s3:GetObject" ∧ resource = bucketArn ++ "/" ++ "modelIntrospectionSchema.json" ∧
    actions ≠ [])

namespace Blueprint

variable {blueprint : Blueprint} {α : Type}

/-! ## What policies allow -/

theorem Makes.mem_allowances {arbiter : Arbiter blueprint.Build Reference α}
    {grant : Grant Reference α} {issued : IssuedPolicy} (makes : Makes arbiter grant issued)
    (action resource : String) :
    (action, resource) ∈ issued.policy.document.allowances ↔
      ∃ granted ∈ grant.actions,
        Statement.SomeAllows (arbiter.statementsFor granted) action resource := by
  rcases makes with ⟨index, acceptor, made⟩
  rw [made]
  exact arbiter.mem_allowances_policyFor index acceptor grant.actions

theorem Makes.allowsExactly_auth {resource userPoolArn : String} {entries : List ParameterEntry}
    {grant : Grant Reference AuthAction} {issued : IssuedPolicy}
    (makes : Makes (blueprint.arbiter resource entries (AuthAction.statements userPoolArn)) grant
      issued) :
    issued.AllowsExactly (AuthAction.Allowed userPoolArn grant.actions) := by
  intro action named
  rw [makes.mem_allowances]
  simp only [arbiter, AuthAction.someAllows_statements, AuthAction.Allowed]
  constructor
  · rintro ⟨granted, granted_mem, needed, same⟩
    exact ⟨same, granted, granted_mem, needed⟩
  · rintro ⟨same, granted, granted_mem, needed⟩
    exact ⟨granted, granted_mem, needed, same⟩

theorem Makes.allowsExactly_data {resource apiArn bucketArn : String}
    {entries : List ParameterEntry} {grant : Grant Reference DataAction} {issued : IssuedPolicy}
    (makes : Makes (blueprint.arbiter resource entries (DataAction.statements apiArn bucketArn))
      grant issued) :
    issued.AllowsExactly (DataAction.Allowed apiArn bucketArn grant.actions) := by
  intro action named
  rw [makes.mem_allowances]
  simp only [arbiter, DataAction.someAllows_statements, DataAction.Allowed, introspectionSchemaKey]
  constructor
  · rintro ⟨granted, granted_mem, ⟨call, same⟩ | ⟨read, same⟩⟩
    · exact Or.inl ⟨call, granted, granted_mem, same⟩
    · exact Or.inr ⟨read, same, List.ne_nil_of_mem granted_mem⟩
  · rintro (⟨call, granted, granted_mem, same⟩ | ⟨read, same, some⟩)
    · exact ⟨granted, granted_mem, Or.inl ⟨call, same⟩⟩
    · rcases List.exists_mem_of_ne_nil _ some with ⟨granted, granted_mem⟩
      exact ⟨granted, granted_mem, Or.inr ⟨read, same⟩⟩

/-! ## What the policies of a function are to allow -/

/-- What the policies for the grants to a function are to allow, one after another. -/
def dueFor (blueprint : Blueprint) (function : blueprint.Factory)
    (grants : List (Grant Reference α)) (allowed : List α → String → String → Prop) :
    List (String → String → Prop) :=
  (blueprint.grantsTo function grants).map fun grant => allowed grant.actions

/-- What the policies of a function are to allow on the auth resource. -/
def dueToAuth (blueprint : Blueprint) (function : blueprint.Factory) (entry : Nat × BuiltAuth) :
    List (String → String → Prop) :=
  blueprint.dueFor function (blueprint.authGrants entry.1)
    (AuthAction.Allowed entry.2.construct.resources.userPool.arn)

/-- What the policies of a function are to allow on the data resource. -/
def dueToData (blueprint : Blueprint) (function : blueprint.Factory) (entry : Nat × BuiltData) :
    List (String → String → Prop) :=
  blueprint.dueFor function (blueprint.dataGrants entry.1)
    (DataAction.Allowed entry.2.construct.resources.apiArn entry.2.construct.resources.bucketArn)

/-- What the policies of a function are to allow: what auth grants, and then what data grants. -/
def due (blueprint : Blueprint) (assembly : Assembly) (function : blueprint.Factory) :
    List (String → String → Prop) :=
  assembly.auths.entries.flatMap (blueprint.dueToAuth function) ++
    assembly.datas.entries.flatMap (blueprint.dueToData function)

/-- The policies allow what is due, one by one. -/
def Meets (due : List (String → String → Prop)) (attached : List IssuedPolicy) : Prop :=
  List.Forall₂ (fun allowed issued => issued.AllowsExactly allowed) due attached

theorem Meets.append {due more : List (String → String → Prop)}
    {attached added : List IssuedPolicy} (meets : Meets due attached) (later : Meets more added) :
    Meets (due ++ more) (attached ++ added) := by
  induction meets with
  | nil => exact later
  | cons exactly _ ih => exact .cons exactly ih

theorem meets_dueFor {arbiter : Arbiter blueprint.Build Reference α}
    {allowed : List α → String → String → Prop} {function : blueprint.Factory}
    {grants : List (Grant Reference α)} {accepted : List IssuedPolicy}
    (exactly : ∀ grant issued, Makes arbiter grant issued →
      issued.AllowsExactly (allowed grant.actions))
    (aligned : List.Forall₂ (Makes arbiter) (blueprint.grantsTo function grants) accepted) :
    Meets (blueprint.dueFor function grants allowed) accepted := by
  rw [Meets, dueFor, List.forall₂_map_left_iff]
  exact aligned.imp exactly

/-- The policies of a function allow what they did, and then what the grants are to allow. -/
theorem Bestows.meets {resource : String} {named : List (String × String)}
    {statementsFor : α → List Statement} {access : Option (List (Grant Reference α))}
    {before after : Assembly}
    (bestows : blueprint.Bestows resource named statementsFor access before after)
    {allowed : List α → String → String → Prop}
    (exactly : ∀ entries grant issued,
      Makes (blueprint.arbiter resource entries statementsFor) grant issued →
        issued.AllowsExactly (allowed grant.actions))
    {function : blueprint.Factory} {due : List (String → String → Prop)}
    (meets : Meets due (blueprint.attachedTo before function)) :
    Meets (due ++ blueprint.dueFor function (access.getD []) allowed)
      (blueprint.attachedTo after function) := by
  rcases bestows.accepts function with ⟨accepted, _, appended, policies⟩
  rw [appended]
  exact meets.append (meets_dueFor (exactly _) (forall₂_makes policies))

theorem Agrees.due {first second : Assembly} (agrees : blueprint.Agrees first second)
    (function : blueprint.Factory) :
    blueprint.due first function = blueprint.due second function := by
  rw [Blueprint.due, agrees.auths, agrees.datas, Blueprint.due]

/-- The roles make no difference to what is due to functions. -/
theorem Admitted.due {apiArn : String} {before after : List (Nat × BuiltAuth)}
    (admitted : Admitted apiArn before after) (function : blueprint.Factory) :
    after.flatMap (blueprint.dueToAuth function) =
      before.flatMap (blueprint.dueToAuth function) := by
  rcases admitted with ⟨before, after⟩ | ⟨number, kept, allowed, before, after, userPool, _, _⟩
  · rw [before, after]
  · simp [before, after, dueToAuth, userPool]

/-! ## What holds of a backend at any time -/

/-- The entries are those of the factory of a kind that has built its resource, if it has. -/
structure Single {β : Type} (blueprint : Blueprint) (container : BackendContainer)
    (kind : ResourceKind) (entries : List (Nat × β)) : Prop where
  stored : ∀ factory, blueprint.kindOf factory = kind → Stores container factory →
    ∃ built, entries = [(factory.val, built)]
  missing : (∀ factory, blueprint.kindOf factory = kind → ¬ Stores container factory) →
    entries = []

namespace Single

variable {β : Type} {before after : BackendContainer} {kind : ResourceKind}
  {entries : List (Nat × β)}

theorem of_iff (single : blueprint.Single before kind entries)
    (same : ∀ factory, blueprint.kindOf factory = kind →
      (Stores after factory ↔ Stores before factory)) : blueprint.Single after kind entries where
  stored factory isKind there := single.stored factory isKind ((same factory isKind).mp there)
  missing none := single.missing fun factory isKind there =>
    none factory isKind ((same factory isKind).mpr there)

theorem of_stores {factory : blueprint.Factory} (isKind : blueprint.kindOf factory = kind)
    (only : ∀ other, blueprint.kindOf other = kind → other = factory)
    (there : Stores after factory) (built : β) :
    blueprint.Single after kind [(factory.val, built)] where
  stored other otherKind _ := by
    rw [only other otherKind]
    exact ⟨built, rfl⟩
  missing none := absurd there (none factory isKind)

theorem admitted {apiArn : String} {first last : List (Nat × BuiltAuth)}
    (single : blueprint.Single before .auth first) (admitted : Admitted apiArn first last) :
    blueprint.Single before .auth last := by
  rcases admitted with ⟨rfl, rfl⟩ | ⟨number, kept, allowed, rfl, rfl, _⟩
  · exact single
  · constructor
    · intro factory isAuth there
      rcases single.stored factory isAuth there with ⟨built, same⟩
      cases same
      exact ⟨allowed, rfl⟩
    · intro none
      cases single.missing none

end Single

theorem stores_kept_iff {before inner : BackendContainer} {factory other : blueprint.Factory}
    (others : blueprint.SameOthers inner before) (different : other ≠ factory)
    (notHandler : ¬ blueprint.IsHandler other) :
    Stores (kept inner factory) other ↔ Stores before other := by
  rw [Stores, Stores, lookup?_kept_of_ne inner different, others other notHandler]

/-- The policies of functions are those that auth and data have granted by now, and the roles of
logged-in users and guests have theirs as soon as data is built. -/
structure LeastPrivilege (blueprint : Blueprint) (container : BackendContainer) : Prop where
  built : ∃ built, blueprint.Built container built
  numbered : blueprint.Numbered container.state
  auth : blueprint.Single container .auth container.state.auths.entries
  data : blueprint.Single container .data container.state.datas.entries
  /-- The data resource is built after the auth resource. -/
  ordered : ∀ auth data, blueprint.kindOf auth = .auth → blueprint.kindOf data = .data →
    Stores container data → Stores container auth
  meets : ∀ function, Meets (blueprint.due container.state function)
    (blueprint.attachedTo container.state function)
  fresh : container.state.datas.entries = [] →
    ∀ auth ∈ container.state.auths.entries, LetsNothing auth.2
  callers : ∀ auth ∈ container.state.auths.entries, ∀ data ∈ container.state.datas.entries,
    LetsCall data.2.construct.resources.apiArn auth.2

/-- A request outside of any generator has succeeded. -/
structure Succeeded (blueprint : Blueprint) (before : BackendContainer)
    (factory : blueprint.Factory) (found : Instance) (after : BackendContainer) : Prop where
  found : found = blueprint.instanceFor factory
  privilege : blueprint.LeastPrivilege after
  stored : Stores after factory
  providers : after.state.providers = before.state.providers
  unfolds : blueprint.Unfolds before.state after.state

namespace LeastPrivilege

variable {before after : BackendContainer}

theorem congr (self : blueprint.LeastPrivilege before)
    (built : ∃ built, blueprint.Built after built)
    (agrees : blueprint.Agrees before.state after.state)
    (others : blueprint.SameOthers after before) : blueprint.LeastPrivilege after := by
  have stores : ∀ factory, ¬ blueprint.IsHandler factory →
      (Stores after factory ↔ Stores before factory) := by
    intro factory notHandler
    rw [Stores, Stores, others factory notHandler]
  constructor
  case built => exact built
  case numbered => exact agrees.numbered self.numbered
  case auth =>
    rw [← agrees.auths]
    exact self.auth.of_iff fun factory isAuth => stores factory (not_isHandler_of_auth isAuth)
  case data =>
    rw [← agrees.datas]
    exact self.data.of_iff fun factory isData => stores factory (not_isHandler_of_data isData)
  case ordered =>
    intro auth data isAuth isData kept
    rw [stores _ (not_isHandler_of_auth isAuth)]
    rw [stores _ (not_isHandler_of_data isData)] at kept
    exact self.ordered auth data isAuth isData kept
  case meets =>
    intro function
    rw [← agrees.due, ← agrees.attachedTo]
    exact self.meets function
  case fresh =>
    rw [← agrees.auths, ← agrees.datas]
    exact self.fresh
  case callers =>
    rw [← agrees.auths, ← agrees.datas]
    exact self.callers

theorem opened (self : blueprint.LeastPrivilege before) {factory : blueprint.Factory}
    (notHandler : ¬ blueprint.IsHandler factory) (journal : Journal) :
    blueprint.LeastPrivilege (opened before factory journal) := by
  rcases self.built with ⟨built, holds⟩
  exact self.congr ⟨built, holds.opened notHandler journal⟩ (agrees_opened before factory journal)
    fun _ _ => rfl

theorem of_light (self : blueprint.LeastPrivilege before) {factory : blueprint.Factory}
    (light : ¬ blueprint.IsHandler factory → Stores before factory) {found : Instance}
    (done : blueprint.catalogue.run (blueprint.instanceOf factory) before = (.ok found, after)) :
    blueprint.Succeeded before factory found after := by
  rcases self.built with ⟨built, holds⟩
  rcases holds.of_instanceOf (fun notHandler => Or.inl (light notHandler)) done with
    ⟨same, obtains⟩
  exact ⟨same, self.congr obtains.built obtains.agrees obtains.others, obtains.stored,
    obtains.agrees.providers.symm, .single (.functions obtains.agrees)⟩

/-- As long as there is no auth resource, there is no data resource. -/
theorem entries_of_missing (self : blueprint.LeastPrivilege before)
    (singletons : blueprint.HasSingletons) {auth : blueprint.Factory}
    (isAuth : blueprint.kindOf auth = .auth) (missing : ¬ Stores before auth) :
    before.state.auths.entries = [] ∧ before.state.datas.entries = [] := by
  constructor
  · apply self.auth.missing
    intro other otherAuth
    rw [singletons.auth other auth otherAuth isAuth]
    exact missing
  · exact self.data.missing fun data isData there =>
      missing (self.ordered auth data isAuth isData there)

theorem of_auth (self : blueprint.LeastPrivilege before) (singletons : blueprint.HasSingletons)
    {auth : blueprint.Factory} (isAuth : blueprint.kindOf auth = .auth)
    (discoverable : blueprint.Discoverable before.state)
    (idle : before.isResolving (blueprint.idOf auth) = false) {found : Instance}
    (done : blueprint.catalogue.run (blueprint.instanceOf auth) before = (.ok found, after)) :
    blueprint.Succeeded before auth found after := by
  by_cases stored : Stores before auth
  · exact self.of_light (fun _ => stored) done
  have notHandler := not_isHandler_of_auth isAuth
  rcases self.built with ⟨_, holds⟩
  have absent := holds.lookup?_eq_none stored
  rw [run_instanceOf_eq_ok_of_absent absent idle] at done
  rcases done with ⟨_, rfl, journal, inner, _, ran, rfl⟩
  rcases exists_auth isAuth with ⟨settings, site, defined⟩
  rw [defined] at ran
  have opened := self.opened notHandler journal
  have closed := closed_opened_auth singletons isAuth discoverable absent journal
  rcases (mirrors_buildAuth auth settings).alone opened.built closed ran with
    ⟨providers, ⟨built, holdsInner⟩, _, others⟩
  rcases bestows_of_buildAuth opened.built closed opened.numbered ran with
    ⟨resource, between, bestows, fresh, ended⟩
  -- No policy is due to the data resource yet, so those that auth grants are the last ones.
  rcases self.entries_of_missing singletons isAuth stored with ⟨noAuth, noData⟩
  have storedAfter : Stores (kept inner auth) auth :=
    stores_kept ((others auth notHandler).trans absent)
  have auths : inner.state.auths.entries = [(auth.val, resource)] := by
    rw [ended]
    exact bestows.entries_auths noAuth _ _
  have datas : inner.state.datas = before.state.datas := by
    rw [ended]
    exact bestows.datas
  have unfolds : blueprint.Unfolds before.state inner.state := by
    rw [ended]
    exact .head (.functions (agrees_opened before auth journal))
      (.single (.auth defined noAuth noData bestows fresh))
  refine ⟨rfl, ?_, storedAfter, providers, unfolds⟩
  constructor
  case built => exact ⟨built, holdsInner.kept notHandler⟩
  case numbered =>
    change blueprint.Numbered inner.state
    rw [ended]
    exact bestows.numbered
  case auth =>
    change blueprint.Single (kept inner auth) .auth inner.state.auths.entries
    rw [auths]
    exact .of_stores isAuth (fun other otherAuth => singletons.auth other auth otherAuth isAuth)
      storedAfter resource
  case data =>
    change blueprint.Single (kept inner auth) .data inner.state.datas.entries
    rw [datas]
    exact self.data.of_iff fun data isData => stores_kept_iff others
      (fun same => auth_ne_data isData isAuth same.symm) (not_isHandler_of_data isData)
  case ordered =>
    intro other data otherAuth _ _
    rw [singletons.auth other auth otherAuth isAuth]
    exact storedAfter
  case meets =>
    intro function
    have due : blueprint.due inner.state function = blueprint.due before.state function ++
        blueprint.dueFor function (settings.access.getD [])
          (AuthAction.Allowed resource.construct.resources.userPool.arn) := by
      simp [Blueprint.due, auths, datas, noAuth, noData, dueToAuth, authGrants_of_defined defined]
    change Meets (blueprint.due inner.state function) (blueprint.attachedTo inner.state function)
    rw [due, ended]
    exact bestows.meets (fun _ _ _ makes => makes.allowsExactly_auth) (self.meets function)
  case fresh =>
    intro _ entry entry_mem
    change entry ∈ inner.state.auths.entries at entry_mem
    rw [auths, List.mem_singleton] at entry_mem
    rw [entry_mem]
    exact fun role role_mem => fresh role (List.mem_append_left _ role_mem)
  case callers =>
    intro _ _ data data_mem
    change data ∈ inner.state.datas.entries at data_mem
    rw [datas, noData] at data_mem
    cases data_mem

/-- What the data resource finds out about the auth resource, which is built by then. -/
theorem of_providedAuth (self : blueprint.LeastPrivilege before)
    (singletons : blueprint.HasSingletons) (discoverable : blueprint.Discoverable before.state)
    (idle : ∀ auth, blueprint.kindOf auth = .auth →
      before.isResolving (blueprint.idOf auth) = false) {provided : Option (Nat × BuiltAuth)}
    (done : blueprint.catalogue.run (blueprint.providedAuth authResourcesToken) before =
      (.ok provided, after)) :
    blueprint.LeastPrivilege after ∧ after.state.providers = before.state.providers ∧
      blueprint.Unfolds before.state after.state ∧
      (∀ auth, blueprint.kindOf auth = .auth → Stores after auth) ∧
      ((provided.map (·.1) = none ∧ after.state.auths.entries = []) ∨
        ∃ number built, provided.map (·.1) = some number ∧
          after.state.auths.entries = [(number, built)]) := by
  rw [run_providedAuth_eq_ok] at done
  rcases done with ⟨unprovided, rfl, rfl⟩ | ⟨auth, found, built, provides, asked, _, rfl⟩
  · have none : ∀ auth, blueprint.kindOf auth ≠ .auth := by
      intro auth isAuth
      rw [(discoverable auth).mp isAuth] at unprovided
      cases unprovided
    refine ⟨self, rfl, .refl, fun auth isAuth => absurd isAuth (none auth), Or.inl ⟨rfl, ?_⟩⟩
    exact self.auth.missing fun auth isAuth => absurd isAuth (none auth)
  · have isAuth := (discoverable auth).mpr provides
    rcases self.of_auth singletons isAuth discoverable (idle auth isAuth) asked with
      ⟨rfl, later, stored, providers, unfolds⟩
    rcases later.auth.stored auth isAuth stored with ⟨kept, entries⟩
    refine ⟨later, providers, unfolds, ?_, Or.inr ⟨auth, kept, rfl, entries⟩⟩
    intro other otherAuth
    rw [singletons.auth other auth otherAuth isAuth]
    exact stored

theorem of_data (self : blueprint.LeastPrivilege before) (singletons : blueprint.HasSingletons)
    {data : blueprint.Factory} (isData : blueprint.kindOf data = .data)
    (outside : blueprint.Outside before) {found : Instance}
    (done : blueprint.catalogue.run (blueprint.instanceOf data) before = (.ok found, after)) :
    blueprint.Succeeded before data found after := by
  by_cases stored : Stores before data
  · exact self.of_light (fun _ => stored) done
  have notHandler := not_isHandler_of_data isData
  rcases self.built with ⟨_, holds⟩
  have absent := holds.lookup?_eq_none stored
  rcases exists_data isData with ⟨settings, site, defined⟩
  rw [run_data_eq_ok defined absent (outside.idle _)] at done
  rcases done with ⟨_, rfl, journal, provided, between, inner, _, providing, completed, rfl⟩
  have idle : ∀ auth, blueprint.kindOf auth = .auth →
      (Blueprint.opened before data journal).isResolving (blueprint.idOf auth) = false := by
    intro auth isAuth
    rw [isResolving_opened_of_ne (auth_ne_data isData isAuth)]
    exact outside.idle _
  rcases (self.opened notHandler journal).of_providedAuth singletons outside.discoverable idle
    providing with ⟨later, providersBetween, unfoldsBetween, storedAuth, entriesBetween⟩
  have cyclic := (cyclic_opened absent journal).of_run providing
  have closed := closed_of_cyclic_data singletons isData cyclic storedAuth
  rcases (mirrors_completeData data settings provided).alone later.built closed completed with
    ⟨providers, ⟨built, holdsInner⟩, _, others⟩
  rcases bestows_of_completeData later.built closed later.numbered completed with
    ⟨resource, middle, granting, admits, bestows, ended⟩
  have noData : between.state.datas.entries = [] := by
    apply later.data.missing
    intro other otherData there
    rw [singletons.data other data otherData isData, Stores, cyclic.1] at there
    cases there
  have storedAfter : Stores (kept inner data) data :=
    stores_kept ((others data notHandler).trans cyclic.1)
  have datas : inner.state.datas.entries = [(data.val, resource)] := by
    rw [ended]
    exact bestows.entries_datas (admits.datas ▸ noData) _ _
  have keptAuth : ∀ auth, blueprint.kindOf auth = .auth →
      (Stores (kept inner data) auth ↔ Stores between auth) := fun auth isAuth =>
    stores_kept_iff others (auth_ne_data isData isAuth) (not_isHandler_of_auth isAuth)
  -- The roles of the auth resource have no policies before the data resource is created, and one
  -- each from then on.
  have admittedMiddle := admits.admitted entriesBetween (later.fresh noData)
  have admitted : Admitted resource.construct.resources.apiArn between.state.auths.entries
      inner.state.auths.entries := by
    rw [show inner.state.auths = middle.auths by rw [ended]; exact bestows.auths]
    exact admittedMiddle
  have unfolds : blueprint.Unfolds before.state inner.state := by
    rw [ended]
    exact .head (.functions (agrees_opened before data journal))
      (.tail unfoldsBetween (.data defined noData admits admittedMiddle bestows))
  refine ⟨rfl, ?_, storedAfter, providers.trans providersBetween, unfolds⟩
  constructor
  case built => exact ⟨built, holdsInner.kept notHandler⟩
  case numbered =>
    change blueprint.Numbered inner.state
    rw [ended]
    exact bestows.numbered
  case auth => exact (later.auth.of_iff keptAuth).admitted admitted
  case data =>
    change blueprint.Single (kept inner data) .data inner.state.datas.entries
    rw [datas]
    exact .of_stores isData (fun other otherData => singletons.data other data otherData isData)
      storedAfter resource
  case ordered =>
    intro auth _ isAuth _ _
    exact (keptAuth auth isAuth).mpr (storedAuth auth isAuth)
  case meets =>
    intro function
    have due : blueprint.due inner.state function = blueprint.due between.state function ++
        blueprint.dueFor function (settings.access.getD [])
          (DataAction.Allowed resource.construct.resources.apiArn
            resource.construct.resources.bucketArn) := by
      rw [Blueprint.due, admitted.due]
      simp [Blueprint.due, datas, noData, dueToData, dataGrants_of_defined defined]
    change Meets (blueprint.due inner.state function) (blueprint.attachedTo inner.state function)
    rw [due, ended]
    refine bestows.meets (fun _ _ _ makes => makes.allowsExactly_data) ?_
    rw [admits.attached]
    exact later.meets function
  case fresh =>
    intro none
    change inner.state.datas.entries = [] at none
    rw [datas] at none
    cases none
  case callers =>
    change ∀ auth ∈ inner.state.auths.entries, ∀ entry ∈ inner.state.datas.entries,
      LetsCall entry.2.construct.resources.apiArn auth.2
    rw [datas]
    intro auth auth_mem entry entry_mem
    rw [List.mem_singleton.mp entry_mem]
    exact admitted.letsCall auth auth_mem

/-- Outside of any generator every request that succeeds preserves least privilege. -/
theorem of_instanceOf (self : blueprint.LeastPrivilege before)
    (singletons : blueprint.HasSingletons) (outside : blueprint.Outside before)
    {factory : blueprint.Factory} {found : Instance}
    (done : blueprint.catalogue.run (blueprint.instanceOf factory) before = (.ok found, after)) :
    blueprint.Succeeded before factory found after := by
  by_cases handler : blueprint.IsHandler factory
  · exact self.of_light (fun notHandler => absurd handler notHandler) done
  · rcases kindOf_of_not_isHandler handler with isAuth | isData
    · exact self.of_auth singletons isAuth outside.discoverable (outside.idle _) done
    · exact self.of_data singletons isData outside done

theorem of_askAll (self : blueprint.LeastPrivilege before) (singletons : blueprint.HasSingletons)
    (outside : blueprint.Outside before) {factories : List blueprint.Factory}
    (done : blueprint.catalogue.run (blueprint.askAll factories) before = (.ok (), after)) :
    blueprint.LeastPrivilege after ∧ (∀ factory ∈ factories, Stores after factory) ∧
      blueprint.Unfolds before.state after.state := by
  induction factories generalizing before with
  | nil =>
      cases done
      exact ⟨self, by simp, .refl⟩
  | cons factory rest ih =>
      rw [run_askAll_cons_eq_ok] at done
      rcases done with ⟨found, between, asked, continued⟩
      have succeeded := self.of_instanceOf singletons outside asked
      have outsideBetween := outside.of_run asked succeeded.providers
      rcases ih succeeded.privilege outsideBetween continued with ⟨last, storedRest, unfolds⟩
      refine ⟨last, ?_, succeeded.unfolds.trans unfolds⟩
      intro other other_mem
      rcases List.mem_cons.mp other_mem with rfl | rest_mem
      · exact Catalogue.extends_of_run blueprint.listed continued _ _ succeeded.stored
      · exact storedRest other rest_mem

end LeastPrivilege

/-! ## Synthesis -/

theorem attached_freshFunction {function : blueprint.Factory} {built : BuiltFunction}
    (fresh : blueprint.freshFunction function = some built) : built.lambda.role.attached = [] := by
  unfold freshFunction at fresh
  split at fresh
  · next settings site _ =>
      rcases Option.map_eq_some_iff.mp fresh with ⟨resolved, _, rfl⟩
      exact BuiltFunction.attached_ofResolved _ _ resolved
  · cases fresh
    rfl
  · cases fresh

theorem attachedTo_of_absent {assembly : Assembly} {function : blueprint.Factory}
    (absent : assembly.functions.find? function = none) :
    blueprint.attachedTo assembly function = [] := by
  rw [attachedTo, functionIn, absent, Option.none_or]
  cases fresh : blueprint.freshFunction function with
  | none => rfl
  | some built => exact attached_freshFunction fresh

section Holding

variable {journal : Journal} {resources : List (String × blueprint.Factory)}

theorem auths_holding :
    (Backend.holding blueprint journal resources).container.state.auths.entries = [] := by
  rw [container_holding]
  rfl

theorem datas_holding :
    (Backend.holding blueprint journal resources).container.state.datas.entries = [] := by
  rw [container_holding]
  rfl

theorem attachedTo_holding (function : blueprint.Factory) : blueprint.attachedTo
    (Backend.holding blueprint journal resources).container.state function = [] := by
  rw [container_holding]
  exact attachedTo_of_absent rfl

theorem leastPrivilege_holding :
    blueprint.LeastPrivilege (Backend.holding blueprint journal resources).container := by
  have missing : ∀ factory : blueprint.Factory,
      ¬ Stores (Backend.holding blueprint journal resources).container factory := by
    intro factory stored
    rw [Stores, lookup?_holding] at stored
    cases stored
  constructor
  case built => exact ⟨[], built_holding⟩
  case numbered =>
    intro function issued issued_mem
    rw [attachedTo_holding] at issued_mem
    cases issued_mem
  case auth =>
    exact ⟨fun factory _ stored => absurd stored (missing factory), fun _ => auths_holding⟩
  case data =>
    exact ⟨fun factory _ stored => absurd stored (missing factory), fun _ => datas_holding⟩
  case ordered =>
    intro _ data _ _ stored
    exact absurd stored (missing data)
  case meets =>
    intro function
    rw [attachedTo_holding, due, auths_holding, datas_holding]
    exact .nil
  case fresh =>
    intro _ auth auth_mem
    rw [auths_holding] at auth_mem
    cases auth_mem
  case callers =>
    intro auth auth_mem
    rw [auths_holding] at auth_mem
    cases auth_mem

end Holding

/-- The backend has built its auth and data resources and the functions that were added. Every
function has the policies that auth and data grant it and no others, and the roles of logged-in
users and guests may call the API and do nothing else. -/
structure Privileged (blueprint : Blueprint) (numbers : List Nat) (assembly : Assembly) : Prop where
  auth : ∀ factory, blueprint.kindOf factory = .auth →
    ∃ built, assembly.auths.entries = [(factory.val, built)]
  noAuth : (∀ factory, blueprint.kindOf factory ≠ .auth) → assembly.auths.entries = []
  data : ∀ factory, blueprint.kindOf factory = .data →
    ∃ built, assembly.datas.entries = [(factory.val, built)]
  noData : (∀ factory, blueprint.kindOf factory ≠ .data) → assembly.datas.entries = []
  added : ∀ function : blueprint.Factory, blueprint.IsHandler function → function.val ∈ numbers →
    ∃ built, assembly.functions.find? function = some built
  functions : ∀ number built, assembly.functions.find? number = some built →
    ∃ function : blueprint.Factory, function.val = number ∧
      Meets (blueprint.due assembly function) built.lambda.role.attached
  callers : ∀ auth ∈ assembly.auths.entries, ∀ data ∈ assembly.datas.entries,
    ∀ role ∈ auth.2.construct.resources.identityRoles, ∃ issued, role.attached = [issued] ∧
      issued.AllowsExactly (DataScope.CallerAllowed data.2.construct.resources.apiArn)

theorem LeastPrivilege.privileged {container : BackendContainer} {numbers : List Nat}
    (self : blueprint.LeastPrivilege container)
    (stored : ∀ factory : blueprint.Factory, factory.val ∈ numbers → Stores container factory)
    (added : ∀ factory, ¬ blueprint.IsHandler factory → factory.val ∈ numbers) :
    blueprint.Privileged numbers container.state := by
  rcases self.built with ⟨built, holds⟩
  constructor
  case auth =>
    intro factory isAuth
    exact self.auth.stored factory isAuth
      (stored factory (added factory (not_isHandler_of_auth isAuth)))
  case noAuth => exact fun none => self.auth.missing fun factory isAuth _ => none factory isAuth
  case data =>
    intro factory isData
    exact self.data.stored factory isData
      (stored factory (added factory (not_isHandler_of_data isData)))
  case noData => exact fun none => self.data.missing fun factory isData _ => none factory isData
  case added =>
    intro function handler function_mem
    exact holds.exists_find? handler (stored function function_mem)
  case functions =>
    intro number function found
    have key : number ∈ container.state.functions.keys := by
      rw [← OrderedMap.find?_isSome_iff, found]
      rfl
    rw [holds.keys] at key
    rcases List.mem_map.mp key with ⟨factory, _, rfl⟩
    have attached :
        blueprint.attachedTo container.state factory = function.lambda.role.attached := by
      rw [attachedTo, functionIn_of_find? found]
      rfl
    refine ⟨factory, rfl, ?_⟩
    rw [← attached]
    exact self.meets factory
  case callers => exact self.callers

/-- A synthesis that succeeds, of a backend with its auth and data resources, builds everything that
was added, in stages. -/
theorem unfolds_of_synthesize {journal : Journal} {resources : List (String × blueprint.Factory)}
    (singletons : blueprint.HasSingletons)
    (added : ∀ factory, ¬ blueprint.IsHandler factory →
      factory.val ∈ (Backend.holding blueprint journal resources).resources.values)
    (succeeds : ((Backend.holding blueprint journal resources).synthesize blueprint).1 = .ok ()) :
    ∃ after : BackendContainer,
      ((Backend.holding blueprint journal resources).synthesize blueprint).2.assembly =
        after.state ∧
      blueprint.LeastPrivilege after ∧
      (∀ factory : blueprint.Factory,
        factory.val ∈ (Backend.holding blueprint journal resources).resources.values →
          Stores after factory) ∧
      blueprint.Unfolds (Backend.holding blueprint journal resources).assembly after.state := by
  have outside : blueprint.Outside (Backend.holding blueprint journal resources).container := by
    refine outside_holding singletons fun auth isAuth => ?_
    rcases mem_of_mem_values_holding (added auth (not_isHandler_of_auth isAuth)) with
      ⟨factory, factory_mem, same⟩
    rw [← Fin.ext same]
    exact factory_mem
  rw [synthesize_eq] at succeeds ⊢
  simp only [Backend.run, Backend.assembly] at succeeds ⊢
  rcases ran : blueprint.catalogue.run (blueprint.askAll
    ((Backend.holding blueprint journal resources).resources.values.filterMap blueprint.factoryAt?))
    (Backend.holding blueprint journal resources).container with ⟨outcome, after⟩
  rw [ran] at succeeds
  cases succeeds
  rcases leastPrivilege_holding.of_askAll singletons outside ran with ⟨later, stored, unfolds⟩
  refine ⟨after, rfl, later, fun factory factory_mem => stored factory ?_, unfolds⟩
  exact List.mem_filterMap.mpr ⟨factory.val, factory_mem, factoryAt?_val factory⟩

/-- A backend that is synthesised grants what its resources say and nothing else. -/
theorem synthesize_privileged {journal : Journal} {resources : List (String × blueprint.Factory)}
    (singletons : blueprint.HasSingletons)
    (added : ∀ factory, ¬ blueprint.IsHandler factory →
      factory.val ∈ (Backend.holding blueprint journal resources).resources.values)
    (succeeds : ((Backend.holding blueprint journal resources).synthesize blueprint).1 = .ok ()) :
    blueprint.Privileged (Backend.holding blueprint journal resources).resources.values
      ((Backend.holding blueprint journal resources).synthesize blueprint).2.assembly := by
  rcases unfolds_of_synthesize singletons added succeeds with ⟨after, same, later, stored, _⟩
  rw [same]
  exact later.privileged stored added

/-- A backend in which auth and data grant access to a function. -/
def sharing : Blueprint where
  configuration := .default
  siteCheck := none
  nameCheck := none
  definitions :=
    [.function { FunctionSettings.default with name := some "reader" } ⟨"reader.rs", 1, 1⟩,
     .auth
      { name := none
        login := ⟨some .default, none, none⟩
        multifactor := none
        emailSender := none
        smsSender := none
        groups := []
        triggers := Triggers.empty.set .postConfirmation ⟨"reader", []⟩
        access := some [⟨⟨"reader", []⟩, [.getUser, .manageGroupMembership]⟩] }
      ⟨"auth.rs", 1, 1⟩,
     .data
      { name := none
        schema := "type Todo @model \x7b id: ID \x7d"
        authorization := none
        functions := {}
        logging := none
        tableMappings := []
        access := some [⟨⟨"reader", []⟩, [.query, .listen]⟩, ⟨⟨"reader", []⟩, []⟩] }
      ⟨"data.rs", 1, 1⟩]
  names := OrderedMap.ofList [("reader", 0), ("auth", 1), ("data", 2)]

/-- Its resources, the data resource first. -/
def sharingResources : List (String × sharing.Factory) :=
  [("data", ⟨2, by decide⟩), ("reader", ⟨0, by decide⟩), ("auth", ⟨1, by decide⟩)]

theorem sharing_hasSingletons : sharing.HasSingletons := ⟨by decide, by decide⟩

theorem sharing_synthesizes :
    ((Backend.holding sharing .empty sharingResources).synthesize sharing).1 = .ok () := by
  decide +kernel

theorem sharing_privileged :
    sharing.HasSingletons ∧
      (∀ factory, ¬ sharing.IsHandler factory →
        factory.val ∈ (Backend.holding sharing .empty sharingResources).resources.values) ∧
      ((Backend.holding sharing .empty sharingResources).synthesize sharing).1 = .ok () ∧
      sharing.Privileged (Backend.holding sharing .empty sharingResources).resources.values
        ((Backend.holding sharing .empty sharingResources).synthesize sharing).2.assembly :=
  ⟨sharing_hasSingletons, by decide, sharing_synthesizes,
    synthesize_privileged sharing_hasSingletons (by decide) sharing_synthesizes⟩

/-- One policy for the grant of auth, and two for those of data. -/
example : (((Backend.holding sharing .empty sharingResources).synthesize
    sharing).2.assembly.functions.find? 0).map (·.lambda.role.attached.length) = some 3 := by
  decide +kernel

end Blueprint

end CloudSynth
