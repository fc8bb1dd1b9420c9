import CloudSynth.Proofs.Backend.LeastPrivilege
import CloudSynth.Proofs.Backend.Registration

/-!
# Names of policies

The name of a policy is made of the name of the resource that grants, of who accepts the policy, and
of the place of the grant among all grants of the resource. The place is the number that the name
ends in, so the policies that one resource grants to a function have different names
(`policyName_inj`).

The auth and the data resource count their grants on their own. If they have the same name, and each
of them has a grant to a function at the same place, then the function has two policies of one name
(`Blueprint.Clashes`). This is the only way in which a role comes to have such policies
(`Blueprint.nodup_policyNames_iff`).
-/

namespace CloudSynth

/-- The name of the policy for the grant at a place. -/
def policyName (resource acceptor : String) (place : Nat) : String :=
  resource ++ acceptor ++ "AccessPolicy" ++ toString place

theorem policyName_inj {resource other acceptor : String} {place otherPlace : Nat} :
    policyName resource acceptor place = policyName other acceptor otherPlace ↔
      resource = other ∧ place = otherPlace := by
  constructor
  · intro same
    have ends : EndsUnnumbered "AccessPolicy" := ⟨_, _, rfl, by decide⟩
    rcases append_toString_inj (ends.append _) (ends.append _) same with ⟨named, places⟩
    rw [String.append_left_inj, String.append_left_inj] at named
    exact ⟨named, places⟩
  · rintro ⟨rfl, rfl⟩
    rfl

namespace Blueprint

variable {blueprint : Blueprint} {α : Type}

/-! ## Places of grants -/

/-- The places of the grants that name a function. -/
def places (blueprint : Blueprint) (function : blueprint.Factory)
    (grants : List (Grant Reference α)) : List Nat :=
  (blueprint.placedGrants function 0 grants).map (·.2)

/-- There is a grant to the function at the place. -/
def GrantsAt (blueprint : Blueprint) (grants : List (Grant Reference α))
    (function : blueprint.Factory) (place : Nat) : Prop :=
  ∃ grant, grants[place]? = some grant ∧
    blueprint.factoryNamed? grant.grantee.name = some function

theorem mem_places_iff {function : blueprint.Factory} {grants : List (Grant Reference α)}
    {place : Nat} :
    place ∈ blueprint.places function grants ↔ blueprint.GrantsAt grants function place := by
  simp [places, placedGrants, GrantsAt, List.mem_zipIdx_iff_getElem?]

theorem nodup_places (function : blueprint.Factory) (grants : List (Grant Reference α)) :
    (blueprint.places function grants).Nodup := by
  have all : (grants.zipIdx.map (·.2)).Nodup := by
    rw [List.zipIdx_map_snd]
    exact List.nodup_range'
  exact all.sublist (List.filter_sublist.map _)

/-! ## Names that are due -/

/-- The names of the policies for grants to a function. -/
def namesFor (blueprint : Blueprint) (acceptor : String) (function : blueprint.Factory)
    (resource : String) (grants : List (Grant Reference α)) : List String :=
  (blueprint.places function grants).map (policyName resource acceptor)

theorem nodup_namesFor (acceptor : String) (function : blueprint.Factory) (resource : String)
    (grants : List (Grant Reference α)) :
    (blueprint.namesFor acceptor function resource grants).Nodup :=
  (blueprint.nodup_places function grants).map fun _ _ same => (policyName_inj.mp same).2

/-- The names of the policies that the resource of a factory grants to a function. -/
def namesFrom (blueprint : Blueprint) (grants : Nat → List (Grant Reference α)) (acceptor : String)
    (function : blueprint.Factory) (factory : Nat) : List String :=
  blueprint.namesFor acceptor function (blueprint.resourceName factory) (grants factory)

/-- The names of the policies that auth resources grant to a function, and then of those that data
resources do. -/
def dueNames (blueprint : Blueprint) (acceptor : String) (function : blueprint.Factory)
    (auths datas : List Nat) : List String :=
  auths.flatMap (blueprint.namesFrom blueprint.authGrants acceptor function) ++
    datas.flatMap (blueprint.namesFrom blueprint.dataGrants acceptor function)

/-- The policies have the names that are due to the grants, and roles of users have one policy at
most. -/
structure NamesPolicies (blueprint : Blueprint) (assembly : Assembly) : Prop where
  functions : ∀ function, (blueprint.attachedTo assembly function).map (·.policy.name) =
    blueprint.dueNames (blueprint.acceptorIn assembly function) function assembly.auths.keys
      assembly.datas.keys
  users : ∀ entry ∈ assembly.auths.entries, ∀ role ∈ entry.2.construct.resources.roles,
    role.attached.length ≤ 1

theorem Agrees.acceptorIn {first second : Assembly} (agrees : blueprint.Agrees first second)
    (function : blueprint.Factory) :
    blueprint.acceptorIn first function = blueprint.acceptorIn second function := by
  simp only [Blueprint.acceptorIn, agrees.functions]

section Bestows

variable {resource : String} {named : List (String × String)} {statementsFor : α → List Statement}
  {access : Option (List (Grant Reference α))} {before after : Assembly}

theorem Bestows.acceptorIn
    (bestows : blueprint.Bestows resource named statementsFor access before after)
    (function : blueprint.Factory) :
    blueprint.acceptorIn after function = blueprint.acceptorIn before function := by
  rcases bestows.accepts function with ⟨accepted, changed, _⟩
  rw [Blueprint.acceptorIn, Blueprint.acceptorIn, changed, Option.map_map]
  exact congrArg (Option.getD · "") (congrArg (Option.map · _)
    (funext fun built => built.acceptorId_acceptAll accepted _))

/-- What is granted has names of its own, which stand after those that were there. -/
theorem Bestows.names_attachedTo
    (bestows : blueprint.Bestows resource named statementsFor access before after)
    (function : blueprint.Factory) :
    (blueprint.attachedTo after function).map (·.policy.name) =
      (blueprint.attachedTo before function).map (·.policy.name) ++
        blueprint.namesFor (blueprint.acceptorIn before function) function resource
          (access.getD []) := by
  rcases bestows.accepts function with ⟨accepted, _, attached, policies⟩
  have named := congrArg (List.map Policy.name) policies
  simp only [List.map_map] at named
  rw [attached, List.map_append, namesFor, places, List.map_map]
  exact congrArg _ named

end Bestows

theorem Admitted.keys_eq {apiArn : String} {before after : List (Nat × BuiltAuth)}
    (admitted : Admitted apiArn before after) : after.map (·.1) = before.map (·.1) := by
  rcases admitted with ⟨rfl, rfl⟩ | ⟨number, kept, allowed, rfl, rfl, _⟩
  · rfl
  · rfl

/-- Roles of users that have no policies, or one, have one at most when they may call an API. -/
theorem Admitted.attached_le {apiArn : String} {before after : List (Nat × BuiltAuth)}
    (admitted : Admitted apiArn before after)
    (users : ∀ entry ∈ before, ∀ role ∈ entry.2.construct.resources.roles,
      role.attached.length ≤ 1) :
    ∀ entry ∈ after, ∀ role ∈ entry.2.construct.resources.roles, role.attached.length ≤ 1 := by
  rcases admitted with ⟨rfl, rfl⟩ | ⟨number, kept, allowed, rfl, rfl, _, groups, calls⟩
  · exact users
  · intro entry entry_mem role role_mem
    rw [List.mem_singleton.mp entry_mem] at role_mem
    rcases List.mem_append.mp role_mem with ofIdentity | ofGroup
    · rcases calls role ofIdentity with ⟨issued, attached, _⟩
      simp [attached]
    · rw [groups] at ofGroup
      exact users _ (List.mem_singleton_self _) role (List.mem_append_right _ ofGroup)

/-- Every stage gives the policies the names that are due. -/
theorem NamesPolicies.of_stage {before after : Assembly}
    (self : blueprint.NamesPolicies before) (stage : blueprint.Stage before after) :
    blueprint.NamesPolicies after := by
  cases stage with
  | functions agrees =>
      constructor
      case functions =>
        intro function
        rw [← agrees.attachedTo, ← agrees.acceptorIn, ← agrees.auths, ← agrees.datas]
        exact self.functions function
      case users =>
        rw [← agrees.auths]
        exact self.users
  | @auth between factory settings site built defined noAuth noData bestows fresh =>
      have auths := bestows.entries_auths noAuth factory.val built
      constructor
      case functions =>
        intro function
        change (blueprint.attachedTo between function).map _ =
          blueprint.dueNames (blueprint.acceptorIn between function) function
            (between.auths.insert factory.val built).keys between.datas.keys
        rw [bestows.names_attachedTo, self.functions, bestows.acceptorIn, bestows.datas]
        simp [dueNames, OrderedMap.keys, auths, noAuth, noData, namesFrom,
          resourceName_of_auth defined, authGrants_of_defined defined]
      case users =>
        intro entry entry_mem role role_mem
        change entry ∈ (between.auths.insert factory.val built).entries at entry_mem
        rw [auths, List.mem_singleton] at entry_mem
        subst entry_mem
        simp [fresh role role_mem]
  | @data middle between factory settings site built auth defined noData admits admitted bestows =>
      have datas := bestows.entries_datas (admits.datas ▸ noData) factory.val built
      constructor
      case functions =>
        intro function
        have acceptor : blueprint.acceptorIn middle function =
            blueprint.acceptorIn before function := by
          rw [acceptorIn, acceptorIn, admits.functions]
        change (blueprint.attachedTo between function).map _ =
          blueprint.dueNames (blueprint.acceptorIn between function) function between.auths.keys
            (between.datas.insert factory.val built).keys
        rw [bestows.names_attachedTo, admits.attached, self.functions, bestows.acceptorIn, acceptor,
          bestows.auths]
        simp [dueNames, OrderedMap.keys, datas, noData, admitted.keys_eq, namesFrom,
          resourceName_of_data defined, dataGrants_of_defined defined]
      case users =>
        change ∀ entry ∈ between.auths.entries, _
        rw [bestows.auths]
        exact admitted.attached_le self.users

theorem NamesPolicies.of_unfolds {before after : Assembly} (self : blueprint.NamesPolicies before)
    (unfolds : blueprint.Unfolds before after) : blueprint.NamesPolicies after := by
  induction unfolds with
  | refl => exact self
  | tail _ stage ih => exact ih.of_stage stage

theorem namesPolicies_holding {journal : Journal}
    {resources : List (String × blueprint.Factory)} :
    blueprint.NamesPolicies (Backend.holding blueprint journal resources).assembly where
  functions function := by
    have attached : blueprint.attachedTo (Backend.holding blueprint journal resources).assembly
        function = [] := attachedTo_holding function
    rw [attached, OrderedMap.keys, OrderedMap.keys, Backend.assembly, auths_holding, datas_holding]
    rfl
  users entry entry_mem := by
    rw [Backend.assembly, auths_holding] at entry_mem
    cases entry_mem

/-! ## Clashes -/

/-- The auth and the data resource have one name, and each has a grant to the function at the same
place. -/
def Clashes (blueprint : Blueprint) (function : blueprint.Factory) : Prop :=
  ∃ auth data : blueprint.Factory, ∃ authSettings authSite dataSettings dataSite,
    blueprint.definition auth = .auth authSettings authSite ∧
    blueprint.definition data = .data dataSettings dataSite ∧
    authSettings.resolvedName = dataSettings.resolvedName ∧
    ∃ place, blueprint.GrantsAt (authSettings.access.getD []) function place ∧
      blueprint.GrantsAt (dataSettings.access.getD []) function place

theorem disjoint_namesFor_iff {β : Type} {acceptor resource other : String}
    {function : blueprint.Factory} {grants : List (Grant Reference α)}
    {others : List (Grant Reference β)} :
    (blueprint.namesFor acceptor function resource grants).Disjoint
        (blueprint.namesFor acceptor function other others) ↔
      ¬ (resource = other ∧ ∃ place, blueprint.GrantsAt grants function place ∧
        blueprint.GrantsAt others function place) := by
  constructor
  · rintro disjoint ⟨rfl, place, first, second⟩
    exact disjoint (List.mem_map_of_mem (mem_places_iff.mpr first))
      (List.mem_map_of_mem (mem_places_iff.mpr second))
  · intro apart name first second
    rcases List.mem_map.mp first with ⟨place, place_mem, rfl⟩
    rcases List.mem_map.mp second with ⟨otherPlace, other_mem, same⟩
    rcases policyName_inj.mp same with ⟨rfl, rfl⟩
    exact apart ⟨rfl, _, mem_places_iff.mp place_mem, mem_places_iff.mp other_mem⟩

section Privileged

variable {numbers : List Nat} {assembly : Assembly}

/-- A resource of a kind has been built if there is a factory for it. -/
theorem entries_cases {β : Type} {kind : ResourceKind} {entries : List (Nat × β)}
    (built : ∀ factory, blueprint.kindOf factory = kind → ∃ built, entries = [(factory.val, built)])
    (missing : (∀ factory, blueprint.kindOf factory ≠ kind) → entries = []) :
    (∀ factory, blueprint.kindOf factory ≠ kind) ∧ entries = [] ∨
      ∃ factory resource, blueprint.kindOf factory = kind ∧
        entries = [(factory.val, resource)] := by
  by_cases defined : ∃ factory, blueprint.kindOf factory = kind
  · rcases defined with ⟨factory, isKind⟩
    rcases built factory isKind with ⟨resource, entries⟩
    exact Or.inr ⟨factory, resource, isKind, entries⟩
  · have none : ∀ factory, blueprint.kindOf factory ≠ kind :=
      fun factory isKind => defined ⟨factory, isKind⟩
    exact Or.inl ⟨none, missing none⟩

/-- The policies of a function have different names unless the auth and the data resource clash. -/
theorem NamesPolicies.nodup_iff (self : blueprint.NamesPolicies assembly)
    (singletons : blueprint.HasSingletons) (privileged : blueprint.Privileged numbers assembly)
    (function : blueprint.Factory) :
    ((blueprint.attachedTo assembly function).map (·.policy.name)).Nodup ↔
      ¬ blueprint.Clashes function := by
  rw [self.functions, dueNames, OrderedMap.keys, OrderedMap.keys]
  rcases entries_cases privileged.auth privileged.noAuth with
    ⟨none, entries⟩ | ⟨auth, builtAuth, isAuth, entries⟩
  · have clashless : ¬ blueprint.Clashes function := by
      rintro ⟨auth, _, _, _, _, _, defined, _⟩
      exact none auth (kindOf_of_auth defined)
    rcases entries_cases privileged.data privileged.noData with
      ⟨_, dataEntries⟩ | ⟨data, builtData, _, dataEntries⟩
    · simp [entries, dataEntries, clashless]
    · simp [entries, dataEntries, clashless, namesFrom, nodup_namesFor]
  rcases entries_cases privileged.data privileged.noData with
    ⟨none, dataEntries⟩ | ⟨data, builtData, isData, dataEntries⟩
  · have clashless : ¬ blueprint.Clashes function := by
      rintro ⟨_, data, _, _, _, _, _, defined, _⟩
      exact none data (kindOf_of_data defined)
    simp [entries, dataEntries, clashless, namesFrom, nodup_namesFor]
  · -- Both are there, so the names that one of them grants are to be apart from those of the other.
    rcases exists_auth isAuth with ⟨settings, site, defined⟩
    rcases exists_data isData with ⟨dataSettings, dataSite, dataDefined⟩
    simp only [entries, dataEntries, List.map_cons, List.map_nil, List.flatMap_singleton, namesFrom]
    rw [resourceName_of_auth defined, resourceName_of_data dataDefined,
      authGrants_of_defined defined, dataGrants_of_defined dataDefined, List.nodup_append',
      disjoint_namesFor_iff]
    simp only [nodup_namesFor, true_and, not_iff_not]
    constructor
    · intro clash
      exact ⟨auth, data, settings, site, dataSettings, dataSite, defined, dataDefined, clash⟩
    · rintro ⟨other, otherData, _, _, _, _, otherDefined, otherDataDefined, clash⟩
      cases singletons.auth other auth (kindOf_of_auth otherDefined) isAuth
      cases singletons.data otherData data (kindOf_of_data otherDataDefined) isData
      cases defined.symm.trans otherDefined
      cases dataDefined.symm.trans otherDataDefined
      exact clash

end Privileged

/-- In a backend that is synthesised, the policies of a function have different names unless the
auth and the data resource clash, and those of every role of users have different names. -/
theorem nodup_policyNames_iff {journal : Journal} {resources : List (String × blueprint.Factory)}
    (singletons : blueprint.HasSingletons)
    (added : ∀ factory, ¬ blueprint.IsHandler factory →
      factory.val ∈ (Backend.holding blueprint journal resources).resources.values)
    (succeeds : ((Backend.holding blueprint journal resources).synthesize blueprint).1 = .ok ()) :
    (∀ number built, ((Backend.holding blueprint journal resources).synthesize
        blueprint).2.assembly.functions.find? number = some built →
      ∃ function : blueprint.Factory, function.val = number ∧
        ((built.lambda.role.policies.map (·.name)).Nodup ↔ ¬ blueprint.Clashes function)) ∧
    ∀ entry ∈ ((Backend.holding blueprint journal resources).synthesize
        blueprint).2.assembly.auths.entries,
      ∀ role ∈ entry.2.construct.resources.roles, (role.policies.map (·.name)).Nodup := by
  rcases unfolds_of_synthesize singletons added succeeds with ⟨after, same, later, stored, unfolds⟩
  have privileged := later.privileged stored added
  have names := namesPolicies_holding.of_unfolds unfolds
  rw [same]
  constructor
  · intro number built found
    rcases privileged.functions number built found with ⟨function, rfl, _⟩
    refine ⟨function, rfl, ?_⟩
    have attached : blueprint.attachedTo after.state function = built.lambda.role.attached := by
      rw [attachedTo, functionIn_of_find? found]
      rfl
    rw [← names.nodup_iff singletons privileged, attached, Role.policies, List.map_map]
    rfl
  · intro entry entry_mem role role_mem
    have short := names.users entry entry_mem role role_mem
    rw [Role.policies, List.map_map]
    rcases attached : role.attached with _ | ⟨issued, _ | ⟨other, rest⟩⟩
    · simp
    · simp
    · simp [attached] at short

theorem nodup_policyNames_iff_sharing :
    sharing.HasSingletons ∧
      (∀ factory, ¬ sharing.IsHandler factory →
        factory.val ∈ (Backend.holding sharing .empty sharingResources).resources.values) ∧
      ((Backend.holding sharing .empty sharingResources).synthesize sharing).1 = .ok () ∧
      (∀ number built, ((Backend.holding sharing .empty sharingResources).synthesize
          sharing).2.assembly.functions.find? number = some built →
        ∃ function : sharing.Factory, function.val = number ∧
          ((built.lambda.role.policies.map (·.name)).Nodup ↔ ¬ sharing.Clashes function)) ∧
      ∀ entry ∈ ((Backend.holding sharing .empty sharingResources).synthesize
          sharing).2.assembly.auths.entries,
        ∀ role ∈ entry.2.construct.resources.roles, (role.policies.map (·.name)).Nodup :=
  ⟨sharing_hasSingletons, by decide, sharing_synthesizes,
    nodup_policyNames_iff sharing_hasSingletons (by decide) sharing_synthesizes⟩

/-- A backend whose auth and data resources have one name and grant access to one function. -/
def clashing : Blueprint where
  configuration := .default
  siteCheck := none
  nameCheck := some .standard
  definitions :=
    [.function { FunctionSettings.default with name := some "reader" } ⟨"reader.rs", 1, 1⟩,
     .auth
      { name := some "app"
        login := ⟨some .default, none, none⟩
        multifactor := none
        emailSender := none
        smsSender := none
        groups := []
        triggers := .empty
        access := some [⟨⟨"reader", []⟩, [.getUser]⟩] }
      ⟨"auth.rs", 1, 1⟩,
     .data
      { name := some "app"
        schema := "type Todo @model \x7b id: ID \x7d"
        authorization := none
        functions := {}
        logging := none
        tableMappings := []
        access := some [⟨⟨"reader", []⟩, [.query]⟩] }
      ⟨"data.rs", 1, 1⟩]
  names := OrderedMap.ofList [("reader", 0), ("auth", 1), ("data", 2)]

/-- Its resources. -/
def clashingResources : List (String × clashing.Factory) :=
  [("reader", ⟨0, by decide⟩), ("auth", ⟨1, by decide⟩), ("data", ⟨2, by decide⟩)]

/-- The function has a policy of each, and the two have one name. -/
theorem clashing_policyNames :
    clashing.HasSingletons ∧
      ((Backend.holding clashing .empty clashingResources).synthesize clashing).1 = .ok () ∧
      ∃ built, ((Backend.holding clashing .empty clashingResources).synthesize
          clashing).2.assembly.functions.find? 0 = some built ∧
        ¬ (built.lambda.role.policies.map (·.name)).Nodup := by
  have names : (((Backend.holding clashing .empty clashingResources).synthesize
      clashing).2.assembly.functions.find? 0).map (·.lambda.role.policies.map (·.name)) =
        some ["appreaderLambdaResourceAccessAcceptorAccessPolicy0",
          "appreaderLambdaResourceAccessAcceptorAccessPolicy0"] := by
    decide +kernel
  rcases Option.map_eq_some_iff.mp names with ⟨built, found, same⟩
  refine ⟨⟨by decide, by decide⟩, by decide +kernel, built, found, ?_⟩
  rw [same]
  decide

end Blueprint

end CloudSynth
