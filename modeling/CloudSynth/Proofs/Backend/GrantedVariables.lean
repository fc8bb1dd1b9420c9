import CloudSynth.Proofs.Backend.FunctionNames
import CloudSynth.Proofs.Backend.PublishedParameters

/-!
# Variables that come with grants

A function has the variables that its settings declare, and those that come with the grants of the
auth and data resources which are built: the names of what they publish, and the variable that lists
them (`Blueprint.Receives`). While a resource is being built, some of its grants have been handed
over and others have not, and requests for other resources, which are built in turn, may come in
between. So what is stated of a request is stated with pending grants (`Blueprint.Traced`):
whichever there are, the request leaves them pending (`Blueprint.carries_instanceOf`).

Nothing is assumed about how many auth and data resources there are.
-/

namespace CloudSynth

/-! ## Variables of a function -/

/-- The names of the variables in the environment of a function. -/
def BuiltFunction.variableNames (built : BuiltFunction) : List String :=
  built.lambda.environment.keys

theorem Lambda.mem_keys_foldl_setVariable {β : Type} {name value : β → String} {items : List β}
    {function : Lambda} {key : String} :
    key ∈ (items.foldl (fun function item => function.setVariable (name item) (value item))
        function).environment.keys ↔
      key ∈ function.environment.keys ∨ key ∈ items.map name := by
  induction items generalizing function with
  | nil => simp
  | cons item rest ih =>
      rw [List.foldl_cons, ih, setVariable, SortedMap.mem_keys_insert, List.map_cons,
        List.mem_cons, or_assoc]

theorem Lambda.mem_keys_withParameters {function : Lambda} {entries : List ParameterEntry}
    {parameters : SortedMap String} {key : String} :
    key ∈ (function.withParameters entries parameters).environment.keys ↔
      key ∈ function.environment.keys ∨ key ∈ parameterListVariable :: entries.map (·.name) := by
  have placeholders := @mem_keys_foldl_setVariable _ ParameterEntry.name
    (fun _ => runTimePlaceholder) entries function key
  rw [withParameters, setVariable, SortedMap.mem_keys_insert, placeholders, List.mem_cons,
    or_assoc, or_comm (a := key ∈ entries.map _)]

namespace BuiltFunction

/-- A policy comes with the variables of its parameters, and with the one that lists them. -/
theorem IsDefined.mem_variableNames_accept {built : BuiltFunction} (isDefined : built.IsDefined)
    {entries : List ParameterEntry} (nonempty : entries ≠ []) {issued : IssuedPolicy}
    {key : String} :
    key ∈ (built.accept issued entries).variableNames ↔
      key ∈ built.variableNames ∨ key ∈ parameterListVariable :: entries.map (·.name) := by
  rcases isDefined with ⟨resolved, listing, defined⟩
  rcases entries with _ | ⟨entry, rest⟩
  · exact absurd rfl nonempty
  · have exposed : (built.accept issued (entry :: rest)).lambda =
        (built.lambda.attach issued).withParameters (entry :: rest)
          (addParameters listing (entry :: rest)) := by
      simp only [BuiltFunction.accept, defined, exposeParameters]
    rw [variableNames, exposed, Lambda.mem_keys_withParameters]
    rfl

/-- A function that is just built has the variables that its settings declare. -/
theorem mem_variableNames_ofResolved {stack : Stack} {identifier : BackendIdentifier}
    {resolved : ResolvedFunction} {key : String}
    (there : key ∈ (ofResolved stack identifier resolved).variableNames) :
    key ∈ resolved.environment.keys ∨ key = parameterListVariable := by
  have plain : ∀ pair ∈ resolved.plainVariables, pair.1 ∈ resolved.environment.keys := by
    intro pair pair_mem
    rcases List.mem_filterMap.mp pair_mem with ⟨entry, entry_mem, holds⟩
    split at holds
    · cases holds
      exact List.mem_map_of_mem entry_mem
    · cases holds
  have secret : ∀ entry ∈ resolved.secretEntries identifier,
      entry.name ∈ resolved.environment.keys := by
    intro parameter parameter_mem
    rcases List.mem_filterMap.mp parameter_mem with ⟨entry, entry_mem, holds⟩
    split at holds
    · cases holds
    · cases holds
      exact List.mem_map_of_mem entry_mem
  have ofPlain : ∀ function : Lambda, function.environment = {} →
      key ∈ (resolved.plainVariables.foldl
        (fun function pair => function.setVariable pair.1 pair.2) function).environment.keys →
      key ∈ resolved.environment.keys := by
    intro function empty there
    rcases Lambda.mem_keys_foldl_setVariable.mp there with before | named
    · rw [empty] at before
      cases before
    · rcases List.mem_map.mp named with ⟨pair, pair_mem, rfl⟩
      exact plain pair pair_mem
  unfold ofResolved at there
  rcases entries : resolved.secretEntries identifier with _ | ⟨entry, rest⟩
  · rw [entries] at there
    exact Or.inl (ofPlain _ rfl there)
  · rw [entries] at there
    rcases Lambda.mem_keys_withParameters.mp there with before | named
    · exact Or.inl (ofPlain _ rfl before)
    · rcases List.mem_cons.mp named with same | named
      · exact Or.inr same
      · rcases List.mem_map.mp named with ⟨parameter, parameter_mem, rfl⟩
        exact Or.inl (secret parameter (entries ▸ parameter_mem))

end BuiltFunction

/-- An auth or data resource of the factory is built. -/
def Assembly.HasBuilt (assembly : Assembly) (granter : Nat) : Prop :=
  granter ∈ assembly.auths.keys ∨ granter ∈ assembly.datas.keys

namespace Blueprint

variable {blueprint : Blueprint} {α β : Type}

/-! ## What grants bring -/

/-- One of the grants names the function. -/
def Grantee (blueprint : Blueprint) (grants : List (Grant Reference α))
    (function : blueprint.Factory) : Prop :=
  ∃ grant ∈ grants, blueprint.factoryNamed? grant.grantee.name = some function

/-- The auth or data resource of a factory grants access to the function. -/
def GrantsAccess (blueprint : Blueprint) (granter : Nat) (function : blueprint.Factory) : Prop :=
  blueprint.Grantee (blueprint.authGrants granter) function ∨
    blueprint.Grantee (blueprint.dataGrants granter) function

/-- What the names of the values end in that a definition publishes. -/
def endingsOf (definition : Definition) : List String :=
  match definition with
  | .auth .. => ["_USERPOOL_ID"]
  | .data .. => publishedEndings.tail
  | _ => []

/-- The names of the values that the resource of a factory publishes. -/
def publishedNames (blueprint : Blueprint) (granter : Nat) : List String :=
  ((blueprint.definitions[granter]?.map endingsOf).getD []).map
    (blueprint.resourceName granter ++ ·)

/-- A function is granted access, and the variable comes with the grant. -/
def Receives (blueprint : Blueprint) (granter : Nat) (function : blueprint.Factory)
    (key : String) : Prop :=
  blueprint.GrantsAccess granter function ∧
    key ∈ parameterListVariable :: blueprint.publishedNames granter

/-- The function, if it is built, has the variable, or it would have it. -/
def HasVariable (blueprint : Blueprint) (assembly : Assembly) (function : blueprint.Factory)
    (key : String) : Prop :=
  ∃ built, blueprint.functionIn assembly function = some built ∧ key ∈ built.variableNames

/-- The function has the variable as soon as it is built. -/
def HasAtFirst (blueprint : Blueprint) (function : blueprint.Factory) (key : String) : Prop :=
  ∃ built, blueprint.freshFunction function = some built ∧ key ∈ built.variableNames

/-- The variables of functions are those that they have at first, those that come with the grants of
the resources which are built, and pending ones. -/
structure Traced (blueprint : Blueprint) (pending : blueprint.Factory → String → Prop)
    (assembly : Assembly) : Prop where
  areDefined : blueprint.AreDefined assembly
  /-- What is built has passed its checks. -/
  checked : ∀ granter, assembly.HasBuilt granter → ∃ factory : blueprint.Factory,
    factory.val = granter ∧ blueprint.verdict (blueprint.definition factory) = .ok ()
  variable_iff : ∀ function, blueprint.kindOf function = .function → ∀ key,
    blueprint.HasVariable assembly function key ↔
      blueprint.HasAtFirst function key ∨
        (∃ granter, assembly.HasBuilt granter ∧ blueprint.Receives granter function key) ∨
        pending function key

theorem Traced.of_iff {pending other : blueprint.Factory → String → Prop} {assembly : Assembly}
    (traced : blueprint.Traced pending assembly)
    (same : ∀ function key, other function key ↔ pending function key) :
    blueprint.Traced other assembly := by
  have equal : other = pending := funext fun function => funext fun key =>
    propext (same function key)
  rw [equal]
  exact traced

/-- Whatever is pending, it is still the only thing that is. -/
def Carries (blueprint : Blueprint) (before after : Assembly) : Prop :=
  ∀ pending, blueprint.Traced pending before → blueprint.Traced pending after

theorem Carries.refl (assembly : Assembly) : blueprint.Carries assembly assembly :=
  fun _ => id

theorem Carries.trans {first second third : Assembly} (carries : blueprint.Carries first second)
    (later : blueprint.Carries second third) : blueprint.Carries first third :=
  fun pending traced => later pending (carries pending traced)

theorem carries_of_same {before after : Assembly}
    (functions : ∀ function, blueprint.functionIn after function =
      blueprint.functionIn before function)
    (auths : after.auths.keys = before.auths.keys)
    (datas : after.datas.keys = before.datas.keys) : blueprint.Carries before after := by
  intro pending traced
  have hasBuilt : ∀ granter, after.HasBuilt granter ↔ before.HasBuilt granter := by
    intro granter
    rw [Assembly.HasBuilt, Assembly.HasBuilt, auths, datas]
  constructor
  case areDefined => exact traced.areDefined.congr functions
  case checked =>
    intro granter built
    exact traced.checked granter ((hasBuilt granter).mp built)
  case variable_iff =>
    intro function isFunction key
    simp only [HasVariable, functions, hasBuilt]
    exact traced.variable_iff function isFunction key

theorem Agrees.carries {before after : Assembly} (agrees : blueprint.Agrees before after) :
    blueprint.Carries before after := by
  refine carries_of_same (fun function => (agrees.functions function).symm) ?_ ?_
  · rw [agrees.auths]
  · rw [agrees.datas]

/-! ## Grants -/

section Grants

variable {resource : String} {entries : List ParameterEntry} {statementsFor : α → List Statement}
  {pending : blueprint.Factory → String → Prop}

/-- A policy for a function leaves the variables pending that come with it. -/
theorem Traced.hand {assembly : Assembly} (traced : blueprint.Traced pending assembly)
    {grantee : blueprint.Factory} {built : BuiltFunction}
    (stored : assembly.functions.find? grantee = some built) (policy : Policy)
    (nonempty : entries ≠ []) :
    blueprint.Traced (fun function key => pending function key ∨
        function = grantee ∧ key ∈ parameterListVariable :: entries.map (·.name))
      (assembly.hand grantee policy entries) := by
  have there := functionIn_of_find? stored
  constructor
  case areDefined =>
    intro function isFunction changed found
    rw [functionIn_hand stored] at found
    split at found
    · next same =>
        subst same
        cases found
        exact (traced.areDefined _ isFunction built there).accept nonempty
    · exact traced.areDefined function isFunction changed found
  case checked => exact traced.checked
  case variable_iff =>
    intro function isFunction key
    have before := traced.variable_iff function isFunction key
    simp only [HasVariable, functionIn_hand stored] at before ⊢
    by_cases same : grantee = function
    · subst same
      have isDefined := traced.areDefined _ isFunction built there
      simp only [there, Option.some.injEq, exists_eq_left'] at before
      simp only [if_pos, Option.some.injEq, exists_eq_left', true_and,
        isDefined.mem_variableNames_accept nonempty, before, or_assoc]
      rfl
    · simp only [if_neg same, Ne.symm same, false_and, or_false]
      exact before

end Grants

/-! ## Requests -/

section Requests

variable {before after : BackendContainer} {factory : blueprint.Factory}
  {pending : blueprint.Factory → String → Prop}

/-- While certain generators run, the program leaves pending what is pending, if it succeeds. -/
def Carried (blueprint : Blueprint) (level : List (GeneratorId × String))
    (program : blueprint.Build α) : Prop :=
  ∀ before result after, before.resolving = level → blueprint.Regular before →
    blueprint.catalogue.run program before = (.ok result, after) →
    blueprint.Regular after ∧ blueprint.Carries before.state after.state

section Level

variable {level : List (GeneratorId × String)} {own : blueprint.Factory}

theorem Carried.bind {program : blueprint.Build α} {next : α → blueprint.Build β}
    (head : blueprint.Carried level program)
    (rest : ∀ result, blueprint.Carried level (next result)) :
    blueprint.Carried level (program >>= next) := by
  intro before result after resolving regular done
  rw [Catalogue.run_bind_eq_ok blueprint.listed] at done
  rcases done with ⟨first, between, begun, ended⟩
  rcases head before first between resolving regular begun with ⟨regularBetween, carries⟩
  have same := Catalogue.resolving_of_run blueprint.listed begun
  rcases rest first between result after (same.trans resolving) regularBetween ended with
    ⟨regularAfter, later⟩
  exact ⟨regularAfter, carries.trans later⟩

/-- A step of a body that does nothing to functions, and builds nothing. -/
theorem carried_act (notHandler : ¬ blueprint.IsHandler own)
    {step : Assembly → Except BackendError α × Assembly}
    (composed : Composed (blueprint.kindOf own) own (Program.act step : blueprint.Build α))
    (functions : ∀ assembly, (step assembly).2.functions = assembly.functions)
    (auths : ∀ assembly, (step assembly).2.auths.keys = assembly.auths.keys)
    (datas : ∀ assembly, (step assembly).2.datas.keys = assembly.datas.keys) :
    blueprint.Carried level (Program.act step) := by
  intro before result after resolving regular done
  refine ⟨regular.of_composed notHandler composed done, ?_⟩
  rw [Catalogue.run_act] at done
  rcases Prod.mk.inj done with ⟨_, rfl⟩
  refine carries_of_same ?_ (auths _) (datas _)
  intro function
  simp only [functionIn, functions]

variable (known : ∀ factory, blueprint.Carried level (blueprint.instanceOf factory))

include known

theorem Asks.carried {program : blueprint.Build α} (asks : Asks program) :
    blueprint.Carried level program := by
  induction asks with
  | finish outcome =>
      intro before result after _ regular done
      cases done
      exact ⟨regular, .refl _⟩
  | instanceOf factory => exact known factory
  | bind head rest ihHead ihRest => exact ihHead.bind ihRest

theorem carried_providedAuth :
    blueprint.Carried level (blueprint.providedAuth authResourcesToken) := by
  intro before result after resolving regular done
  rw [run_providedAuth_eq_ok] at done
  rcases done with ⟨_, rfl, rfl⟩ | ⟨factory, found, built, _, asked, _, rfl⟩
  · exact ⟨regular, .refl _⟩
  · exact known factory before found after resolving regular asked

section Grants

variable {resource : String} {entries : List ParameterEntry} {statementsFor : α → List Statement}

theorem Traced.arbitrateOne (resolving : before.resolving = level)
    (regular : blueprint.Regular before) (nonempty : entries ≠ []) {index : Nat}
    {grant : Grant Reference α} {issued : IssuedPolicy}
    (done : blueprint.catalogue.run
      ((blueprint.arbiter resource entries statementsFor).arbitrateOne index grant) before =
        (.ok issued, after)) (traced : blueprint.Traced pending before.state) :
    blueprint.Traced (fun function key => pending function key ∨
        blueprint.factoryNamed? grant.grantee.name = some function ∧
          key ∈ parameterListVariable :: entries.map (·.name)) after.state := by
  rw [run_arbitrateOne_eq_ok] at done
  rcases done with ⟨found, between, built, policy, resolved, _, stored, _, _, rfl⟩
  rcases exists_of_resolveReference regular resolved with ⟨grantee, named, _, rfl, _⟩
  rcases (asks_resolveReference grant.grantee isGrantee).carried known before _ _ resolving regular
    resolved with ⟨_, carries⟩
  have handed := (carries pending traced).hand stored policy nonempty
  refine handed.of_iff fun function key => ?_
  rw [named, Option.some.injEq, eq_comm]

theorem Traced.arbitrateFrom (notHandler : ¬ blueprint.IsHandler own)
    (resolving : before.resolving = level) (regular : blueprint.Regular before)
    (nonempty : entries ≠ []) {index : Nat}
    {grants : List (Grant Reference α)} {policies : List IssuedPolicy}
    (done : blueprint.catalogue.run
      ((blueprint.arbiter resource entries statementsFor).arbitrateFrom index grants) before =
        (.ok policies, after)) (traced : blueprint.Traced pending before.state) :
    blueprint.Traced (fun function key => pending function key ∨
        blueprint.Grantee grants function ∧
          key ∈ parameterListVariable :: entries.map (·.name)) after.state := by
  induction grants generalizing before index policies pending with
  | nil =>
      cases done
      simpa [Grantee] using traced
  | cons grant rest ih =>
      rw [Arbiter.arbitrateFrom, Catalogue.run_bind_eq_ok blueprint.listed] at done
      rcases done with ⟨issued, between, made, continued⟩
      rw [Catalogue.run_bind_eq_ok blueprint.listed] at continued
      rcases continued with ⟨others, ended, continued, same⟩
      cases same
      have first := Traced.arbitrateOne known resolving regular nonempty made traced
      have level := Catalogue.resolving_of_run blueprint.listed made
      have regularBetween := regular.of_composed notHandler (composed_arbitrateOne index grant) made
      refine (ih (level.trans resolving) regularBetween continued first).of_iff
        fun function key => ?_
      simp only [Grantee, List.mem_cons, or_and_right, exists_or, exists_eq_left, or_assoc]

/-- Grants that have been arbitrated leave the variables pending that come with them. -/
theorem Traced.grant (notHandler : ¬ blueprint.IsHandler own) (regular : blueprint.Regular before)
    (resolving : before.resolving = level) {named : List (String × String)} (nonempty : named ≠ [])
    {access : Option (List (Grant Reference α))}
    (done : blueprint.catalogue.run (access.forM fun grants => discard (do
      let entries ← modifyGet fun assembly : Assembly => assembly.publish named
      (blueprint.arbiter resource entries statementsFor).arbitrate grants)) before =
        (.ok (), after)) (traced : blueprint.Traced pending before.state) :
    blueprint.Traced (fun function key => pending function key ∨
        blueprint.Grantee (access.getD []) function ∧
          key ∈ parameterListVariable :: named.map (·.1)) after.state := by
  cases access with
  | none =>
      cases done
      simpa [Grantee] using traced
  | some grants =>
      change blueprint.catalogue.run (discard _) before = _ at done
      rw [Catalogue.run_discard_eq_ok blueprint.listed] at done
      rcases done with ⟨policies, done⟩
      rw [Catalogue.run_bind_eq_ok blueprint.listed] at done
      rcases done with ⟨entries, between, published, arbitrated⟩
      have regularBetween := regular.of_composed notHandler
        (composed_modifyGet fun assembly => footprint_publish assembly named) published
      have level := Catalogue.resolving_of_run blueprint.listed published
      rw [Catalogue.run_modifyGet] at published
      cases published
      have names := @ParameterStore.names_entriesFor before.state.parameters named
      have some : before.state.parameters.entriesFor named ≠ [] := by
        simpa [ParameterStore.entriesFor] using nonempty
      have carries : blueprint.Carries before.state (before.state.publish named).2 :=
        carries_of_same (fun _ => rfl) rfl rfl
      have arbitrated := Traced.arbitrateFrom known notHandler (level.trans resolving)
        regularBetween some arbitrated (carries pending traced)
      rw [← names]
      exact arbitrated

end Grants

end Level

/-! ## Bodies -/

/-- When a resource is built nothing that it has granted is pending any longer. -/
theorem Traced.settle {own : blueprint.Factory} {first last : Assembly}
    (traced : blueprint.Traced (fun function key => pending function key ∨
      blueprint.Receives own function key) first)
    (functions : last.functions = first.functions)
    (hasBuilt : ∀ granter, last.HasBuilt granter ↔ granter = own.val ∨ first.HasBuilt granter)
    (valid : blueprint.verdict (blueprint.definition own) = .ok ()) :
    blueprint.Traced pending last := by
  have same : ∀ function, blueprint.functionIn last function =
      blueprint.functionIn first function := by
    intro function
    rw [functionIn, functionIn, functions]
  constructor
  case areDefined => exact traced.areDefined.congr same
  case checked =>
    intro granter built
    rcases (hasBuilt granter).mp built with rfl | before
    · exact ⟨own, rfl, valid⟩
    · exact traced.checked granter before
  case variable_iff =>
    intro function isFunction key
    have before := traced.variable_iff function isFunction key
    simp only [HasVariable, same, hasBuilt, or_and_right, exists_or, exists_eq_left] at before ⊢
    rw [before, or_assoc (a := blueprint.Receives own function key), or_rotate
      (a := blueprint.Receives own function key)]

section Bodies

variable {own : blueprint.Factory} {site : DefinitionSite} {key : String}
  {function : blueprint.Factory}

theorem publishedNames_of_auth {settings : AuthSettings Reference}
    (defined : blueprint.definition own = .auth settings site) :
    blueprint.publishedNames own.val = [settings.resolvedName ++ "_USERPOOL_ID"] := by
  rw [publishedNames, resourceName_of_auth defined, getElem?_definitions, defined]
  rfl

theorem publishedNames_of_data {settings : DataSettings Reference}
    (defined : blueprint.definition own = .data settings site) :
    blueprint.publishedNames own.val = publishedEndings.tail.map (settings.resolvedName ++ ·) := by
  rw [publishedNames, resourceName_of_data defined, getElem?_definitions, defined]
  rfl

theorem receives_auth_iff {settings : AuthSettings Reference}
    (defined : blueprint.definition own = .auth settings site) :
    blueprint.Receives own function key ↔
      blueprint.Grantee (settings.access.getD []) function ∧
        key ∈ [parameterListVariable, settings.resolvedName ++ "_USERPOOL_ID"] := by
  have data : blueprint.dataGrants own.val = [] := by
    rw [dataGrants, getElem?_definitions, defined]
  simp [Receives, GrantsAccess, Grantee, authGrants_of_defined defined, data,
    publishedNames_of_auth defined]

theorem receives_data_iff {settings : DataSettings Reference}
    (defined : blueprint.definition own = .data settings site) :
    blueprint.Receives own function key ↔
      blueprint.Grantee (settings.access.getD []) function ∧
        key ∈ parameterListVariable :: publishedEndings.tail.map (settings.resolvedName ++ ·) := by
  have auth : blueprint.authGrants own.val = [] := by
    rw [authGrants, getElem?_definitions, defined]
  simp [Receives, GrantsAccess, Grantee, dataGrants_of_defined defined, auth,
    publishedNames_of_data defined]

variable {level : List (GeneratorId × String)}
  (known : ∀ factory, blueprint.Carried level (blueprint.instanceOf factory))
  (valid : blueprint.verdict (blueprint.definition own) = .ok ())

include known valid

/-- The last thing that the body of an auth or data resource does is grant access and be kept. -/
theorem carries_of_grant {resource : String} {statementsFor : α → List Statement}
    {access : Option (List (Grant Reference α))} {named : List (String × String)}
    (notHandler : ¬ blueprint.IsHandler own) (regular : blueprint.Regular before)
    (resolving : before.resolving = level) (nonempty : named ≠ [])
    (receives : ∀ function key, blueprint.Receives own function key ↔
      blueprint.Grantee (access.getD []) function ∧
        key ∈ parameterListVariable :: named.map (·.1))
    (done : blueprint.catalogue.run (access.forM fun grants => discard (do
      let entries ← modifyGet fun assembly : Assembly => assembly.publish named
      (blueprint.arbiter resource entries statementsFor).arbitrate grants)) before =
        (.ok (), after))
    {last : Assembly} (functions : last.functions = after.state.functions)
    (hasBuilt : ∀ granter, last.HasBuilt granter ↔
      granter = own.val ∨ after.state.HasBuilt granter) :
    blueprint.Carries before.state last := by
  intro pending traced
  have granted := Traced.grant known notHandler regular resolving nonempty done traced
  refine (granted.of_iff fun function key => ?_).settle functions hasBuilt valid
  rw [receives]

theorem carried_finishAuth {settings : AuthSettings Reference}
    (defined : blueprint.definition own = .auth settings site)
    (triggers : List (TriggerEvent × Nat)) (created : AuthConstruct Nat) :
    blueprint.Carried level (blueprint.finishAuth own settings triggers created) := by
  intro before found after resolving regular done
  have isAuth := kindOf_of_auth defined
  have notHandler := not_isHandler_of_auth isAuth
  have composed := @composed_finishAuth blueprint own settings triggers created
  rw [← isAuth] at composed
  refine ⟨regular.of_composed notHandler composed done, ?_⟩
  simp only [finishAuth, Catalogue.run_bind_eq_ok blueprint.listed, Catalogue.run_ofExcept,
    Catalogue.run_modify, Catalogue.run_pure] at done
  rcases done with ⟨wired, _, wiring, _, stored, storing, _, granted, granting, _, _, inserting,
    ended⟩
  rcases Prod.mk.injEq .. ▸ wiring with ⟨_, rfl⟩
  have footprint := @footprint_store blueprint (blueprint.kindOf own) own before.state wired.output
  have regularStored := lasting_regular.step regular notHandler footprint
  rw [isAuth] at regularStored
  cases storing
  cases inserting
  cases ended
  have carries : blueprint.Carries before.state { before.state with
      outputs := before.state.outputs.store authOutputKey wired.output } :=
    carries_of_same (fun _ => rfl) rfl rfl
  refine carries.trans (carries_of_grant known valid notHandler regularStored resolving
    (List.cons_ne_nil _ _) (fun function key => receives_auth_iff defined) granting rfl ?_)
  intro granter
  simp only [Assembly.HasBuilt, OrderedMap.mem_keys_insert, or_assoc]

theorem carried_buildAuth {settings : AuthSettings Reference}
    (defined : blueprint.definition own = .auth settings site) :
    blueprint.Carried level (blueprint.buildAuth own settings) := by
  have isAuth := kindOf_of_auth defined
  rw [buildAuth_eq]
  refine ((asks_settleAuth _ settings).carried known).bind fun properties => ?_
  refine ((asks_resolveTriggers settings).carried known).bind fun triggers => ?_
  refine Carried.bind ?_ fun created => carried_finishAuth known valid defined triggers created
  have composed := @composed_createAuth blueprint own settings.resolvedName properties
  rw [← isAuth] at composed
  exact carried_act (not_isHandler_of_auth isAuth) composed (fun _ => rfl) (fun _ => rfl)
    fun _ => rfl

theorem carried_finishData {settings : DataSettings Reference}
    (defined : blueprint.definition own = .data settings site) (created : DataConstruct Nat) :
    blueprint.Carried level (blueprint.finishData own settings created) := by
  intro before found after resolving regular done
  have isData := kindOf_of_data defined
  have notHandler := not_isHandler_of_data isData
  have composed := @composed_finishData blueprint own settings created
  rw [← isData] at composed
  refine ⟨regular.of_composed notHandler composed done, ?_⟩
  simp only [finishData, Catalogue.run_bind_eq_ok blueprint.listed, Catalogue.run_modify,
    Catalogue.run_pure] at done
  rcases done with ⟨_, stored, storing, _, granted, granting, _, _, inserting, ended⟩
  have footprint := @footprint_store blueprint (blueprint.kindOf own) own before.state created.output
  have regularStored := lasting_regular.step regular notHandler footprint
  rw [isData] at regularStored
  cases storing
  cases inserting
  cases ended
  have carries : blueprint.Carries before.state { before.state with
      outputs := before.state.outputs.store graphqlOutputKey created.output } :=
    carries_of_same (fun _ => rfl) rfl rfl
  refine carries.trans (carries_of_grant known valid notHandler regularStored resolving
    (List.cons_ne_nil _ _) (fun function key => receives_data_iff defined) granting rfl ?_)
  intro granter
  simp only [Assembly.HasBuilt, OrderedMap.mem_keys_insert, or_left_comm]

theorem carried_buildData {settings : DataSettings Reference}
    (defined : blueprint.definition own = .data settings site) :
    blueprint.Carried level (blueprint.buildData own settings) := by
  have isData := kindOf_of_data defined
  rw [buildData_eq]
  refine (carried_providedAuth known).bind fun auth => ?_
  rw [completeData_eq]
  refine ((asks_settleDataWith _ _ settings).carried known).bind fun properties => ?_
  refine Carried.bind ?_ fun created => carried_finishData known valid defined created
  have composed := composed_createData (auth.map (·.1)) (resourceName_of_data defined) properties
  rw [← isData] at composed
  have auths : ∀ assembly : Assembly, (createData (auth.map (·.1)) settings.resolvedName properties
      assembly).2.auths.keys = assembly.auths.keys := by
    intro assembly
    cases auth with
    | none => rfl
    | some auth => exact OrderedMap.keys_modify _ _ _
  exact carried_act (not_isHandler_of_data isData) composed (fun _ => functions_createData) auths
    fun _ => congrArg OrderedMap.keys datas_createData

end Bodies

/-- A request leaves pending what is pending, however requests nest in it. -/
theorem carries_instanceOf (factory : blueprint.Factory) (before : BackendContainer) :
    ∀ found after, blueprint.Regular before →
      blueprint.catalogue.run (blueprint.instanceOf factory) before = (.ok found, after) →
      blueprint.Carries before.state after.state := by
  -- By induction on how deep requests nest; those of a body are made while it is resolved.
  refine Catalogue.request_induction
    (motive := fun factory before => ∀ found after, blueprint.Regular before →
      blueprint.catalogue.run (blueprint.instanceOf factory) before = (.ok found, after) →
      blueprint.Carries before.state after.state)
    blueprint.listed ?_ factory before
  intro own before nested found after regular done
  rcases regular with ⟨built, holds⟩
  by_cases light : ¬ blueprint.IsHandler own → Stores before own
  · exact (holds.of_instanceOf (fun other => Or.inl (light other)) done).2.agrees.carries
  rw [Classical.not_imp] at light
  rcases light with ⟨notHandler, missing⟩
  have absent := holds.lookup?_eq_none missing
  have idle : before.isResolving (blueprint.idOf own) = false := by
    by_contra running
    exact Cyclic.not_ok ⟨absent, by simpa using running⟩ done
  rw [run_instanceOf_eq_ok_of_absent absent idle] at done
  rcases done with ⟨valid, _, journal, inner, _, ran, rfl⟩
  have known : ∀ other, blueprint.Carried (Blueprint.opened before own journal).resolving
      (blueprint.instanceOf other) := by
    intro other first result last resolving regular done
    have unknown : before.immediate? (blueprint.catalogue.generator own) = none :=
      Container.immediate?_eq_none_iff.mpr ⟨absent, idle⟩
    have regularLast := regular_instanceOf other first regular
    rw [done] at regularLast
    exact ⟨regularLast, nested unknown other first resolving result last regular done⟩
  have regularOpened : blueprint.Regular (Blueprint.opened before own journal) :=
    ⟨built, holds.opened notHandler journal⟩
  have opening := (agrees_opened before own journal).carries
  refine opening.trans ?_
  rcases kindOf_of_not_isHandler notHandler with isAuth | isData
  · rcases exists_auth isAuth with ⟨settings, site, defined⟩
    rw [defined] at ran
    exact (carried_buildAuth known valid defined _ _ _ rfl regularOpened ran).2
  · rcases exists_data isData with ⟨settings, site, defined⟩
    rw [defined] at ran
    exact (carried_buildData known valid defined _ _ _ rfl regularOpened ran).2

theorem carried_instanceOf (level : List (GeneratorId × String)) (factory : blueprint.Factory) :
    blueprint.Carried level (blueprint.instanceOf factory) := by
  intro before found after _ regular done
  have regularAfter := regular_instanceOf factory before regular
  rw [done] at regularAfter
  exact ⟨regularAfter, carries_instanceOf factory before found after regular done⟩

end Requests

end Blueprint

end CloudSynth
