import CloudSynth.Proofs.Backend.LeastPrivilege
import CloudSynth.Proofs.Backend.Registration
import CloudSynth.Proofs.Json.WrittenParameters

/-!
# Parameters that functions refer to

A function that is granted access to a resource is to find what it needs to use the resource: one of
its variables lists, by the names of other variables, the paths of published parameters. The paths
and the values are written at different times and by different resources, into maps in which the
last value of a name counts. And yet what a function is referred to is the value of the resource
(`Blueprint.synthesize_refers`): the names that resources publish end differently, so no resource
takes the name of another one, and settings of the function itself come first, so that a variable
that they declare under the same name gives way.
-/

namespace CloudSynth

/-! ## Listed paths -/

/-- The text lists a path for a variable. -/
def ListsPath (text name path : String) : Prop :=
  ∃ listing, text = writtenParameters listing ∧ listing.find? name = some path

theorem listsPath_writtenParameters_iff {listing : SortedMap String} {name path : String} :
    ListsPath (writtenParameters listing) name path ↔ listing.find? name = some path := by
  constructor
  · rintro ⟨other, same, found⟩
    rwa [writtenParameters_inj same]
  · exact fun found => ⟨listing, rfl, found⟩

/-- The function is referred to a published value: the text that lists its parameters has one path
for the variable, and the value is published under this path. -/
def BuiltFunction.Refers (built : BuiltFunction) (parameters : ParameterStore)
    (name value : String) : Prop :=
  ∃ text path, built.lambda.valueOf? parameterListVariable = some text ∧
    (∀ other, ListsPath text name other ↔ other = path) ∧ parameters.value? path = some value

namespace BuiltFunction

/-- The function has been built from settings. -/
def IsDefined (built : BuiltFunction) : Prop :=
  ∃ resolved listing, built.origin = .defined resolved listing

/-- The function lists a path for a variable. -/
def Lists (built : BuiltFunction) (name path : String) : Prop :=
  ∃ resolved listing, built.origin = .defined resolved listing ∧
    listing.find? name = some path ∧
    built.lambda.valueOf? parameterListVariable = some (writtenParameters listing)

theorem isDefined_ofResolved (stack : Stack) (identifier : BackendIdentifier)
    (resolved : ResolvedFunction) : (ofResolved stack identifier resolved).IsDefined := by
  unfold ofResolved exposeParameters
  cases resolved.secretEntries identifier with
  | nil => exact ⟨_, _, rfl⟩
  | cons entry rest => exact ⟨_, _, rfl⟩

section Accept

variable {built : BuiltFunction} {issued : IssuedPolicy} {accepted : List IssuedPolicy}
  {entries : List ParameterEntry} {name path : String}

/-- A function that accepts a policy lists the parameters that come along. -/
theorem accept_of_defined {resolved : ResolvedFunction} {listing : SortedMap String}
    (defined : built.origin = .defined resolved listing) (nonempty : entries ≠ []) :
    (built.accept issued entries).origin = .defined resolved (addParameters listing entries) ∧
      (built.accept issued entries).lambda.valueOf? parameterListVariable =
        some (writtenParameters (addParameters listing entries)) := by
  rcases entries with _ | ⟨entry, rest⟩
  · exact absurd rfl nonempty
  · simp only [accept, defined, exposeParameters]
    exact ⟨trivial, SortedMap.find?_insert_self _ _ _⟩

theorem IsDefined.accept (isDefined : built.IsDefined) (nonempty : entries ≠ []) :
    (built.accept issued entries).IsDefined := by
  rcases isDefined with ⟨resolved, listing, defined⟩
  exact ⟨_, _, (accept_of_defined defined nonempty).1⟩

theorem IsDefined.acceptAll (isDefined : built.IsDefined) (nonempty : entries ≠ []) :
    (built.acceptAll accepted entries).IsDefined := by
  induction accepted generalizing built with
  | nil => exact isDefined
  | cons issued rest ih => exact ih (isDefined.accept nonempty)

theorem IsDefined.lists_accept (isDefined : built.IsDefined)
    (distinct : (entries.map (·.name)).Nodup) {entry : ParameterEntry}
    (entry_mem : entry ∈ entries) :
    (built.accept issued entries).Lists entry.name entry.path := by
  rcases isDefined with ⟨resolved, listing, defined⟩
  rcases accept_of_defined defined (List.ne_nil_of_mem entry_mem) with ⟨origin, listed⟩
  exact ⟨_, _, origin, SortedMap.find?_foldl_insert_of_mem _ _ distinct entry_mem _, listed⟩

/-- Each of the entries is listed after the last policy, whatever was listed before. -/
theorem IsDefined.lists_acceptAll (isDefined : built.IsDefined)
    (distinct : (entries.map (·.name)).Nodup) {entry : ParameterEntry}
    (entry_mem : entry ∈ entries) (nonempty : accepted ≠ []) :
    (built.acceptAll accepted entries).Lists entry.name entry.path := by
  induction accepted generalizing built with
  | nil => exact absurd rfl nonempty
  | cons issued rest ih =>
      -- Every acceptance lists the entries, so it is the last one that counts.
      by_cases last : rest = []
      · subst last
        exact isDefined.lists_accept distinct entry_mem
      · exact ih (isDefined.accept (List.ne_nil_of_mem entry_mem)) last

theorem Lists.acceptAll (lists : built.Lists name path) (nonempty : entries ≠ [])
    (other : name ∉ entries.map (·.name)) :
    (built.acceptAll accepted entries).Lists name path := by
  induction accepted generalizing built with
  | nil => exact lists
  | cons issued rest ih =>
      apply ih
      rcases lists with ⟨resolved, listing, defined, found, _⟩
      rcases accept_of_defined defined nonempty with ⟨origin, listed⟩
      refine ⟨_, _, origin, ?_, listed⟩
      rw [addParameters, SortedMap.find?_foldl_insert_of_not_mem _ _ other]
      exact found

end Accept

end BuiltFunction

/-! ## Published values -/

namespace ParameterStore

variable {store : ParameterStore} {named : List (String × String)}

theorem entryFor_publish (name : String) :
    (store.publish named).2.entryFor name = store.entryFor name := rfl

theorem path_entryFor_inj {first second : String}
    (same : (store.entryFor first).path = (store.entryFor second).path) : first = second :=
  (String.append_right_inj _).mp same

theorem names_entriesFor : (store.entriesFor named).map (·.name) = named.map (·.1) := by
  rw [entriesFor, List.map_map]
  rfl

theorem value?_publish_of_mem (distinct : (named.map (·.1)).Nodup) {pair : String × String}
    (pair_mem : pair ∈ named) :
    (store.publish named).2.value? (store.entryFor pair.1).path = some pair.2 := by
  have paths : (named.map fun pair => (store.entryFor pair.1).path).Nodup := by
    have distinctPaths := distinct.map fun _ _ => @path_entryFor_inj store _ _
    rwa [List.map_map] at distinctPaths
  exact SortedMap.find?_foldl_insert_of_mem (fun pair : String × String =>
    (store.entryFor pair.1).path) (·.2) paths pair_mem _

theorem value?_publish_of_not_mem {name : String} (other : name ∉ named.map (·.1)) :
    (store.publish named).2.value? (store.entryFor name).path =
      store.value? (store.entryFor name).path := by
  refine SortedMap.find?_foldl_insert_of_not_mem (fun pair : String × String =>
    (store.entryFor pair.1).path) (·.2) ?_ _
  intro there
  rcases List.mem_map.mp there with ⟨pair, pair_mem, same⟩
  exact other (List.mem_map.mpr ⟨pair, pair_mem, path_entryFor_inj same⟩)

end ParameterStore

namespace Blueprint

variable {blueprint : Blueprint} {α : Type}

/-- A function that has policies lists a variable, and the value is published under its path. -/
structure Supplies (blueprint : Blueprint) (assembly : Assembly) (function : blueprint.Factory)
    (name value : String) : Prop where
  attached : blueprint.attachedTo assembly function ≠ []
  listed : ∃ built, blueprint.functionIn assembly function = some built ∧
    built.Lists name (assembly.parameters.entryFor name).path
  published : assembly.parameters.value? (assembly.parameters.entryFor name).path = some value

/-- Factories of functions build functions from settings. -/
def AreDefined (blueprint : Blueprint) (assembly : Assembly) : Prop :=
  ∀ function, blueprint.kindOf function = .function →
    ∀ built, blueprint.functionIn assembly function = some built → built.IsDefined

section Bestows

variable {resource : String} {named : List (String × String)} {statementsFor : α → List Statement}
  {access : Option (List (Grant Reference α))} {before after : Assembly}
  {function : blueprint.Factory}

theorem Bestows.entryFor
    (bestows : blueprint.Bestows resource named statementsFor access before after) (name : String) :
    after.parameters.entryFor name = before.parameters.entryFor name := by
  rw [bestows.parameters]
  split
  · exact ParameterStore.entryFor_publish name
  · rfl

theorem Bestows.areDefined
    (bestows : blueprint.Bestows resource named statementsFor access before after)
    (nonempty : named ≠ []) (areDefined : blueprint.AreDefined before) :
    blueprint.AreDefined after := by
  intro function isFunction built there
  rcases bestows.accepts function with ⟨accepted, changed, _⟩
  rw [changed] at there
  rcases Option.map_eq_some_iff.mp there with ⟨earlier, found, rfl⟩
  refine (areDefined function isFunction earlier found).acceptAll ?_
  simpa [ParameterStore.entriesFor] using nonempty

/-- What is granted to a function comes with the values that are published. -/
theorem Bestows.supplies
    (bestows : blueprint.Bestows resource named statementsFor access before after)
    (areDefined : blueprint.AreDefined before) (isFunction : blueprint.kindOf function = .function)
    (granted : blueprint.grantsTo function (access.getD []) ≠ [])
    (distinct : (named.map (·.1)).Nodup) {pair : String × String} (pair_mem : pair ∈ named) :
    blueprint.Supplies after function pair.1 pair.2 := by
  rcases bestows.accepts function with ⟨accepted, changed, attached, policies⟩
  have nonempty : accepted ≠ [] := by
    rintro rfl
    rw [grantsTo_eq_placedGrants function 0] at granted
    have none := policies.symm
    simp only [List.map_nil, List.map_eq_nil_iff] at none
    exact granted (by rw [none]; rfl)
  have attachedAfter : blueprint.attachedTo after function ≠ [] := by
    rw [attached]
    exact List.append_ne_nil_of_right_ne_nil _ nonempty
  have isSome : access.isSome := by
    cases access with
    | none => exact absurd rfl granted
    | some grants => rfl
  -- Policies have been handed over, so there is a function that holds them.
  cases found : blueprint.functionIn before function with
  | none =>
      rw [found] at changed
      exact absurd (by rw [attachedTo, changed]; rfl) attachedAfter
  | some built =>
      rw [found] at changed
      refine ⟨attachedAfter, ⟨_, changed, ?_⟩, ?_⟩
      · have entry_mem : before.parameters.entryFor pair.1 ∈ before.parameters.entriesFor named :=
          List.mem_map.mpr ⟨pair, pair_mem, rfl⟩
        rw [bestows.entryFor]
        exact (areDefined function isFunction built found).lists_acceptAll
          (ParameterStore.names_entriesFor ▸ distinct) entry_mem nonempty
      · rw [bestows.entryFor, bestows.parameters, if_pos isSome]
        exact ParameterStore.value?_publish_of_mem distinct pair_mem

theorem Supplies.bestows {name value : String}
    (supplies : blueprint.Supplies before function name value)
    (bestows : blueprint.Bestows resource named statementsFor access before after)
    (nonempty : named ≠ []) (other : name ∉ named.map (·.1)) :
    blueprint.Supplies after function name value := by
  rcases supplies.listed with ⟨built, found, lists⟩
  rcases bestows.accepts function with ⟨accepted, changed, attached, _⟩
  refine ⟨?_, ⟨built.acceptAll accepted _, by rw [changed, found]; rfl, ?_⟩, ?_⟩
  · rw [attached]
    exact List.append_ne_nil_of_left_ne_nil supplies.attached _
  · rw [bestows.entryFor]
    refine lists.acceptAll ?_ (ParameterStore.names_entriesFor ▸ other)
    simpa [ParameterStore.entriesFor] using nonempty
  · rw [bestows.entryFor, bestows.parameters]
    split
    · rw [ParameterStore.value?_publish_of_not_mem other]
      exact supplies.published
    · exact supplies.published

/-- The functions that grants name are supplied with values. -/
def SuppliesFor (blueprint : Blueprint) (assembly : Assembly) {β : Type}
    (grants : List (Grant Reference β)) (values : List (String × String)) : Prop :=
  ∀ function, blueprint.kindOf function = .function →
    ∀ grant ∈ grants, blueprint.factoryNamed? grant.grantee.name = some function →
    ∀ pair ∈ values, blueprint.Supplies assembly function pair.1 pair.2

theorem Bestows.suppliesFor
    (bestows : blueprint.Bestows resource named statementsFor access before after)
    (areDefined : blueprint.AreDefined before) (distinct : (named.map (·.1)).Nodup) :
    blueprint.SuppliesFor after (access.getD []) named := by
  intro function isFunction grant grant_mem grantee pair pair_mem
  have granted : blueprint.grantsTo function (access.getD []) ≠ [] :=
    List.ne_nil_of_mem (List.mem_filter.mpr ⟨grant_mem, decide_eq_true grantee⟩)
  exact bestows.supplies areDefined isFunction granted distinct pair_mem

theorem SuppliesFor.bestows {β : Type} {grants : List (Grant Reference β)}
    {values : List (String × String)} (supplies : blueprint.SuppliesFor before grants values)
    (bestows : blueprint.Bestows resource named statementsFor access before after)
    (nonempty : named ≠ []) (others : ∀ pair ∈ values, pair.1 ∉ named.map (·.1)) :
    blueprint.SuppliesFor after grants values :=
  fun function isFunction grant grant_mem grantee pair pair_mem =>
    (supplies function isFunction grant grant_mem grantee pair pair_mem).bestows bestows nonempty
      (others pair pair_mem)

end Bestows

theorem SuppliesFor.congr {before after : Assembly} {grants : List (Grant Reference α)}
    {values : List (String × String)} (supplies : blueprint.SuppliesFor before grants values)
    (functions : ∀ function, blueprint.functionIn after function =
      blueprint.functionIn before function)
    (parameters : after.parameters = before.parameters) :
    blueprint.SuppliesFor after grants values := by
  intro function isFunction grant grant_mem grantee pair pair_mem
  rcases supplies function isFunction grant grant_mem grantee pair pair_mem with
    ⟨attached, listed, published⟩
  refine ⟨?_, ?_, ?_⟩
  · rw [attachedTo, functions]
    exact attached
  · rw [functions, parameters]
    exact listed
  · rw [parameters]
    exact published

theorem AreDefined.congr {before after : Assembly} (areDefined : blueprint.AreDefined before)
    (functions : ∀ function, blueprint.functionIn after function =
      blueprint.functionIn before function) : blueprint.AreDefined after := by
  intro function isFunction built there
  rw [functions] at there
  exact areDefined function isFunction built there

/-! ## Names of values -/

/-- What the names of published values end in. -/
def publishedEndings : List String :=
  ["_USERPOOL_ID", "_GRAPHQL_ENDPOINT", "_MODEL_INTROSPECTION_SCHEMA_BUCKET_NAME",
    "_MODEL_INTROSPECTION_SCHEMA_KEY"]

/-- The last letter tells the endings apart. -/
theorem eq_of_append_publishedEnding {first second name other : String}
    (isFirst : first ∈ publishedEndings) (isSecond : second ∈ publishedEndings)
    (same : name ++ first = other ++ second) : name = other ∧ first = second := by
  have long : ∀ ending ∈ publishedEndings, 1 ≤ ending.toList.length := by decide
  have apart : ∀ first ∈ publishedEndings, ∀ second ∈ publishedEndings,
      first.toList.reverse.take 1 = second.toList.reverse.take 1 → first = second := by decide
  exact eq_of_append_ending long apart isFirst isSecond same

theorem names_dataValues (name : String) (resources : DataResources Nat) :
    (dataValues name resources).map (·.1) = publishedEndings.tail.map (name ++ ·) := rfl

theorem nodup_names_dataValues (name : String) (resources : DataResources Nat) :
    ((dataValues name resources).map (·.1)).Nodup := by
  have endings : publishedEndings.tail.Nodup := by decide
  rw [names_dataValues]
  exact endings.map fun _ _ => (String.append_right_inj name).mp

/-- The auth and the data resource publish under different names. -/
theorem not_mem_names_dataValues {name other : String} {resources : AuthResources Nat}
    {pair : String × String} (pair_mem : pair ∈ authValues name resources)
    (otherResources : DataResources Nat) :
    pair.1 ∉ (dataValues other otherResources).map (·.1) := by
  rw [List.mem_singleton.mp pair_mem, names_dataValues]
  intro there
  rcases List.mem_map.mp there with ⟨ending, ending_mem, same⟩
  have first := (eq_of_append_publishedEnding (List.mem_of_mem_tail ending_mem) List.mem_cons_self
    same).2
  rw [first] at ending_mem
  exact absurd ending_mem (by decide)

/-! ## What functions are furnished with -/

/-- The functions that have been granted access are supplied with the values of the resources. -/
structure Furnished (blueprint : Blueprint) (assembly : Assembly) : Prop where
  areDefined : blueprint.AreDefined assembly
  auth : ∀ entry ∈ assembly.auths.entries,
    blueprint.SuppliesFor assembly (blueprint.authGrants entry.1)
      (authValues (blueprint.resourceName entry.1) entry.2.construct.resources)
  data : ∀ entry ∈ assembly.datas.entries,
    blueprint.SuppliesFor assembly (blueprint.dataGrants entry.1)
      (dataValues (blueprint.resourceName entry.1) entry.2.construct.resources)

/-- The roles make no difference to the values of the auth resource. -/
theorem Admitted.suppliesFor {apiArn : String} {first last : List (Nat × BuiltAuth)}
    (admitted : Admitted apiArn first last) {assembly : Assembly}
    (supplies : ∀ entry ∈ first, blueprint.SuppliesFor assembly (blueprint.authGrants entry.1)
      (authValues (blueprint.resourceName entry.1) entry.2.construct.resources)) :
    ∀ entry ∈ last, blueprint.SuppliesFor assembly (blueprint.authGrants entry.1)
      (authValues (blueprint.resourceName entry.1) entry.2.construct.resources) := by
  rcases admitted with ⟨rfl, rfl⟩ | ⟨number, kept, allowed, rfl, rfl, userPool, _⟩
  · exact supplies
  · intro entry entry_mem
    rw [List.mem_singleton.mp entry_mem, authValues, userPool]
    exact supplies _ (List.mem_singleton_self _)

/-- Every stage furnishes the functions that it grants access to, and takes nothing from others. -/
theorem Furnished.of_stage {before after : Assembly} (self : blueprint.Furnished before)
    (stage : blueprint.Stage before after) : blueprint.Furnished after := by
  cases stage with
  | functions agrees =>
      have functions := fun function => (agrees.functions function).symm
      constructor
      case areDefined => exact self.areDefined.congr functions
      case auth =>
        rw [← agrees.auths]
        exact fun entry entry_mem =>
          (self.auth entry entry_mem).congr functions agrees.parameters.symm
      case data =>
        rw [← agrees.datas]
        exact fun entry entry_mem =>
          (self.data entry entry_mem).congr functions agrees.parameters.symm
  | @auth between factory settings site built defined noAuth noData bestows fresh =>
      have auths := bestows.entries_auths noAuth factory.val built
      constructor
      case areDefined => exact bestows.areDefined (List.cons_ne_nil _ _) self.areDefined
      case auth =>
        change ∀ entry ∈ (between.auths.insert factory.val built).entries, _
        rw [auths]
        intro entry entry_mem
        rw [List.mem_singleton.mp entry_mem, authGrants_of_defined defined,
          resourceName_of_auth defined]
        have supplies := bestows.suppliesFor self.areDefined (List.nodup_singleton _)
        exact supplies.congr (fun _ => rfl) rfl
      case data =>
        change ∀ entry ∈ between.datas.entries, _
        rw [bestows.datas, noData]
        simp
  | @data middle between factory settings site built auth defined noData admits admitted bestows =>
      have datas := bestows.entries_datas (admits.datas ▸ noData) factory.val built
      have areDefined := self.areDefined.congr admits.functions
      constructor
      case areDefined => exact bestows.areDefined (List.cons_ne_nil _ _) areDefined
      case auth =>
        change ∀ entry ∈ between.auths.entries, _
        rw [bestows.auths]
        intro entry entry_mem
        -- What auth has published was there before, and data publishes under other names.
        have kept := (admitted.suppliesFor self.auth entry entry_mem).congr admits.functions
          admits.parameters
        have later := kept.bestows bestows (List.cons_ne_nil _ _) fun pair pair_mem =>
          not_mem_names_dataValues pair_mem _
        exact later.congr (fun _ => rfl) rfl
      case data =>
        change ∀ entry ∈ (between.datas.insert factory.val built).entries, _
        rw [datas]
        intro entry entry_mem
        rw [List.mem_singleton.mp entry_mem, dataGrants_of_defined defined,
          resourceName_of_data defined]
        have supplies := bestows.suppliesFor areDefined (nodup_names_dataValues _ _)
        exact supplies.congr (fun _ => rfl) rfl

theorem Furnished.of_unfolds {before after : Assembly} (self : blueprint.Furnished before)
    (unfolds : blueprint.Unfolds before after) : blueprint.Furnished after := by
  induction unfolds with
  | refl => exact self
  | tail _ stage ih => exact ih.of_stage stage

theorem furnished_holding {journal : Journal} {resources : List (String × blueprint.Factory)} :
    blueprint.Furnished (Backend.holding blueprint journal resources).assembly := by
  constructor
  case areDefined =>
    intro function isFunction built there
    rw [Backend.assembly, container_holding] at there
    change blueprint.freshFunction function = some built at there
    unfold freshFunction at there
    split at there
    · rcases Option.map_eq_some_iff.mp there with ⟨resolved, _, rfl⟩
      exact BuiltFunction.isDefined_ofResolved _ _ _
    · next defined =>
        rw [kindOf, defined] at isFunction
        cases isFunction
    · cases there
  case auth =>
    rw [Backend.assembly, auths_holding]
    simp
  case data =>
    rw [Backend.assembly, datas_holding]
    simp

/-! ## Synthesis -/

theorem Supplies.exists_built {assembly : Assembly} {function : blueprint.Factory}
    {name value : String} (supplies : blueprint.Supplies assembly function name value) :
    ∃ built, assembly.functions.find? function = some built := by
  cases found : assembly.functions.find? function with
  | none => exact absurd (attachedTo_of_absent found) supplies.attached
  | some built => exact ⟨built, rfl⟩

theorem Supplies.refers {assembly : Assembly} {function : blueprint.Factory}
    {name value : String} (supplies : blueprint.Supplies assembly function name value)
    {built : BuiltFunction} (found : assembly.functions.find? function = some built) :
    built.Refers assembly.parameters name value := by
  rcases supplies.listed with ⟨same, there, resolved, listing, _, listed, text⟩
  rw [functionIn_of_find? found] at there
  cases there
  refine ⟨_, _, text, ?_, supplies.published⟩
  intro other
  rw [listsPath_writtenParameters_iff, listed]
  simp [eq_comm]

/-- The functions that were granted access to the auth or the data resource are referred to what the
resource has published, whatever variables they have of their own. -/
structure RefersGrantees (blueprint : Blueprint) (assembly : Assembly) : Prop where
  auth : ∀ auth settings site, blueprint.definition auth = .auth settings site →
    ∃ built, assembly.auths.entries = [(auth.val, built)] ∧
      ∀ function, blueprint.kindOf function = .function →
        ∀ grant ∈ settings.access.getD [],
          blueprint.factoryNamed? grant.grantee.name = some function →
        ∃ grantee, assembly.functions.find? function = some grantee ∧
          grantee.Refers assembly.parameters (settings.resolvedName ++ "_USERPOOL_ID")
            built.construct.resources.userPool.id
  data : ∀ data settings site, blueprint.definition data = .data settings site →
    ∃ built, assembly.datas.entries = [(data.val, built)] ∧
      ∀ function, blueprint.kindOf function = .function →
        ∀ grant ∈ settings.access.getD [],
          blueprint.factoryNamed? grant.grantee.name = some function →
        ∃ grantee, assembly.functions.find? function = some grantee ∧
          grantee.Refers assembly.parameters (settings.resolvedName ++ "_GRAPHQL_ENDPOINT")
            built.construct.resources.url ∧
          grantee.Refers assembly.parameters
            (settings.resolvedName ++ "_MODEL_INTROSPECTION_SCHEMA_BUCKET_NAME")
            built.construct.resources.bucketName ∧
          grantee.Refers assembly.parameters
            (settings.resolvedName ++ "_MODEL_INTROSPECTION_SCHEMA_KEY") introspectionSchemaKey

/-- A backend that is synthesised refers the functions that were granted access to what is there. -/
theorem synthesize_refers {journal : Journal} {resources : List (String × blueprint.Factory)}
    (singletons : blueprint.HasSingletons)
    (added : ∀ factory, ¬ blueprint.IsHandler factory →
      factory.val ∈ (Backend.holding blueprint journal resources).resources.values)
    (succeeds : ((Backend.holding blueprint journal resources).synthesize blueprint).1 = .ok ()) :
    blueprint.RefersGrantees
      ((Backend.holding blueprint journal resources).synthesize blueprint).2.assembly := by
  rcases unfolds_of_synthesize singletons added succeeds with ⟨after, same, later, stored, unfolds⟩
  have privileged := later.privileged stored added
  have furnished := furnished_holding.of_unfolds unfolds
  rw [same]
  constructor
  case auth =>
    intro auth settings site defined
    rcases privileged.auth auth (kindOf_of_auth defined) with ⟨built, entries⟩
    refine ⟨built, entries, ?_⟩
    intro function isFunction grant grant_mem named
    have supplied := furnished.auth (auth.val, built) (entries ▸ List.mem_singleton_self _)
    rw [authGrants_of_defined defined, resourceName_of_auth defined] at supplied
    have supplies :=
      supplied function isFunction grant grant_mem named _ (List.mem_singleton_self _)
    rcases supplies.exists_built with ⟨grantee, found⟩
    exact ⟨grantee, found, supplies.refers found⟩
  case data =>
    intro data settings site defined
    rcases privileged.data data (kindOf_of_data defined) with ⟨built, entries⟩
    refine ⟨built, entries, ?_⟩
    intro function isFunction grant grant_mem named
    have supplied := furnished.data (data.val, built) (entries ▸ List.mem_singleton_self _)
    rw [dataGrants_of_defined defined, resourceName_of_data defined] at supplied
    have values := supplied function isFunction grant grant_mem named
    simp only [dataValues, List.mem_cons, List.not_mem_nil, or_false, forall_eq_or_imp,
      forall_eq] at values
    rcases values with ⟨endpoint, bucket, key⟩
    rcases endpoint.exists_built with ⟨grantee, found⟩
    exact ⟨grantee, found, endpoint.refers found, bucket.refers found, key.refers found⟩

/-- A backend that grants access to a function, whose own variables have the names of what auth and
data publish. -/
def shadowing : Blueprint where
  configuration := .default
  siteCheck := none
  nameCheck := some .standard
  definitions :=
    [.function
      { FunctionSettings.default with
        name := some "reader"
        environment := OrderedMap.ofList
          [("users_USERPOOL_ID", .plain "elsewhere"),
           ("todos_GRAPHQL_ENDPOINT", .secret ⟨"endpoint"⟩)] }
      ⟨"reader.rs", 1, 1⟩,
     .auth
      { name := some "users"
        login := ⟨some .default, none, none⟩
        multifactor := none
        emailSender := none
        smsSender := none
        groups := []
        triggers := .empty
        access := some [⟨⟨"reader", []⟩, [.getUser]⟩] }
      ⟨"auth.rs", 1, 1⟩,
     .data
      { name := some "todos"
        schema := "type Todo @model \x7b id: ID \x7d"
        authorization := none
        functions := {}
        logging := none
        tableMappings := []
        access := some [⟨⟨"reader", []⟩, [.query]⟩] }
      ⟨"data.rs", 1, 1⟩]
  names := OrderedMap.ofList [("reader", 0), ("auth", 1), ("data", 2)]

/-- Its resources. -/
def shadowingResources : List (String × shadowing.Factory) :=
  [("reader", ⟨0, by decide⟩), ("auth", ⟨1, by decide⟩), ("data", ⟨2, by decide⟩)]

theorem shadowing_hasSingletons : shadowing.HasSingletons := ⟨by decide, by decide⟩

theorem shadowing_synthesizes :
    ((Backend.holding shadowing .empty shadowingResources).synthesize shadowing).1 = .ok () := by
  decide +kernel

theorem shadowing_refers :
    shadowing.HasSingletons ∧
      (∀ factory, ¬ shadowing.IsHandler factory →
        factory.val ∈ (Backend.holding shadowing .empty shadowingResources).resources.values) ∧
      ((Backend.holding shadowing .empty shadowingResources).synthesize shadowing).1 = .ok () ∧
      shadowing.RefersGrantees
        ((Backend.holding shadowing .empty shadowingResources).synthesize shadowing).2.assembly :=
  ⟨shadowing_hasSingletons, by decide, shadowing_synthesizes,
    synthesize_refers shadowing_hasSingletons (by decide) shadowing_synthesizes⟩

end Blueprint

end CloudSynth
