import CloudSynth.Proofs.Backend.FailedRequests
import CloudSynth.Proofs.Backend.FunctionNames
import CloudSynth.Proofs.Collection.FirstOccurrences
import CloudSynth.Proofs.Container.Unnoticed

/-!
# Resources that are replaced

A resource that is added under a name takes the place of the one that was added under this name
before. Nothing remains of the earlier one, with one exception: an auth resource is also registered
as what is provided to others, and stays so until another auth resource is added, under whatever
name (`Blueprint.holding_eq_withProviders`). Only the bodies of data resources ask for what is
provided (`Blueprint.impartial_body`), so the exception is noticed only when one of these begins
(`Blueprint.synthesize_unreplaced`).
-/

namespace CloudSynth

/-! ## What is not replaced -/

section Unreplaced

variable {γ : Type} {resources : List (String × γ)} {names : List String}

/-- The resource that was added last under a name. -/
def lastUnder? (resources : List (String × γ)) (name : String) : Option (String × γ) :=
  (resources.filter (·.1 = name)).getLast?

/-- For each name the resource that was added last under it, at the place where the name was first
added. -/
def unreplaced (resources : List (String × γ)) : List (String × γ) :=
  (resources.map (·.1)).eraseDups.filterMap (lastUnder? resources)

theorem name_of_lastUnder? {name : String} {resource : String × γ}
    (last : lastUnder? resources name = some resource) : resource.1 = name :=
  of_decide_eq_true (List.mem_filter.mp (List.mem_of_getLast? last)).2

theorem exists_lastUnder? {name : String} (there : name ∈ resources.map (·.1)) :
    ∃ resource, lastUnder? resources name = some resource := by
  rcases List.mem_map.mp there with ⟨resource, resource_mem, same⟩
  have nonempty : resources.filter (·.1 = name) ≠ [] :=
    List.ne_nil_of_mem (List.mem_filter.mpr ⟨resource_mem, decide_eq_true same⟩)
  exact ⟨_, List.getLast?_eq_some_getLast nonempty⟩

theorem lastUnder?_concat (resource : String × γ) (name : String) :
    lastUnder? (resources ++ [resource]) name =
      if resource.1 = name then some resource else lastUnder? resources name := by
  unfold lastUnder?
  by_cases same : resource.1 = name <;> simp [List.filter_append, same]

theorem names_filterMap (known : ∀ name ∈ names, name ∈ resources.map (·.1)) :
    (names.filterMap (lastUnder? resources)).map (·.1) = names := by
  induction names with
  | nil => rfl
  | cons name rest ih =>
      rcases exists_lastUnder? (known name List.mem_cons_self) with ⟨resource, last⟩
      rw [List.filterMap_cons_some last, List.map_cons, name_of_lastUnder? last,
        ih fun other later => known other (List.mem_cons_of_mem _ later)]

theorem names_unreplaced : (unreplaced resources).map (·.1) = (resources.map (·.1)).eraseDups :=
  names_filterMap fun _ there => List.mem_eraseDups.mp there

theorem nodup_unreplaced : ((unreplaced resources).map (·.1)).Nodup := by
  rw [names_unreplaced]
  exact nodup_eraseDups _

theorem filterMap_concat_of_not_mem {resource : String × γ} (absent : resource.1 ∉ names) :
    names.filterMap (lastUnder? (resources ++ [resource])) =
      names.filterMap (lastUnder? resources) := by
  refine List.filterMap_congr fun name name_mem => ?_
  rw [lastUnder?_concat, if_neg]
  rintro rfl
  exact absent name_mem

/-- One more resource takes the place of the one under its name. -/
theorem filterMap_concat_of_mem (distinct : names.Nodup)
    (known : ∀ name ∈ names, name ∈ resources.map (·.1)) {resource : String × γ}
    (there : resource.1 ∈ names) :
    names.filterMap (lastUnder? (resources ++ [resource])) =
      OrderedMap.put resource.1 resource.2 (names.filterMap (lastUnder? resources)) := by
  induction names with
  | nil => cases there
  | cons name rest ih =>
      rw [List.nodup_cons] at distinct
      rcases exists_lastUnder? (known name List.mem_cons_self) with ⟨earlier, last⟩
      have sameName := name_of_lastUnder? last
      rw [List.filterMap_cons_some last, OrderedMap.put]
      by_cases same : resource.1 = name
      · have replaced : lastUnder? (resources ++ [resource]) name = some resource := by
          rw [lastUnder?_concat, if_pos same]
        rw [List.filterMap_cons_some replaced,
          filterMap_concat_of_not_mem fun later => distinct.1 (same ▸ later),
          if_pos (sameName.trans same.symm)]
      · have untouched : lastUnder? (resources ++ [resource]) name = some earlier := by
          rw [lastUnder?_concat, if_neg same, last]
        have different : earlier.1 ≠ resource.1 := fun equal => same (equal.symm.trans sameName)
        rw [List.filterMap_cons_some untouched, if_neg different,
          ih distinct.2 (fun other later => known other (List.mem_cons_of_mem _ later))
            ((List.mem_cons.mp there).resolve_left same)]

theorem unreplaced_concat (resource : String × γ) :
    unreplaced (resources ++ [resource]) =
      OrderedMap.put resource.1 resource.2 (unreplaced resources) := by
  have known : ∀ name ∈ (resources.map (·.1)).eraseDups, name ∈ resources.map (·.1) :=
    fun _ there => List.mem_eraseDups.mp there
  rw [unreplaced, List.map_append, List.map_cons, List.map_nil, eraseDups_concat]
  split
  · next there =>
    exact filterMap_concat_of_mem (nodup_eraseDups _) known (List.mem_eraseDups.mpr there)
  · next absent =>
    have apart : resource.1 ∉ (resources.map (·.1)).eraseDups := fun there => absent (known _ there)
    have added : lastUnder? (resources ++ [resource]) resource.1 = some resource := by
      rw [lastUnder?_concat, if_pos rfl]
    rw [OrderedMap.put_of_not_mem (names_unreplaced ▸ apart), List.filterMap_append,
      filterMap_concat_of_not_mem apart, List.filterMap_cons_some added, List.filterMap_nil]
    rfl

end Unreplaced

/-! ## Providers -/

/-- The assembly with other providers. -/
def Assembly.withProviders (providers : OrderedMap String Nat) (assembly : Assembly) : Assembly :=
  { assembly with providers }

/-- The backend with other providers. -/
def Backend.withProviders (providers : OrderedMap String Nat) (backend : Backend) : Backend :=
  backend.changeAssembly (·.withProviders providers)

namespace Blueprint

variable {blueprint : Blueprint} {α β : Type} {providers : OrderedMap String Nat}

/-- The program does the same when other resources are provided. -/
abbrev Impartial (providers : OrderedMap String Nat) (program : blueprint.Build α) : Prop :=
  Program.Unaware (Assembly.withProviders providers) program

theorem impartial_checkDefinition (definition : Definition) :
    Impartial providers (blueprint.checkDefinition definition) := by
  have ofSite : ∀ site expected message,
      Impartial providers
        (Program.act (blueprint.checkSite site expected message) : blueprint.Build Unit) := by
    intro site expected message
    refine .act fun assembly => ?_
    unfold checkSite
    cases blueprint.siteCheck <;> rfl
  have ofName : ∀ name, Impartial providers
      (Program.act (blueprint.checkName name) : blueprint.Build Unit) := by
    intro name
    refine .act fun assembly => ?_
    unfold checkName
    cases blueprint.nameCheck <;> cases name <;> rfl
  cases definition with
  | function settings site =>
      simp only [checkDefinition]
      cases settings.resolve site with
      | error fault => exact .finish _
      | ok resolved => exact ofName _
  | stub name => exact .finish _
  | auth settings site => exact (ofSite _ _ _).bind fun _ => ofName _
  | data settings site => exact (ofSite _ _ _).bind fun _ => ofName _

theorem impartial_instanceOf (factory : blueprint.Factory) :
    Impartial providers (blueprint.instanceOf factory) :=
  (impartial_checkDefinition _).bind fun _ => .entryOf factory

theorem Asks.impartial {program : blueprint.Build α} (asks : Asks program) :
    Impartial providers program := by
  induction asks with
  | finish outcome => exact .finish outcome
  | instanceOf factory => exact impartial_instanceOf factory
  | bind head rest ihHead ihRest => exact ihHead.bind ihRest

theorem impartial_builtFunction (factory : Nat) :
    Impartial providers (blueprint.builtFunction factory) := by
  rw [builtFunction_eq]
  refine .read (fun _ => rfl) fun assembly => ?_
  cases assembly.functions.find? factory <;> exact .finish _

theorem impartial_builtAuth (factory : Nat) :
    Impartial providers (blueprint.builtAuth factory) := by
  rw [builtAuth_eq]
  refine .read (fun _ => rfl) fun assembly => ?_
  cases assembly.auths.find? factory <;> exact .finish _

section Grants

variable {resource : String} {entries : List ParameterEntry} {statementsFor : α → List Statement}

theorem impartial_arbitrateOne (index : Nat) (grant : Grant Reference α) :
    Impartial providers
      ((blueprint.arbiter resource entries statementsFor).arbitrateOne index grant) := by
  have handed : ∀ factory : Nat, Impartial providers (do
      let acceptor ← blueprint.functionAcceptor factory none
      let issued ← modifyGet fun assembly => assembly.issue
        ((blueprint.arbiter resource entries statementsFor).policyFor index acceptor.identifier
          grant.actions)
      acceptor.accept issued entries
      return issued) := by
    intro factory
    simp only [functionAcceptor, bind_assoc, pure_bind]
    refine (impartial_builtFunction factory).bind fun built => ?_
    refine Program.Unaware.bind (.modifyGet fun assembly => rfl) fun issued => ?_
    exact Program.Unaware.bind (.modify fun assembly => rfl) fun _ => .finish _
  simp only [Arbiter.arbitrateOne, arbiter, granteeAcceptor, bind_assoc]
  refine (asks_resolveReference grant.grantee isGrantee).impartial.bind fun holder => ?_
  unfold acceptorOf
  cases holder.kind with
  | function => exact handed holder.factory
  | stub => exact handed holder.factory
  | auth =>
      simp only [authAcceptor, bind_assoc]
      exact (impartial_builtAuth _).bind fun _ => .finish _
  | data => exact .finish _

theorem impartial_arbitrateFrom (index : Nat) (grants : List (Grant Reference α)) :
    Impartial providers
      ((blueprint.arbiter resource entries statementsFor).arbitrateFrom index grants) := by
  induction grants generalizing index with
  | nil => exact .finish _
  | cons grant rest ih =>
      refine (impartial_arbitrateOne index grant).bind fun issued => ?_
      exact (ih (index + 1)).bind fun others => .finish _

end Grants

theorem impartial_buildFunction (factory : Nat) (resolved : ResolvedFunction) :
    Impartial providers
      (Program.act (·.buildFunction factory resolved) : blueprint.Build Instance) := by
  refine .act fun assembly => ?_
  have same : (assembly.withProviders providers).stackSet = assembly.stackSet := rfl
  simp only [Assembly.buildFunction, same]
  rcases (assembly.stackSet.stackFor ResourceKind.function.group).addAll resolved.registrations
    with ⟨_ | _, _⟩ <;> rfl

theorem impartial_finishAuth (factory : Nat) (settings : AuthSettings Reference)
    (triggers : List (TriggerEvent × Nat)) (created : AuthConstruct Nat) :
    Impartial providers (blueprint.finishAuth factory settings triggers created) := by
  refine (Program.Unaware.finish _).bind fun construct => ?_
  refine Program.Unaware.bind (.modify fun assembly => rfl) fun _ => ?_
  refine Program.Unaware.bind (.forM_option (fun grants => ?_) _) fun _ => ?_
  · refine Program.Unaware.bind ?_ fun _ => .finish _
    refine Program.Unaware.bind (.modifyGet fun assembly => rfl) fun entries => ?_
    exact impartial_arbitrateFrom 0 grants
  · exact Program.Unaware.bind (.modify fun assembly => rfl) fun _ => .finish _

theorem impartial_buildAuth (factory : Nat) (settings : AuthSettings Reference) :
    Impartial providers (blueprint.buildAuth factory settings) := by
  rw [buildAuth_eq]
  refine (asks_settleAuth _ settings).impartial.bind fun properties => ?_
  refine (asks_resolveTriggers settings).impartial.bind fun triggers => ?_
  exact Program.Unaware.bind (.act fun assembly => rfl) fun created =>
    impartial_finishAuth factory settings triggers created

/-- Only data resources ask for what is provided. -/
theorem impartial_body {factory : blueprint.Factory} (other : blueprint.kindOf factory ≠ .data) :
    Impartial providers (blueprint.catalogue.generator factory).body := by
  refine Program.Unaware.bind (.modify fun assembly => rfl) fun _ => ?_
  unfold kindOf at other
  cases defined : blueprint.definition factory with
  | function settings site =>
      simp only [build]
      cases settings.resolve site with
      | error fault => exact .finish _
      | ok resolved => exact impartial_buildFunction _ resolved
  | stub name => exact .act fun assembly => rfl
  | auth settings site => exact impartial_buildAuth _ settings
  | data settings site =>
      rw [defined] at other
      exact absurd rfl other

/-! ## Backends whose resources are replaced -/

section Replaced

variable {journal : Journal} {resources : List (String × blueprint.Factory)}

/-- While the backend is synthesised, the body of a factory begins. -/
def Begins (blueprint : Blueprint) (backend : Backend) (factory : blueprint.Factory) : Prop :=
  ∃ chronicle outcome after container,
    blueprint.catalogue.Runs (blueprint.resolveAll backend.resources.values) backend.container
      chronicle outcome after ∧ .began factory container ∈ chronicle.events

theorem entries_holding :
    (Backend.holding blueprint journal resources).resources.entries =
      (unreplaced resources).map fun resource => (resource.1, resource.2.val) := by
  have put_map : ∀ (resource : String × blueprint.Factory) entries,
      OrderedMap.put resource.1 resource.2.val
          (entries.map fun entry : String × blueprint.Factory => (entry.1, entry.2.val)) =
        (OrderedMap.put resource.1 resource.2 entries).map
          fun entry => (entry.1, entry.2.val) := by
    intro resource entries
    induction entries with
    | nil => rfl
    | cons entry rest ih =>
        simp only [List.map_cons, OrderedMap.put]
        split
        · rfl
        · rw [ih, List.map_cons]
  induction resources using List.reverseRecOn with
  | nil => rfl
  | append_singleton resources resource ih =>
      rw [holding_concat, add_eq, unreplaced_concat, ← put_map, ← ih]
      rfl

theorem resources_holding_unreplaced :
    (Backend.holding blueprint journal (unreplaced resources)).resources =
      (Backend.holding blueprint journal resources).resources := by
  apply OrderedMap.ext
  rw [resources_holding nodup_unreplaced, entries_holding]

/-- Of what has been replaced nothing remains but the auth resource that is provided. -/
theorem holding_eq_withProviders :
    Backend.holding blueprint journal resources =
      (Backend.holding blueprint journal (unreplaced resources)).withProviders
        (providersOf (lastAuth? resources)) := by
  have container : (Backend.holding blueprint journal resources).container =
      ((Backend.holding blueprint journal (unreplaced resources)).withProviders
        (providersOf (lastAuth? resources))).container := by
    rw [Backend.withProviders, Backend.changeAssembly, container_holding, container_holding,
      foldl_provided]
    rfl
  exact congrArg₂ Backend.mk container resources_holding_unreplaced.symm

theorem holding_unreplaced (sameAuth : lastAuth? (unreplaced resources) = lastAuth? resources) :
    Backend.holding blueprint journal (unreplaced resources) =
      Backend.holding blueprint journal resources := by
  have container : (Backend.holding blueprint journal (unreplaced resources)).container =
      (Backend.holding blueprint journal resources).container := by
    rw [container_holding, container_holding, foldl_provided, foldl_provided, sameAuth]
  exact congrArg₂ Backend.mk container resources_holding_unreplaced

/-- As long as no data resource begins, providers make no difference. -/
theorem synthesize_withProviders {backend : Backend}
    (noData : ∀ data, blueprint.kindOf data = .data → ¬ blueprint.Begins backend data) :
    (backend.withProviders providers).synthesize blueprint =
      ((backend.synthesize blueprint).1,
        (backend.synthesize blueprint).2.withProviders providers) := by
  rcases blueprint.catalogue.exists_runs blueprint.listed
    (blueprint.resolveAll backend.resources.values) backend.container with ⟨chronicle, run⟩
  have unaware : ∀ factory, ¬ blueprint.kindOf factory = .data →
      (blueprint.catalogue.generator factory).body.Unaware (Assembly.withProviders providers) :=
    fun factory other => impartial_body other
  have unnoticed : ∀ factory container, .began factory container ∈ chronicle.events →
      ¬ blueprint.kindOf factory = .data :=
    fun factory container began isData =>
      noData factory isData ⟨chronicle, _, _, container, run, began⟩
  have changed : blueprint.catalogue.run
      (blueprint.resolveAll (backend.withProviders providers).resources.values)
        (backend.withProviders providers).container = _ :=
    Catalogue.run_changed blueprint.listed unaware run unnoticed (asks_resolveAll _).impartial
  rw [Backend.synthesize, Backend.run, changed]
  rfl

/-- Of a resource that is replaced nothing remains, except that an auth resource stays the one that
is provided until another auth resource is added. This is noticed only when a data resource is built
that would find another one, or none. -/
theorem synthesize_unreplaced (journal : Journal)
    (resources : List (String × blueprint.Factory)) :
    Backend.holding blueprint journal resources =
        (Backend.holding blueprint journal (unreplaced resources)).withProviders
          (providersOf (lastAuth? resources)) ∧
      (lastAuth? (unreplaced resources) = lastAuth? resources →
        (Backend.holding blueprint journal resources).synthesize blueprint =
          (Backend.holding blueprint journal (unreplaced resources)).synthesize blueprint) ∧
      ((∀ data, blueprint.kindOf data = .data →
          ¬ blueprint.Begins (Backend.holding blueprint journal (unreplaced resources)) data) →
        (Backend.holding blueprint journal resources).synthesize blueprint =
          (((Backend.holding blueprint journal (unreplaced resources)).synthesize blueprint).1,
            ((Backend.holding blueprint journal (unreplaced resources)).synthesize
              blueprint).2.withProviders (providersOf (lastAuth? resources)))) := by
  refine ⟨holding_eq_withProviders, ?_, ?_⟩
  · intro sameAuth
    rw [holding_unreplaced sameAuth]
  · intro noData
    rw [holding_eq_withProviders]
    exact synthesize_withProviders noData

end Replaced

/-- An auth resource that is replaced by a function, where there are no data resources. -/
def overreachingReplacement : List (String × overreaching.Factory) :=
  [("main", overreachingAuth), ("main", overreachingReader)]

theorem overreaching_unreplaced :
    lastAuth? (unreplaced overreachingReplacement) ≠ lastAuth? overreachingReplacement ∧
      (∀ data, overreaching.kindOf data ≠ .data) ∧
      (Backend.holding overreaching .empty overreachingReplacement).synthesize overreaching =
        (((Backend.holding overreaching .empty (unreplaced overreachingReplacement)).synthesize
            overreaching).1,
          ((Backend.holding overreaching .empty (unreplaced overreachingReplacement)).synthesize
            overreaching).2.withProviders (providersOf (lastAuth? overreachingReplacement))) := by
  have noData : ∀ data, overreaching.kindOf data ≠ .data := by decide
  exact ⟨by decide, noData, (synthesize_unreplaced .empty overreachingReplacement).2.2
    fun data isData => absurd isData (noData data)⟩

/-- A backend with a function, an auth and a data resource. -/
def replacing : Blueprint where
  configuration := .default
  siteCheck := none
  nameCheck := none
  definitions :=
    [.function { FunctionSettings.default with name := some "reader" } ⟨"reader.rs", 1, 1⟩,
     .auth
      { name := none
        login := ⟨some .default, none, none⟩
        multifactor := none
        emailSender := none
        smsSender := none
        groups := []
        triggers := .empty
        access := none }
      ⟨"auth.rs", 1, 1⟩,
     .data
      { name := none
        schema := "type Todo @model \x7b id: ID \x7d"
        authorization := none
        functions := {}
        logging := none
        tableMappings := []
        access := none }
      ⟨"data.rs", 1, 1⟩]
  names := OrderedMap.ofList [("reader", 0), ("users", 1), ("todos", 2)]

/-- The function replaces the auth resource. -/
def replacingResources : List (String × replacing.Factory) :=
  [("main", ⟨1, by decide⟩), ("main", ⟨0, by decide⟩), ("api", ⟨2, by decide⟩)]

/-- The data resource finds the auth resource that was replaced, which is therefore built. -/
theorem replacing_builds_replaced :
    unreplaced replacingResources = [("main", ⟨0, by decide⟩), ("api", ⟨2, by decide⟩)] ∧
      ((Backend.holding replacing .empty replacingResources).synthesize replacing).1 = .ok () ∧
      ((Backend.holding replacing .empty (unreplaced replacingResources)).synthesize
        replacing).1 = .ok () ∧
      ((Backend.holding replacing .empty replacingResources).synthesize
        replacing).2.assembly.auths.keys = [1] ∧
      ((Backend.holding replacing .empty (unreplaced replacingResources)).synthesize
        replacing).2.assembly.auths.keys = [] ∧
      ((Backend.holding replacing .empty replacingResources).synthesize
        replacing).2.assembly.outputs.find? authOutputKey ≠ none ∧
      ((Backend.holding replacing .empty (unreplaced replacingResources)).synthesize
        replacing).2.assembly.outputs.find? authOutputKey = none :=
  ⟨by decide, by decide +kernel, by decide +kernel, by decide +kernel, by decide +kernel,
    by decide +kernel, by decide +kernel⟩

end Blueprint

end CloudSynth
