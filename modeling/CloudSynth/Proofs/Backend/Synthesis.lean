import Mathlib.Data.List.Induction
import CloudSynth.Proofs.Backend.Resolution

/-!
# Synthesis of a backend

A backend to which resources have been added and that has built nothing yet depends on their order
in one respect only (`Blueprint.container_holding_congr`): the order in which synthesis asks for
them. Nothing is being resolved then, and the auth resource can be found
(`Blueprint.outside_holding`).
-/

namespace CloudSynth

/-- A backend that has built nothing, to which factories have been added by name, in order. -/
def Backend.holding (blueprint : Blueprint) (journal : Journal)
    (resources : List (String × blueprint.Factory)) : Backend :=
  resources.foldl
    (fun backend resource =>
      backend.add resource.1 resource.2 (blueprint.definition resource.2))
    (.new blueprint.configuration journal)

namespace Blueprint

variable {blueprint : Blueprint} {journal : Journal}
  {resources : List (String × blueprint.Factory)}

theorem factoryAt?_val (factory : blueprint.Factory) :
    blueprint.factoryAt? factory.val = some factory := by
  simp [factoryAt?]

/-! ## Adding resources -/

/-- The providers after a factory has been added. -/
def provided (providers : OrderedMap String Nat) (factory : blueprint.Factory) :
    OrderedMap String Nat :=
  if blueprint.kindOf factory = .auth then providers.insert authResourcesToken factory
  else providers

theorem add_eq (backend : Backend) (name : String) (factory : blueprint.Factory) :
    backend.add name factory (blueprint.definition factory) =
      { container := { backend.container with state := { backend.container.state with
          providers := provided backend.container.state.providers factory } }
        resources := backend.resources.insert name factory } := by
  unfold provided kindOf
  cases blueprint.definition factory <;> rfl

theorem holding_concat (resource : String × blueprint.Factory) :
    Backend.holding blueprint journal (resources ++ [resource]) =
      (Backend.holding blueprint journal resources).add resource.1 resource.2
        (blueprint.definition resource.2) := by
  simp only [Backend.holding, List.foldl_append, List.foldl_cons, List.foldl_nil]

theorem container_holding :
    (Backend.holding blueprint journal resources).container =
      .new { blueprint.initial journal with
        providers := (resources.map (·.2)).foldl provided {} } := by
  induction resources using List.reverseRecOn with
  | nil => rfl
  | append_singleton resources resource ih =>
      rw [holding_concat, add_eq, ih, List.map_append, List.foldl_append]
      rfl

theorem resources_holding (distinct : (resources.map (·.1)).Nodup) :
    (Backend.holding blueprint journal resources).resources.entries =
      resources.map fun resource => (resource.1, resource.2.val) := by
  induction resources using List.reverseRecOn with
  | nil => rfl
  | append_singleton resources resource ih =>
      rw [List.map_append, List.nodup_append'] at distinct
      rcases distinct with ⟨before, _, disjoint⟩
      have absent : resource.1 ∉ (resources.map fun other => (other.1, other.2.val)).map (·.1) := by
        intro there
        simp only [List.map_map] at there
        exact disjoint there (by simp)
      rw [holding_concat, add_eq]
      simp only [OrderedMap.insert, ih before, List.map_append]
      exact OrderedMap.put_of_not_mem absent _

theorem values_holding (distinct : (resources.map (·.1)).Nodup) :
    (Backend.holding blueprint journal resources).resources.values =
      (resources.map (·.2)).map Fin.val := by
  rw [OrderedMap.values, resources_holding distinct, List.map_map, List.map_map]
  rfl

/-- The auth resource that was added last, whether or not it has been replaced. -/
def lastAuth? (resources : List (String × blueprint.Factory)) : Option blueprint.Factory :=
  ((resources.map (·.2)).filter fun factory => blueprint.kindOf factory = .auth).getLast?

/-- What is provided if it is the auth resource of a factory. -/
def providersOf (provider : Option blueprint.Factory) : OrderedMap String Nat :=
  match provider with
  | some factory => ({} : OrderedMap String Nat).insert authResourcesToken factory
  | none => {}

theorem foldl_provided (resources : List (String × blueprint.Factory)) :
    (resources.map (·.2)).foldl provided {} = providersOf (lastAuth? resources) := by
  induction resources using List.reverseRecOn with
  | nil => rfl
  | append_singleton resources resource ih =>
      rw [List.map_append, List.map_cons, List.map_nil, List.foldl_append, ih, List.foldl_cons,
        List.foldl_nil, provided]
      by_cases isAuth : blueprint.kindOf resource.2 = .auth
      · have last : lastAuth? (resources ++ [resource]) = some resource.2 := by
          simp [lastAuth?, List.filter_append, isAuth]
        rw [if_pos isAuth, last]
        cases lastAuth? resources <;> rfl
      · have last : lastAuth? (resources ++ [resource]) = lastAuth? resources := by
          simp [lastAuth?, List.filter_append, isAuth]
        rw [if_neg isAuth, last]

theorem lastAuth?_eq_some_iff (singletons : blueprint.HasSingletons)
    {factory : blueprint.Factory} :
    lastAuth? resources = some factory ↔
      blueprint.kindOf factory = .auth ∧ factory ∈ resources.map (·.2) := by
  constructor
  · intro last
    rcases List.mem_filter.mp (List.mem_of_getLast? last) with ⟨added, isAuth⟩
    exact ⟨of_decide_eq_true isAuth, added⟩
  · rintro ⟨isAuth, added⟩
    have there : factory ∈ (resources.map (·.2)).filter fun factory =>
        blueprint.kindOf factory = .auth :=
      List.mem_filter.mpr ⟨added, decide_eq_true isAuth⟩
    have last := List.getLast_mem (List.ne_nil_of_mem there)
    rw [lastAuth?, List.getLast?_eq_some_getLast (List.ne_nil_of_mem there),
      singletons.auth _ factory (of_decide_eq_true (List.mem_filter.mp last).2) isAuth]

theorem provider_providersOf {assembly : Assembly} {provided : Option blueprint.Factory}
    (providers : assembly.providers = providersOf provided) :
    blueprint.provider assembly = provided := by
  rw [provider, providers]
  cases provided with
  | none => rfl
  | some factory =>
      rw [providersOf, OrderedMap.find?_insert_self, Option.bind_some, factoryAt?_val]

theorem container_holding_congr (singletons : blueprint.HasSingletons)
    {others : List (String × blueprint.Factory)}
    (same : ∀ factory, factory ∈ resources.map (·.2) ↔ factory ∈ others.map (·.2)) :
    (Backend.holding blueprint journal resources).container =
      (Backend.holding blueprint journal others).container := by
  have sameAuth : lastAuth? resources = lastAuth? others := by
    ext factory
    rw [lastAuth?_eq_some_iff singletons, lastAuth?_eq_some_iff singletons, same]
  rw [container_holding, container_holding, foldl_provided, foldl_provided, sameAuth]

/-! ## A backend that has built nothing -/

theorem lookup?_holding (id : GeneratorId) :
    (Backend.holding blueprint journal resources).container.lookup? id = none := by
  rw [container_holding]
  rfl

theorem built_holding :
    blueprint.Built (Backend.holding blueprint journal resources).container [] := by
  constructor
  case entries =>
    intro factory entry stored
    rw [lookup?_holding] at stored
    cases stored
  case stored =>
    intro factory _
    rw [lookup?_holding]
    simp
  case handlers => simp
  case idle => intro factory _; rw [container_holding]; rfl
  case keys => rw [container_holding]; rfl
  case stack => rw [container_holding]; rfl
  case distinct => simp
  case identifier => rw [container_holding]; rfl
  case listed => rw [container_holding]; rfl

theorem discoverable_holding (singletons : blueprint.HasSingletons)
    (added : ∀ factory, blueprint.kindOf factory = .auth → factory ∈ resources.map (·.2)) :
    blueprint.Discoverable { blueprint.initial journal with
      providers := (resources.map (·.2)).foldl provided {} } := by
  intro factory
  rw [provider_providersOf (foldl_provided resources), lastAuth?_eq_some_iff singletons]
  constructor
  · exact fun isAuth => ⟨isAuth, added factory isAuth⟩
  · exact And.left

theorem outside_holding (singletons : blueprint.HasSingletons)
    (added : ∀ factory, blueprint.kindOf factory = .auth → factory ∈ resources.map (·.2)) :
    blueprint.Outside (Backend.holding blueprint journal resources).container := by
  rw [container_holding]
  exact ⟨rfl, discoverable_holding singletons added⟩

/-! ## Asking for every resource -/

/-- Asks for several factories in order. -/
def askAll (blueprint : Blueprint) (factories : List blueprint.Factory) : blueprint.Build PUnit :=
  factories.forM fun factory => discard (blueprint.instanceOf factory)

theorem resolveAll_cons (number : Nat) (rest : List Nat) :
    blueprint.resolveAll (number :: rest) = (match blueprint.factoryAt? number with
      | some factory => discard (blueprint.instanceOf factory)
      | none => return ()) >>= fun _ => blueprint.resolveAll rest := rfl

theorem resolveAll_eq_askAll (numbers : List Nat) :
    blueprint.resolveAll numbers = blueprint.askAll (numbers.filterMap blueprint.factoryAt?) := by
  induction numbers with
  | nil => rfl
  | cons number rest ih =>
      rw [resolveAll_cons, ih]
      cases found : blueprint.factoryAt? number with
      | none => rw [List.filterMap_cons_none found, pure_bind]
      | some factory =>
          rw [List.filterMap_cons_some found]
          rfl

theorem run_askAll_cons_eq_ok {factory : blueprint.Factory} {rest : List blueprint.Factory}
    {before after : BackendContainer} :
    blueprint.catalogue.run (blueprint.askAll (factory :: rest)) before = (.ok (), after) ↔
      ∃ found between,
        blueprint.catalogue.run (blueprint.instanceOf factory) before = (.ok found, between) ∧
        blueprint.catalogue.run (blueprint.askAll rest) between = (.ok (), after) := by
  change blueprint.catalogue.run (discard (blueprint.instanceOf factory) >>=
    fun _ => blueprint.askAll rest) before = _ ↔ _
  simp only [Catalogue.run_bind_eq_ok blueprint.listed,
    Catalogue.run_discard_eq_ok blueprint.listed]
  constructor
  · rintro ⟨_, between, ⟨found, asked⟩, continued⟩
    exact ⟨found, between, asked, continued⟩
  · rintro ⟨found, between, asked, continued⟩
    exact ⟨(), between, ⟨found, asked⟩, continued⟩

theorem synthesize_eq (backend : Backend) :
    backend.synthesize blueprint =
      backend.run blueprint
        (blueprint.askAll (backend.resources.values.filterMap blueprint.factoryAt?)) := by
  rw [Backend.synthesize, resolveAll_eq_askAll]

theorem synthesize_holding (distinct : (resources.map (·.1)).Nodup) :
    (Backend.holding blueprint journal resources).synthesize blueprint =
      (Backend.holding blueprint journal resources).run blueprint
        (blueprint.askAll (resources.map (·.2))) := by
  rw [synthesize_eq, values_holding distinct, List.filterMap_map]
  simp [factoryAt?_val]

theorem mem_of_mem_values_holding {number : Nat}
    (number_mem : number ∈ (Backend.holding blueprint journal resources).resources.values) :
    ∃ factory ∈ resources.map (·.2), factory.val = number := by
  induction resources using List.reverseRecOn with
  | nil => cases number_mem
  | append_singleton resources resource ih =>
      rw [holding_concat, add_eq] at number_mem
      rcases OrderedMap.mem_values_insert number_mem with rfl | before
      · exact ⟨resource.2, by simp, rfl⟩
      · rcases ih before with ⟨factory, factory_mem, same⟩
        refine ⟨factory, ?_, same⟩
        rw [List.map_append, List.mem_append]
        exact Or.inl factory_mem

end Blueprint

end CloudSynth
