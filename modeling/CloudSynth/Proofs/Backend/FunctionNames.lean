import CloudSynth.Proofs.Backend.Regularity
import CloudSynth.Proofs.Backend.Synthesis

/-!
# Names of functions

A function is recorded in three places: as an entry of the container, by its resources in the
function stack, and by its name in the outputs. The three are written at different moments of a
request that may fail, and yet they tell the same story in every container of which anything is
requested (`Blueprint.functionNames_agree`): requests for functions are the only ones that write
them, and such a request records the function in all three or in none.

It depends on the name of a function alone whether it can be built after others have been
(`Blueprint.requested_function`).
-/

namespace CloudSynth

/-- The backends that resources are added to, of which instances are requested, and which are
synthesised, whether or not anything can be built. -/
inductive Backend.Operated (blueprint : Blueprint) : Backend → Prop
  | new (journal : Journal) : Operated blueprint (.new blueprint.configuration journal)
  | add {backend : Backend} (operated : Operated blueprint backend) (name : String)
    (factory : blueprint.Factory) :
    Operated blueprint (backend.add name factory (blueprint.definition factory))
  | getInstance {backend : Backend} (operated : Operated blueprint backend)
    (factory : blueprint.Factory) :
    Operated blueprint (backend.getInstance blueprint factory).2
  | synthesize {backend : Backend} (operated : Operated blueprint backend) :
    Operated blueprint (backend.synthesize blueprint).2

namespace Blueprint

variable {blueprint : Blueprint}

/-- The containers of backends, and those that requests lead them through while no function is being
resolved. Functions ask for nothing, so whatever is requested is requested of such a container. -/
inductive Occurs (blueprint : Blueprint) : BackendContainer → Prop
  | operated {backend : Backend} (operated : backend.Operated blueprint) :
    Occurs blueprint backend.container
  | getInstance {backend : Backend} (operated : backend.Operated blueprint)
    (factory : blueprint.Factory) {through : BackendContainer}
    (passes : blueprint.catalogue.Passes through (blueprint.instanceOf factory) backend.container)
    (quiet : blueprint.Quiet through) : Occurs blueprint through
  | synthesize {backend : Backend} (operated : backend.Operated blueprint)
    {through : BackendContainer}
    (passes : blueprint.catalogue.Passes through
      (blueprint.resolveAll backend.resources.values) backend.container)
    (quiet : blueprint.Quiet through) : Occurs blueprint through

/-! ## What lasts -/

section Lasting

variable {holds : BackendContainer → Prop} {backend : Backend} {container : BackendContainer}

theorem asks_resolveAll (numbers : List Nat) : Asks (blueprint.resolveAll numbers) := by
  apply Asks.forM_list
  intro number
  split
  · exact (Asks.instanceOf _).discard
  · exact .finish _

theorem resolving_of_operated (operated : backend.Operated blueprint) :
    backend.container.resolving = [] := by
  induction operated with
  | new journal => rfl
  | add operated name factory ih =>
      rw [add_eq]
      exact ih
  | getInstance operated factory ih =>
      exact (Catalogue.resolving_of_run blueprint.listed rfl).trans ih
  | synthesize operated ih => exact (Catalogue.resolving_of_run blueprint.listed rfl).trans ih

theorem quiet_of_operated (operated : backend.Operated blueprint) :
    blueprint.Quiet backend.container := by
  intro factory _
  simp [Container.isResolving, resolving_of_operated operated]

/-- What lasts holds of every backend, if it holds at first and does not depend on providers. -/
theorem Lasting.of_operated (lasting : blueprint.Lasting holds)
    (initial : ∀ journal, holds (Backend.new blueprint.configuration journal).container)
    (added : ∀ {container : BackendContainer}, holds container → ∀ providers,
      holds { container with state := { container.state with providers } })
    (operated : backend.Operated blueprint) : holds backend.container := by
  induction operated with
  | new journal => exact initial journal
  | add operated name factory ih =>
      rw [add_eq]
      exact added ih _
  | getInstance operated factory ih =>
      have quiet := quiet_of_operated operated
      exact lasting.instanceOf quiet ih (Catalogue.passes_run blueprint.listed _ _)
        (quiet.congr (Catalogue.resolving_of_run blueprint.listed rfl))
  | synthesize operated ih =>
      have quiet := quiet_of_operated operated
      exact lasting.of_asks (asks_resolveAll _) quiet ih (Catalogue.passes_run blueprint.listed _ _)
        (quiet.congr (Catalogue.resolving_of_run blueprint.listed rfl))

theorem Lasting.of_occurs (lasting : blueprint.Lasting holds)
    (initial : ∀ journal, holds (Backend.new blueprint.configuration journal).container)
    (added : ∀ {container : BackendContainer}, holds container → ∀ providers,
      holds { container with state := { container.state with providers } })
    (occurs : blueprint.Occurs container) : holds container := by
  cases occurs with
  | operated operated => exact lasting.of_operated initial added operated
  | getInstance operated factory passes quietThrough =>
      exact lasting.instanceOf (quiet_of_operated operated)
        (lasting.of_operated initial added operated) passes quietThrough
  | synthesize operated passes quietThrough =>
      exact lasting.of_asks (asks_resolveAll _) (quiet_of_operated operated)
        (lasting.of_operated initial added operated) passes quietThrough

end Lasting

/-! ## What the entries say -/

/-- The names of the functions that the container has entries of, in the order in which they were
built. Stubs do not count. -/
def functionNames (container : BackendContainer) : List String :=
  container.entries.filterMap fun entry =>
    if entry.2.kind = .function then
      (container.state.functions.find? entry.2.factory).map BuiltFunction.name
    else none

/-- The functions are built as they should be, and the entries are in the order in which they were
built. -/
structure Recorded (container : BackendContainer) (built : List blueprint.Factory) : Prop
    extends blueprint.Built container built where
  ordered : container.entries.filter (fun entry => handles entry.2.kind) =
    built.map fun factory => (blueprint.idOf factory, blueprint.instanceFor factory)
  names : ∀ factory ∈ built, (container.state.functions.find? factory).map BuiltFunction.name =
    (blueprint.freshFunction factory).map BuiltFunction.name

section Recorded

variable {container after : BackendContainer} {built : List blueprint.Factory}
  {factory : blueprint.Factory} {settings : FunctionSettings} {site : DefinitionSite}

theorem Recorded.add (recorded : Recorded container built) (handler : blueprint.IsHandler factory)
    (new : factory ∉ built) (adds : Adds factory container.state after.state)
    (fits : Fits factory container.state)
    (entries : after.entries =
      container.entries ++ [(blueprint.idOf factory, blueprint.instanceFor factory)])
    (resolving : after.resolving = container.resolving) :
    Recorded after (built ++ [factory]) := by
  refine ⟨recorded.toBuilt.add handler new adds fits entries resolving, ?_, ?_⟩
  · have handled : handles (blueprint.instanceFor factory).kind = true := handler
    rw [entries, List.filter_append, recorded.ordered, List.map_append]
    simp [handled]
  · intro other other_mem
    rw [adds.functions]
    split
    · next same => rw [Fin.ext same]
    · next different =>
        rcases List.mem_append.mp other_mem with before | added
        · exact recorded.names other before
        · exact absurd (congrArg Fin.val (List.mem_singleton.mp added)).symm different

theorem recorded_of_handler (recorded : Recorded container built)
    (handler : blueprint.IsHandler factory) :
    ∃ later : List blueprint.Factory, Recorded
      (blueprint.catalogue.run (blueprint.instanceOf factory) container).2 later := by
  rcases done : blueprint.catalogue.run (blueprint.instanceOf factory) container with
    ⟨outcome, after⟩
  have resolving : after.resolving = container.resolving :=
    Catalogue.resolving_of_run blueprint.listed done
  rcases recorded.handler_cases handler done with
    ⟨entries, steady, _⟩ | ⟨_, new, adds, fits, entries⟩
  · have quiet : blueprint.Quiet container := recorded.idle
    refine ⟨built, recorded.of_steady entries (quiet.congr resolving) steady, ?_, ?_⟩
    · rw [entries]
      exact recorded.ordered
    · rw [steady.functions]
      exact recorded.names
  · exact ⟨_, recorded.add handler new adds fits entries resolving⟩

/-- Whatever is requested, the functions stay recorded. -/
theorem lasting_recorded :
    blueprint.Lasting fun container =>
      ∃ built : List blueprint.Factory, Recorded container built where
  light := by
    rintro before after ⟨built, recorded⟩ entries quiet steady
    refine ⟨built, recorded.of_steady entries quiet steady, ?_, ?_⟩
    · rw [entries]
      exact recorded.ordered
    · rw [steady.functions]
      exact recorded.names
  handler := by
    rintro factory container ⟨built, recorded⟩ handler
    exact recorded_of_handler recorded handler
  step := by
    rintro own container state ⟨built, recorded⟩ notHandler footprint
    refine ⟨built, recorded.aside (footprint.aside notHandler), recorded.ordered, ?_⟩
    intro factory factory_mem
    rw [footprint.names (Bool.not_eq_true _ ▸ notHandler)]
    exact recorded.names factory factory_mem
  keep := by
    rintro own inner ⟨built, recorded⟩ notHandler
    refine ⟨built, recorded.toBuilt.kept notHandler, ?_, recorded.names⟩
    have notHandled : handles (blueprint.instanceFor own).kind = false :=
      Bool.not_eq_true _ ▸ notHandler
    simp [kept, List.filter_append, recorded.ordered, notHandled]

theorem recorded_new (journal : Journal) :
    ∃ built : List blueprint.Factory,
      Recorded (Backend.new blueprint.configuration journal).container built := by
  have empty : blueprint.Built (Backend.holding blueprint journal []).container [] := built_holding
  exact ⟨[], empty, rfl, fun _ => nofun⟩

/-- What is built does not depend on who provides the auth resource. -/
theorem Recorded.withProviders (recorded : Recorded container built)
    (providers : OrderedMap String Nat) :
    Recorded { container with state := { container.state with providers } } built :=
  ⟨⟨recorded.entries, recorded.stored, recorded.handlers, recorded.idle, recorded.keys,
    recorded.stack, recorded.distinct, recorded.identifier, recorded.listed⟩, recorded.ordered,
    recorded.names⟩

theorem recorded_of_operated {backend : Backend} (operated : backend.Operated blueprint) :
    ∃ built : List blueprint.Factory, Recorded backend.container built :=
  lasting_recorded.of_operated recorded_new
    (fun ⟨built, recorded⟩ providers => ⟨built, recorded.withProviders providers⟩) operated

theorem Occurs.recorded (occurs : blueprint.Occurs container) :
    ∃ built : List blueprint.Factory, Recorded container built :=
  lasting_recorded.of_occurs recorded_new
    (fun ⟨built, recorded⟩ providers => ⟨built, recorded.withProviders providers⟩) occurs

/-! ## Three records of one list -/

theorem name_freshFunction (defined : blueprint.definition factory = .function settings site) :
    (blueprint.freshFunction factory).map BuiltFunction.name = blueprint.listedName factory := by
  simp only [freshFunction, listedName, defined]
  cases settings.resolve site with
  | ok resolved => simp [Except.toOption, BuiltFunction.name_ofResolved]
  | error fault => rfl

/-- The entries of functions name what the outputs list. -/
theorem Recorded.functionNames_eq (recorded : Recorded container built) :
    functionNames container = built.filterMap blueprint.listedName := by
  have named : functionNames container =
      (container.entries.filter fun entry => handles entry.2.kind).filterMap fun entry =>
        if entry.2.kind = .function then
          (container.state.functions.find? entry.2.factory).map BuiltFunction.name
        else none := by
    rw [List.filterMap_filter]
    apply List.filterMap_congr
    intro entry _
    by_cases isFunction : entry.2.kind = .function
    · simp [isFunction, handles]
    · simp [isFunction]
  rw [named, recorded.ordered, List.filterMap_map]
  apply List.filterMap_congr
  intro factory factory_mem
  have name := recorded.names factory factory_mem
  rcases isHandler_cases (recorded.handlers factory factory_mem) with
    ⟨settings, site, defined⟩ | ⟨name, defined⟩
  · rw [name_freshFunction defined] at name
    simpa [instanceFor, kindOf, defined, Definition.kind] using name
  · simp [instanceFor, kindOf, listedName, defined, Definition.kind]

/-- One of the resources of a function is a function. -/
theorem logicalIds_registrationsOf (factory : blueprint.Factory) :
    ((blueprint.registrationsOf factory).filter (·.resourceType = functionResourceType)).map
      (·.logicalId) = ((blueprint.listedName factory).map (· ++ "lambda")).toList := by
  cases named : blueprint.listedName factory with
  | some name =>
      rcases listedName_eq_some_iff.mp named with ⟨resolved, defines, rfl⟩
      rw [defines.registrationsOf_eq]
      unfold ResolvedFunction.registrations
      split <;> simp [functionResourceType, List.filter_map]
  | none =>
      have empty : blueprint.registrationsOf factory = [] := by
        rw [← List.map_eq_nil_iff, List.eq_nil_iff_forall_not_mem]
        intro logicalId there
        rcases exists_defines_of_mem there with ⟨resolved, defines⟩
        rw [listedName_eq_some_iff.mpr ⟨resolved, defines, rfl⟩] at named
        cases named
      simp [empty]

theorem Recorded.logicalIds_eq (recorded : Recorded container built) :
    (container.state.stackSet.stackFor ResourceKind.function.group).logicalIdsOf
        functionResourceType =
      (functionNames container).map (· ++ "lambda") := by
  rw [Stack.logicalIdsOf, recorded.stack, recorded.functionNames_eq, List.map_filterMap,
    List.filterMap_eq_flatMap_toList, List.filter_flatMap, List.map_flatMap]
  exact congrArg (List.flatMap · built) (funext logicalIds_registrationsOf)

theorem Recorded.nodup_functionNames (recorded : Recorded container built) :
    (functionNames container).Nodup := by
  have distinct := recorded.distinct
  change (built.flatMap fun factory => (blueprint.registrationsOf factory).map _).Nodup at distinct
  rw [← List.map_flatMap] at distinct
  have lambdas : ((container.state.stackSet.stackFor ResourceKind.function.group).logicalIdsOf
      functionResourceType).Nodup := by
    rw [Stack.logicalIdsOf, recorded.stack]
    exact distinct.sublist (List.filter_sublist.map _)
  rw [recorded.logicalIds_eq] at lambdas
  exact lambdas.of_map _

/-- A backend with two functions of one name, and another one. -/
def namesakes : Blueprint where
  configuration := .default
  siteCheck := none
  nameCheck := some .standard
  definitions :=
    [.function { FunctionSettings.default with name := some "reader" } ⟨"reader.rs", 1, 1⟩,
     .function { FunctionSettings.default with name := some "reader" } ⟨"other.rs", 1, 1⟩,
     .function { FunctionSettings.default with name := some "lambda", schedule := ["every day"] }
      ⟨"lambda.rs", 1, 1⟩]
  names := OrderedMap.ofList [("reader", 0), ("other", 1), ("lambda", 2)]

/-- The backend of it on which two functions of one name and another one have been requested. -/
def requestedNamesakes : Backend :=
  (((Backend.new namesakes.configuration .empty).getInstance namesakes ⟨0, by decide⟩).2.getInstance
    namesakes ⟨1, by decide⟩).2.getInstance namesakes ⟨2, by decide⟩ |>.2

theorem operated_requestedNamesakes : requestedNamesakes.Operated namesakes :=
  .getInstance (.getInstance (.getInstance (.new .empty) _) _) _

/-- The list in the outputs, the function resources of the stack and the entries of functions name
the same functions in the same order, each of them once. -/
theorem functionNames_agree (occurs : blueprint.Occurs container) :
    container.state.outputs.list functionOutputKey definedFunctionsField =
        functionNames container ∧
      (container.state.stackSet.stackFor ResourceKind.function.group).logicalIdsOf
          functionResourceType = (functionNames container).map (· ++ "lambda") ∧
      (functionNames container).Nodup := by
  rcases occurs.recorded with ⟨built, recorded⟩
  exact ⟨recorded.listed.trans recorded.functionNames_eq.symm, recorded.logicalIds_eq,
    recorded.nodup_functionNames⟩

theorem functionNames_agree_namesakes :
    namesakes.Occurs requestedNamesakes.container ∧
      functionNames requestedNamesakes.container = ["reader", "lambda"] ∧
      requestedNamesakes.assembly.outputs.list functionOutputKey definedFunctionsField =
          functionNames requestedNamesakes.container ∧
        (requestedNamesakes.assembly.stackSet.stackFor ResourceKind.function.group).logicalIdsOf
            functionResourceType =
          (functionNames requestedNamesakes.container).map (· ++ "lambda") ∧
        (functionNames requestedNamesakes.container).Nodup :=
  have occurs := Occurs.operated operated_requestedNamesakes
  ⟨occurs, by decide +kernel, functionNames_agree occurs⟩

end Recorded

/-! ## Requests for functions -/

section Requested

variable {container after : BackendContainer} {built : List blueprint.Factory}
  {factory : blueprint.Factory} {settings : FunctionSettings} {site : DefinitionSite}

theorem isHandler_of_function (defined : blueprint.definition factory = .function settings site) :
    blueprint.IsHandler factory := by
  unfold IsHandler kindOf
  rw [defined]
  rfl

/-- A function passes its check if its settings can be resolved and its name is accepted. -/
theorem verdict_eq_ok_iff (defined : blueprint.definition factory = .function settings site)
    (container : BackendContainer) :
    blueprint.verdict (blueprint.definition factory) = .ok () ↔
      ∃ resolved, settings.resolve site = .ok resolved ∧
        ∀ check, blueprint.nameCheck = some check →
          (check.validate resolved.name container.state.journal).1 = .ok () := by
  rcases blueprint.run_checkDefinition (blueprint.definition factory) container with
    ⟨journal, checked⟩
  rw [defined] at checked ⊢
  cases resolves : settings.resolve site with
  | error fault =>
      simp only [checkDefinition, resolves, Catalogue.run_throw, Prod.mk.injEq] at checked
      rw [← checked.1]
      simp
  | ok resolved =>
      simp only [checkDefinition, resolves, Catalogue.run_act, Prod.mk.injEq] at checked
      rw [← checked.1]
      unfold checkName
      cases blueprint.nameCheck with
      | none => simp
      | some check => simp

theorem Recorded.fits_iff (recorded : Recorded container built) {resolved : ResolvedFunction}
    (defines : blueprint.Defines factory resolved) :
    Fits factory container.state ↔ resolved.name ∉ functionNames container := by
  have ids : blueprint.logicalIdsOf factory = resolved.registrations.map (·.logicalId) := by
    rw [logicalIdsOf, defines.registrationsOf_eq]
  have role : ∀ resolved : ResolvedFunction,
      resolved.roleName ∈ resolved.registrations.map (·.logicalId) := fun _ => List.mem_cons_self
  rw [recorded.functionNames_eq]
  constructor
  · intro fits there
    rcases List.mem_filterMap.mp there with ⟨other, other_mem, named⟩
    rcases listedName_eq_some_iff.mp named with ⟨otherResolved, otherDefines, sameName⟩
    have sameRole : otherResolved.roleName = resolved.roleName := by
      rw [ResolvedFunction.roleName, ResolvedFunction.roleName, sameName]
    refine fits.disjoint ?_ (ids ▸ role resolved)
    rw [recorded.stack, List.map_flatMap, List.mem_flatMap, ← sameRole]
    exact ⟨other, other_mem, otherDefines.registrationsOf_eq ▸ role otherResolved⟩
  · intro free
    refine ⟨ids ▸ resolved.nodup_logicalIds, ?_⟩
    intro logicalId there colliding
    rcases recorded.exists_of_collision there (ids ▸ colliding) with
      ⟨other, other_mem, otherResolved, otherDefines, sameRole⟩
    apply free
    have sameName : otherResolved.name = resolved.name := (String.append_left_inj _).mp sameRole
    exact List.mem_filterMap.mpr
      ⟨other, other_mem, listedName_eq_some_iff.mpr ⟨otherResolved, otherDefines, sameName⟩⟩

/-- A function that is not built yet can be built if its check passes and its name is free. -/
theorem Recorded.answered_iff (recorded : Recorded container built)
    (defined : blueprint.definition factory = .function settings site) (new : factory ∉ built)
    {outcome : Except BackendError Instance}
    (done : blueprint.catalogue.run (blueprint.instanceOf factory) container = (outcome, after)) :
    (∃ found, outcome = .ok found) ↔ ∃ resolved, settings.resolve site = .ok resolved ∧
      (∀ check, blueprint.nameCheck = some check →
        (check.validate resolved.name container.state.journal).1 = .ok ()) ∧
      resolved.name ∉ functionNames container := by
  have handler := isHandler_of_function defined
  constructor
  · rintro ⟨found, rfl⟩
    rcases recorded.handler_cases handler done with ⟨_, _, there⟩ | ⟨_, _, _, fits, _⟩
    · exact absurd (there found rfl) new
    · rcases (run_instanceOf_eq_ok blueprint).mp done with ⟨valid, _⟩
      rcases (verdict_eq_ok_iff defined container).mp valid with ⟨resolved, resolves, accepted⟩
      exact ⟨resolved, resolves, accepted,
        (recorded.fits_iff ⟨settings, site, defined, resolves⟩).mp fits⟩
  · rintro ⟨resolved, resolves, accepted, free⟩
    have valid := (verdict_eq_ok_iff defined container).mpr ⟨resolved, resolves, accepted⟩
    have fits := (recorded.fits_iff ⟨settings, site, defined, resolves⟩).mpr free
    rcases blueprint.run_checkDefinition (blueprint.definition factory) container with
      ⟨journal, checked⟩
    rw [valid] at checked
    rcases (recorded.withJournal journal).exists_resolve handler new valid
      ⟨fits.distinct, fits.disjoint⟩ with ⟨later, answered⟩
    have succeeded := (run_instanceOf_eq_ok blueprint).mpr ⟨valid, journal, checked, answered⟩
    rw [done] at succeeded
    exact ⟨_, congrArg Prod.fst succeeded⟩

/-- A function that is not built yet can be built exactly if its settings can be resolved, its name
is accepted and no function that is built has the name. Then its resources are registered after
those that there are; otherwise the function stack, the outputs and the functions stay the same.
Resources of functions with different names never collide. -/
theorem requested_function (occurs : blueprint.Occurs container)
    (defined : blueprint.definition factory = .function settings site)
    (absent : container.contains (blueprint.idOf factory) = false)
    {outcome : Except BackendError Instance}
    (done : blueprint.catalogue.run (blueprint.instanceOf factory) container = (outcome, after)) :
    ((∃ found, outcome = .ok found) ↔ ∃ resolved, settings.resolve site = .ok resolved ∧
        (∀ check, blueprint.nameCheck = some check →
          (check.validate resolved.name container.state.journal).1 = .ok ()) ∧
        resolved.name ∉ functionNames container) ∧
      (∀ found, outcome = .ok found → ∃ resolved, settings.resolve site = .ok resolved ∧
        after.state.stackSet.stackFor ResourceKind.function.group =
          { container.state.stackSet.stackFor ResourceKind.function.group with
            resources :=
              (container.state.stackSet.stackFor ResourceKind.function.group).resources ++
              [⟨resolved.name ++ "lambdaServiceRole", "AWS::IAM::Role"⟩,
                ⟨resolved.name ++ "lambda", functionResourceType⟩] ++
              (List.range resolved.schedules.length).map (fun index =>
                ⟨resolved.name ++ "schedule" ++ toString index, "AWS::Events::Rule"⟩) ++
              (if resolved.logging.retention.isSome then
                [⟨resolved.name ++ "LogRetention", "Custom::LogRetention"⟩] else []) }) ∧
      (∀ failure, outcome = .error failure →
        after.state.stackSet.stackFor ResourceKind.function.group =
            container.state.stackSet.stackFor ResourceKind.function.group ∧
          after.state.outputs = container.state.outputs ∧
          after.state.functions = container.state.functions) ∧
      ∀ first second : ResolvedFunction, first.name ≠ second.name →
        (first.registrations.map (·.logicalId)).Disjoint
          (second.registrations.map (·.logicalId)) := by
  rcases occurs.recorded with ⟨built, recorded⟩
  have handler := isHandler_of_function defined
  have new : factory ∉ built := by
    intro there
    rw [Container.contains, (recorded.stored factory handler).mp there] at absent
    cases absent
  have cases := recorded.handler_cases handler done
  refine ⟨recorded.answered_iff defined new done, ?registers, ?unchanged, ?distinct⟩
  case registers =>
    rintro found rfl
    rcases cases with ⟨_, _, there⟩ | ⟨_, _, adds, _⟩
    · exact absurd (there found rfl) new
    · rcases (run_instanceOf_eq_ok blueprint).mp done with ⟨valid, _⟩
      rcases (verdict_eq_ok_iff defined container).mp valid with ⟨resolved, resolves, _⟩
      have defines : blueprint.Defines factory resolved := ⟨settings, site, defined, resolves⟩
      refine ⟨resolved, resolves, ?_⟩
      rw [adds.stack, defines.registrationsOf_eq, ResolvedFunction.registrations]
      simp only [ResolvedFunction.roleName, List.append_assoc]
  case unchanged =>
    rintro failure rfl
    rcases cases with ⟨_, steady, _⟩ | ⟨other, _⟩
    · exact ⟨steady.stackFor _, steady.outputs, steady.functions⟩
    · cases other
  case distinct =>
    intro first second different logicalId inFirst inSecond
    exact different
      ((String.append_left_inj _).mp (ResolvedFunction.roleName_eq_of_collision inFirst inSecond))

/-- The name of the second function is taken. -/
theorem requested_function_namesakes :
    namesakes.Occurs requestedNamesakes.container ∧
      requestedNamesakes.container.contains (namesakes.idOf ⟨1, by decide⟩) = false ∧
      "reader" ∈ functionNames requestedNamesakes.container ∧
      (requestedNamesakes.getInstance namesakes ⟨1, by decide⟩).1.toOption = none ∧
      ∀ failure, (requestedNamesakes.getInstance namesakes ⟨1, by decide⟩).1 = .error failure →
        (requestedNamesakes.getInstance namesakes ⟨1, by decide⟩).2.assembly.stackSet.stackFor
              ResourceKind.function.group =
            requestedNamesakes.assembly.stackSet.stackFor ResourceKind.function.group ∧
          (requestedNamesakes.getInstance namesakes ⟨1, by decide⟩).2.assembly.outputs =
            requestedNamesakes.assembly.outputs ∧
          (requestedNamesakes.getInstance namesakes ⟨1, by decide⟩).2.assembly.functions =
            requestedNamesakes.assembly.functions :=
  have occurs := Occurs.operated operated_requestedNamesakes
  have absent : requestedNamesakes.container.contains (namesakes.idOf ⟨1, by decide⟩) = false := by
    decide +kernel
  ⟨occurs, absent, by decide +kernel, by decide +kernel,
    (requested_function occurs rfl absent rfl).2.2.1⟩

end Requested

end Blueprint

end CloudSynth
