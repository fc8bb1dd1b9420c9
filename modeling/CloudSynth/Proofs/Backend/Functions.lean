import Mathlib.Data.List.Nodup
import CloudSynth.Backend.Synthesis
import CloudSynth.Proofs.Backend.Stacks
import CloudSynth.Proofs.Container.Evaluation

/-!
# Functions of a backend

A function is built when it is first asked for, so which functions a backend has, and in which
order, depends on who asked. `Blueprint.Built` says what a container with given functions looks
like: their resources fill the function stack and their names the list in the outputs, in the order
in which they were built, and nothing else depends on that order. `Blueprint.Agrees` relates states
that differ in nothing but which functions are built: a function that is not built counts as the one
that would be (`Blueprint.functionIn`).

Asking for a function that can be built adds it at the end and leads to a state that agrees with the
one before (`Blueprint.Built.resolve_eq_ok`). It can be built as soon as its resources do not
collide with those of the functions there are (`Blueprint.Built.exists_resolve`).
-/

namespace CloudSynth

/-- The container of a backend. -/
abbrev BackendContainer := Container Assembly Instance

namespace Blueprint

variable (blueprint : Blueprint)

theorem listed (factory : blueprint.Factory) :
    (blueprint.catalogue.generator factory).id ∈ blueprint.catalogue.ids :=
  List.mem_map.mpr ⟨factory, List.mem_range.mpr factory.isLt, rfl⟩

/-- The identity under which the entry of a factory is kept. -/
def idOf (factory : blueprint.Factory) : GeneratorId := ⟨factory⟩

/-- The kind of resource that a factory builds. -/
def kindOf (factory : blueprint.Factory) : ResourceKind := (blueprint.definition factory).kind

/-- The factory builds a function or a stub. -/
def IsHandler (factory : blueprint.Factory) : Prop := handles (blueprint.kindOf factory) = true

instance (factory : blueprint.Factory) : Decidable (blueprint.IsHandler factory) :=
  inferInstanceAs (Decidable (_ = true))

/-- The entry that is kept for a factory. -/
def instanceFor (factory : blueprint.Factory) : Instance := ⟨blueprint.kindOf factory, factory⟩

/-! ## Checks -/

/-- The container with another journal. -/
def withJournal (container : BackendContainer) (journal : Journal) : BackendContainer :=
  { container with state := { container.state with journal } }

/-- What a backend has built at first. -/
def initial (journal : Journal) : Assembly :=
  .new blueprint.configuration.identifier blueprint.configuration.region
    blueprint.configuration.account journal

/-- Whether a definition passes its checks; this does not depend on what is built. -/
def verdict (definition : Definition) : Except BackendError Unit :=
  (blueprint.catalogue.run (blueprint.checkDefinition definition)
    (.new (blueprint.initial .empty))).1

theorem exists_checkSite (site : DefinitionSite) (expected message : String) :
    ∃ outcome, ∀ assembly, ∃ journal, blueprint.checkSite site expected message assembly =
      (outcome, { assembly with journal }) := by
  unfold checkSite
  rcases blueprint.siteCheck with _ | _ | _
  · exact ⟨.ok (), fun assembly => ⟨assembly.journal, rfl⟩⟩
  · exact ⟨site.verify expected message, fun assembly => ⟨assembly.journal, rfl⟩⟩
  · exact ⟨.ok (), fun assembly => ⟨_, rfl⟩⟩

theorem exists_checkName (name : Option String) :
    ∃ outcome, ∀ assembly, ∃ journal, blueprint.checkName name assembly =
      (outcome, { assembly with journal }) := by
  unfold checkName
  rcases blueprint.nameCheck with _ | _ | _ | _
  · exact ⟨.ok (), fun assembly => ⟨assembly.journal, rfl⟩⟩
  all_goals rcases name with _ | name
  · exact ⟨.ok (), fun assembly => ⟨assembly.journal, rfl⟩⟩
  · exact ⟨ResourceName.validate name, fun assembly => ⟨assembly.journal, rfl⟩⟩
  · exact ⟨.ok (), fun assembly => ⟨assembly.journal, rfl⟩⟩
  · exact ⟨.ok (), fun assembly => ⟨_, rfl⟩⟩
  · exact ⟨.ok (), fun assembly => ⟨assembly.journal, rfl⟩⟩
  · exact ⟨_, fun assembly => ⟨_, rfl⟩⟩

theorem exists_run_checks (site : DefinitionSite) (expected message : String)
    (name : Option String) :
    ∃ outcome, ∀ container, ∃ journal,
      blueprint.catalogue.run (do
        Program.act (blueprint.checkSite site expected message)
        Program.act (blueprint.checkName name)) container =
      (outcome, withJournal container journal) := by
  rcases blueprint.exists_checkSite site expected message with ⟨failure | _, ofSite⟩
  · refine ⟨.error failure, fun container => ?_⟩
    rcases ofSite container.state with ⟨journal, checked⟩
    refine ⟨journal, ?_⟩
    rw [Catalogue.run_bind blueprint.listed, Catalogue.run_act, checked]
    rfl
  · rcases blueprint.exists_checkName name with ⟨outcome, ofName⟩
    refine ⟨outcome, fun container => ?_⟩
    rcases ofSite container.state with ⟨journal, checked⟩
    rcases ofName { container.state with journal } with ⟨later, named⟩
    refine ⟨later, ?_⟩
    rw [Catalogue.run_bind blueprint.listed, Catalogue.run_act, checked]
    simp only [Catalogue.run_act, named]
    rfl

/-- A check notes something in the journal at most, and its outcome is the verdict. -/
theorem run_checkDefinition (definition : Definition) (container : BackendContainer) :
    ∃ journal, blueprint.catalogue.run (blueprint.checkDefinition definition) container =
      (blueprint.verdict definition, withJournal container journal) := by
  have reported : ∃ outcome, ∀ container, ∃ journal,
      blueprint.catalogue.run (blueprint.checkDefinition definition) container =
        (outcome, withJournal container journal) := by
    cases definition with
    | function settings site =>
        simp only [checkDefinition]
        cases settings.resolve site with
        | error fault =>
            exact ⟨.error fault.toError, fun container => ⟨container.state.journal, rfl⟩⟩
        | ok resolved =>
            rcases blueprint.exists_checkName (some resolved.name) with ⟨outcome, ofName⟩
            refine ⟨outcome, fun container => ?_⟩
            rcases ofName container.state with ⟨journal, named⟩
            refine ⟨journal, ?_⟩
            simp only [Catalogue.run_act, named]
            rfl
    | stub name => exact ⟨.ok (), fun container => ⟨container.state.journal, rfl⟩⟩
    | auth settings site => exact blueprint.exists_run_checks site _ _ settings.name
    | data settings site => exact blueprint.exists_run_checks site _ _ settings.name
  rcases reported with ⟨outcome, reported⟩
  rcases reported (.new (blueprint.initial .empty)) with ⟨_, atFirst⟩
  rcases reported container with ⟨journal, now⟩
  refine ⟨journal, ?_⟩
  rw [verdict, atFirst, now]

theorem run_instanceOf_eq_ok {factory : blueprint.Factory} {before after : BackendContainer}
    {found : Instance} :
    blueprint.catalogue.run (blueprint.instanceOf factory) before = (.ok found, after) ↔
      blueprint.verdict (blueprint.definition factory) = .ok () ∧
        ∃ journal, blueprint.catalogue.run
            (blueprint.checkDefinition (blueprint.definition factory)) before =
              (.ok (), withJournal before journal) ∧
          blueprint.catalogue.resolve factory (withJournal before journal) =
            (.ok found, after) := by
  rcases blueprint.run_checkDefinition (blueprint.definition factory) before with ⟨journal, checked⟩
  rw [instanceOf, Catalogue.run_bind_eq_ok blueprint.listed, checked]
  constructor
  · rintro ⟨_, between, same, requested⟩
    rcases Prod.mk.injEq .. ▸ same with ⟨passed, rfl⟩
    rw [passed]
    exact ⟨rfl, journal, rfl, requested⟩
  · rintro ⟨passed, _, same, requested⟩
    rcases Prod.mk.injEq .. ▸ same with ⟨_, left⟩
    rw [left, passed]
    exact ⟨(), _, rfl, requested⟩

/-! ## Functions, whether they are built or not -/

/-- The stack of functions at first. -/
def functionStack : Stack :=
  (blueprint.initial .empty).stackSet.newStack ResourceKind.function.group

/-- The function as it has just been built, if the factory builds one. -/
def freshFunction (factory : blueprint.Factory) : Option BuiltFunction :=
  match blueprint.definition factory with
  | .function settings site =>
    (settings.resolve site).toOption.map
      (.ofResolved blueprint.functionStack blueprint.configuration.identifier)
  | .stub name => some (.ofStub blueprint.functionStack name)
  | _ => none

/-- The function that a factory has built, or would build. -/
def functionIn (assembly : Assembly) (factory : blueprint.Factory) : Option BuiltFunction :=
  (assembly.functions.find? factory).or (blueprint.freshFunction factory)

/-- The resources that a function registers. -/
def registrationsOf (factory : blueprint.Factory) : List StackResource :=
  match blueprint.definition factory with
  | .function settings site =>
    ((settings.resolve site).toOption.map (·.registrations)).getD []
  | _ => []

/-- The logical ids of the resources that a function registers. -/
def logicalIdsOf (factory : blueprint.Factory) : List String :=
  (blueprint.registrationsOf factory).map (·.logicalId)

/-- The name under which a function is listed in the outputs; stubs are not listed. -/
def listedName (factory : blueprint.Factory) : Option String :=
  match blueprint.definition factory with
  | .function settings site => (settings.resolve site).toOption.map (·.name)
  | _ => none

/-- The container has built the functions of the factories, in this order. -/
structure Built (container : BackendContainer) (built : List blueprint.Factory) : Prop where
  entries : ∀ factory entry, container.lookup? (blueprint.idOf factory) = some entry →
    entry = blueprint.instanceFor factory
  stored : ∀ factory, blueprint.IsHandler factory →
    (factory ∈ built ↔
      container.lookup? (blueprint.idOf factory) = some (blueprint.instanceFor factory))
  handlers : ∀ factory ∈ built, blueprint.IsHandler factory
  idle : ∀ factory, blueprint.IsHandler factory →
    container.isResolving (blueprint.idOf factory) = false
  keys : container.state.functions.keys = built.map Fin.val
  stack : container.state.stackSet.stackFor ResourceKind.function.group =
    { blueprint.functionStack with resources := built.flatMap blueprint.registrationsOf }
  distinct : (built.flatMap blueprint.logicalIdsOf).Nodup
  identifier : container.state.parameters.identifier = blueprint.configuration.identifier
  listed : container.state.outputs.list functionOutputKey definedFunctionsField =
    built.filterMap blueprint.listedName

/-- The states have the same auth and data resources, outputs and parameters. -/
structure SameAssets (first second : Assembly) : Prop where
  stackFor : ∀ group, group ≠ ResourceKind.function.group →
    first.stackSet.stackFor group = second.stackSet.stackFor group
  parameters : first.parameters = second.parameters
  outputs : ∀ key, key ≠ functionOutputKey → first.outputs.find? key = second.outputs.find? key
  providers : first.providers = second.providers
  auths : first.auths = second.auths
  datas : first.datas = second.datas

/-- The states differ at most in which functions are built, and in the journal. -/
structure Agrees (first second : Assembly) : Prop extends SameAssets first second where
  functions : ∀ factory, blueprint.functionIn first factory = blueprint.functionIn second factory
  nextPolicy : first.nextPolicy = second.nextPolicy

variable {blueprint}

namespace SameAssets

variable {first second third : Assembly}

theorem refl (assembly : Assembly) : SameAssets assembly assembly :=
  ⟨fun _ _ => rfl, rfl, fun _ _ => rfl, rfl, rfl, rfl⟩

theorem symm (same : SameAssets first second) : SameAssets second first where
  stackFor group other := (same.stackFor group other).symm
  parameters := same.parameters.symm
  outputs key other := (same.outputs key other).symm
  providers := same.providers.symm
  auths := same.auths.symm
  datas := same.datas.symm

theorem trans (same : SameAssets first second) (later : SameAssets second third) :
    SameAssets first third where
  stackFor group other := (same.stackFor group other).trans (later.stackFor group other)
  parameters := same.parameters.trans later.parameters
  outputs key other := (same.outputs key other).trans (later.outputs key other)
  providers := same.providers.trans later.providers
  auths := same.auths.trans later.auths
  datas := same.datas.trans later.datas

end SameAssets

namespace Agrees

variable {first second third : Assembly}

theorem refl (assembly : Assembly) : blueprint.Agrees assembly assembly :=
  ⟨.refl assembly, fun _ => rfl, rfl⟩

theorem symm (agrees : blueprint.Agrees first second) : blueprint.Agrees second first :=
  ⟨agrees.toSameAssets.symm, fun factory => (agrees.functions factory).symm,
    agrees.nextPolicy.symm⟩

theorem trans (agrees : blueprint.Agrees first second) (later : blueprint.Agrees second third) :
    blueprint.Agrees first third :=
  ⟨agrees.toSameAssets.trans later.toSameAssets,
    fun factory => (agrees.functions factory).trans (later.functions factory),
    agrees.nextPolicy.trans later.nextPolicy⟩

end Agrees

/-! ## Building a function -/

/-- The state has one more function, at the end. -/
structure Adds (factory : blueprint.Factory) (before after : Assembly) : Prop where
  keys : after.functions.keys = before.functions.keys ++ [factory.val]
  functions : ∀ other, after.functions.find? other =
    if factory.val = other then blueprint.freshFunction factory else before.functions.find? other
  stack : after.stackSet.stackFor ResourceKind.function.group =
    { before.stackSet.stackFor ResourceKind.function.group with
      resources := (before.stackSet.stackFor ResourceKind.function.group).resources ++
        blueprint.registrationsOf factory }
  listed : after.outputs.list functionOutputKey definedFunctionsField =
    before.outputs.list functionOutputKey definedFunctionsField ++
      (blueprint.listedName factory).toList
  stackFor : ∀ group, group ≠ ResourceKind.function.group →
    after.stackSet.stackFor group = before.stackSet.stackFor group
  outputs : ∀ key, key ≠ functionOutputKey → after.outputs.find? key = before.outputs.find? key
  parameters : after.parameters = before.parameters
  providers : after.providers = before.providers
  auths : after.auths = before.auths
  datas : after.datas = before.datas
  nextPolicy : after.nextPolicy = before.nextPolicy

theorem Adds.agrees {factory : blueprint.Factory} {before after : Assembly}
    (adds : Adds factory before after) (new : before.functions.find? factory = none) :
    blueprint.Agrees before after where
  stackFor group other := (adds.stackFor group other).symm
  parameters := adds.parameters.symm
  outputs key other := (adds.outputs key other).symm
  providers := adds.providers.symm
  functions other := by
    simp only [functionIn, adds.functions]
    by_cases same : factory = other
    · subst same
      simp [new]
    · rw [if_neg fun equal => same (Fin.ext equal)]
  auths := adds.auths.symm
  datas := adds.datas.symm
  nextPolicy := adds.nextPolicy.symm

/-- The state has room for the resources of a function that it does not have. -/
structure Fits (factory : blueprint.Factory) (assembly : Assembly) : Prop where
  distinct : (blueprint.logicalIdsOf factory).Nodup
  disjoint : ((assembly.stackSet.stackFor ResourceKind.function.group).resources.map
    (·.logicalId)).Disjoint (blueprint.logicalIdsOf factory)

/-- The function stack of the state is that of the configuration, and so is the identifier. -/
structure Grounded (blueprint : Blueprint) (assembly : Assembly) : Prop where
  stack : ∃ resources, assembly.stackSet.stackFor ResourceKind.function.group =
    { blueprint.functionStack with resources }
  identifier : assembly.parameters.identifier = blueprint.configuration.identifier

section Building

variable {factory : blueprint.Factory} {before after : Assembly} {found : Instance}
  {settings : FunctionSettings} {site : DefinitionSite} {resolved : ResolvedFunction}

theorem adds_buildFunction
    (defined : blueprint.definition factory = .function settings site)
    (passes : settings.resolve site = .ok resolved) (grounded : Grounded blueprint before)
    (new : factory.val ∉ before.functions.keys)
    (done : before.buildFunction factory resolved = (.ok found, after)) :
    found = ⟨.function, factory⟩ ∧ Adds factory before after ∧ Fits factory before := by
  have registrations : blueprint.registrationsOf factory = resolved.registrations := by
    simp [registrationsOf, defined, passes, Except.toOption]
  rcases grounded.stack with ⟨resources, stack⟩
  simp only [Assembly.buildFunction] at done
  rcases registered : (before.stackSet.stackFor ResourceKind.function.group).addAll
    resolved.registrations with ⟨_ | _, extended⟩
  · rw [registered] at done
    cases done
  · rw [registered] at done
    rw [Stack.addAll_eq_ok, ← registrations] at registered
    rcases registered with ⟨rfl, distinct, disjoint⟩
    cases done
    refine ⟨rfl, ?_, ⟨distinct, disjoint⟩⟩
    exact {
      keys := by rw [OrderedMap.keys_insert, if_neg new]
      functions := by
        intro other
        rw [OrderedMap.find?_insert, stack, grounded.identifier]
        simp only [freshFunction, defined, passes]
        rfl
      stack := StackSet.stackFor_put_self _ _ _
      listed := by
        rw [OutputStorage.list_append_ofFields]
        simp [listedName, defined, passes, Except.toOption]
      stackFor := fun group other => by rw [StackSet.stackFor_put, if_neg other.symm]
      outputs := fun key other => OutputStorage.find?_append_of_ne _ _ _ _ other.symm
      parameters := rfl
      providers := rfl
      auths := rfl
      datas := rfl
      nextPolicy := rfl }

theorem exists_buildFunction
    (defined : blueprint.definition factory = .function settings site)
    (passes : settings.resolve site = .ok resolved) (fits : Fits factory before) :
    ∃ after, before.buildFunction factory resolved = (.ok ⟨.function, factory⟩, after) := by
  have registrations : blueprint.registrationsOf factory = resolved.registrations := by
    simp [registrationsOf, defined, passes, Except.toOption]
  have registered := Stack.addAll_eq_ok.mpr ⟨rfl, fits.distinct, fits.disjoint⟩
  rw [registrations] at registered
  simp only [Assembly.buildFunction]
  rw [registered]
  exact ⟨_, rfl⟩

theorem adds_buildStub {name : String} (defined : blueprint.definition factory = .stub name)
    (grounded : Grounded blueprint before) (new : factory.val ∉ before.functions.keys) :
    Adds factory before (before.buildStub factory name).2 := by
  rcases grounded.stack with ⟨resources, stack⟩
  have registrations : blueprint.registrationsOf factory = [] := by
    simp [registrationsOf, defined]
  exact {
    keys := by
      change (before.functions.insert _ _).keys = _
      rw [OrderedMap.keys_insert, if_neg new]
    functions := by
      intro other
      have stub : ResourceKind.stub.group = ResourceKind.function.group := rfl
      change (before.functions.insert _ _).find? other = _
      rw [OrderedMap.find?_insert, stub, stack]
      simp only [freshFunction, defined]
      rfl
    stack := by rw [registrations, List.append_nil]; rfl
    listed := by simp [listedName, defined, Assembly.buildStub]
    stackFor := fun _ _ => rfl
    outputs := fun _ _ => rfl
    parameters := rfl
    providers := rfl
    auths := rfl
    datas := rfl
    nextPolicy := rfl }

theorem exists_resolve_of_verdict
    (defined : blueprint.definition factory = .function settings site)
    (valid : blueprint.verdict (blueprint.definition factory) = .ok ()) :
    ∃ resolved, settings.resolve site = .ok resolved := by
  cases passes : settings.resolve site with
  | ok resolved => exact ⟨resolved, rfl⟩
  | error fault =>
      simp only [defined, verdict, checkDefinition, passes, Catalogue.run_throw] at valid
      cases valid

end Building

/-! ## Asking for a function -/

theorem isHandler_cases {factory : blueprint.Factory} (handler : blueprint.IsHandler factory) :
    (∃ settings site, blueprint.definition factory = .function settings site) ∨
      ∃ name, blueprint.definition factory = .stub name := by
  unfold IsHandler kindOf at handler
  cases defined : blueprint.definition factory with
  | function settings site => exact Or.inl ⟨settings, site, rfl⟩
  | stub name => exact Or.inr ⟨name, rfl⟩
  | auth settings site => simp [defined, Definition.kind, handles] at handler
  | data settings site => simp [defined, Definition.kind, handles] at handler

/-- A generator runs in a state that has the stack of its group. -/
theorem run_body (factory : blueprint.Factory) (container : BackendContainer) :
    blueprint.catalogue.run (blueprint.catalogue.generator factory).body container =
      blueprint.catalogue.run (blueprint.build factory (blueprint.definition factory))
        { container with state := { container.state with
          stackSet := container.state.stackSet.touch (blueprint.kindOf factory).group } } := rfl

theorem Adds.of_touch {factory : blueprint.Factory} {before after : Assembly} {group : String}
    (adds : Adds factory { before with stackSet := before.stackSet.touch group } after) :
    Adds factory before after where
  keys := adds.keys
  functions := adds.functions
  stack := by simpa using adds.stack
  listed := adds.listed
  stackFor other different := by simpa using adds.stackFor other different
  outputs := adds.outputs
  parameters := adds.parameters
  providers := adds.providers
  auths := adds.auths
  datas := adds.datas
  nextPolicy := adds.nextPolicy

theorem Grounded.touch {assembly : Assembly} (grounded : Grounded blueprint assembly)
    (group : String) :
    Grounded blueprint { assembly with stackSet := assembly.stackSet.touch group } where
  stack := by simpa using grounded.stack
  identifier := grounded.identifier

section Body

variable {factory : blueprint.Factory} {before after : BackendContainer} {found : Instance}

theorem adds_of_run_body (handler : blueprint.IsHandler factory)
    (grounded : Grounded blueprint before.state)
    (new : factory.val ∉ before.state.functions.keys)
    (done : blueprint.catalogue.run (blueprint.catalogue.generator factory).body before =
      (.ok found, after)) :
    found = blueprint.instanceFor factory ∧ Adds factory before.state after.state ∧
      Fits factory before.state ∧ after.entries = before.entries ∧
      after.resolving = before.resolving := by
  rw [run_body] at done
  rcases isHandler_cases handler with ⟨settings, site, defined⟩ | ⟨name, defined⟩
  · simp only [build, defined, instanceFor, kindOf] at done ⊢
    cases passes : settings.resolve site with
    | error fault =>
        simp only [passes, Catalogue.run_throw] at done
        cases done
    | ok resolved =>
        simp only [passes, Catalogue.run_act] at done
        rcases Prod.mk.injEq .. ▸ done with ⟨answered, rfl⟩
        rcases adds_buildFunction defined passes (grounded.touch _) new (Prod.ext answered rfl)
          with ⟨same, adds, fits⟩
        refine ⟨same, adds.of_touch, ?_, rfl, rfl⟩
        exact ⟨fits.distinct, by simpa using fits.disjoint⟩
  · simp only [build, defined, instanceFor, kindOf, Catalogue.run_act] at done ⊢
    rcases Prod.mk.injEq .. ▸ done with ⟨answered, rfl⟩
    refine ⟨(Except.ok.inj answered).symm, (adds_buildStub defined (grounded.touch _) new).of_touch,
      ?_, rfl, rfl⟩
    have registrations : blueprint.logicalIdsOf factory = [] := by
      simp [logicalIdsOf, registrationsOf, defined]
    constructor <;> simp [registrations]

theorem exists_run_body (handler : blueprint.IsHandler factory)
    (valid : blueprint.verdict (blueprint.definition factory) = .ok ())
    (fits : Fits factory before.state) :
    ∃ after, blueprint.catalogue.run (blueprint.catalogue.generator factory).body before =
      (.ok (blueprint.instanceFor factory), after) := by
  rw [run_body]
  rcases isHandler_cases handler with ⟨settings, site, defined⟩ | ⟨name, defined⟩
  · rcases exists_resolve_of_verdict defined valid with ⟨resolved, passes⟩
    have room : Fits factory { before.state with
        stackSet := before.state.stackSet.touch (blueprint.kindOf factory).group } :=
      ⟨fits.distinct, by simpa using fits.disjoint⟩
    rcases exists_buildFunction defined passes room with ⟨after, done⟩
    simp only [build, defined, passes, instanceFor, kindOf, Catalogue.run_act] at done ⊢
    rw [done]
    exact ⟨_, rfl⟩
  · simp only [build, defined, instanceFor, kindOf, Catalogue.run_act]
    exact ⟨_, rfl⟩

end Body

namespace Built

variable {container after : BackendContainer} {built : List blueprint.Factory}
  {factory : blueprint.Factory}

theorem grounded (self : blueprint.Built container built) :
    Grounded blueprint container.state := ⟨⟨_, self.stack⟩, self.identifier⟩

theorem nodup (self : blueprint.Built container built) : built.Nodup := by
  have distinct := container.state.functions.distinct
  change container.state.functions.keys.Nodup at distinct
  rw [self.keys] at distinct
  exact distinct.of_map _

theorem mem_keys_iff (self : blueprint.Built container built) :
    factory.val ∈ container.state.functions.keys ↔ factory ∈ built := by
  rw [self.keys]
  exact List.mem_map_of_injective fun _ _ => Fin.ext

theorem resolve_of_stored
    (stored : container.lookup? (blueprint.idOf factory) = some (blueprint.instanceFor factory)) :
    blueprint.catalogue.resolve factory container =
      (.ok (blueprint.instanceFor factory), container) := by
  have known : container.immediate? (blueprint.catalogue.generator factory) =
      some (.ok (blueprint.instanceFor factory)) := by
    rw [Container.immediate?_of_entry stored, Container.ofKind_of_admits]
    exact decide_eq_true rfl
  exact Catalogue.resolve_of_known known

theorem unknown (self : blueprint.Built container built) (handler : blueprint.IsHandler factory)
    (new : factory ∉ built) :
    container.immediate? (blueprint.catalogue.generator factory) = none := by
  rw [Container.immediate?_eq_none_iff]
  refine ⟨?_, self.idle factory handler⟩
  cases stored : container.lookup? (blueprint.catalogue.generator factory).id with
  | none => rfl
  | some entry =>
      have same := self.entries factory entry stored
      subst same
      exact absurd ((self.stored factory handler).mpr stored) new

theorem add (self : blueprint.Built container built) (handler : blueprint.IsHandler factory)
    (new : factory ∉ built) (adds : Adds factory container.state after.state)
    (fits : Fits factory container.state)
    (entries : after.entries =
      container.entries ++ [(blueprint.idOf factory, blueprint.instanceFor factory)])
    (resolving : after.resolving = container.resolving) :
    blueprint.Built after (built ++ [factory]) := by
  have lookup : ∀ id, after.lookup? id = (container.lookup? id).or
      (if blueprint.idOf factory = id then some (blueprint.instanceFor factory) else none) := by
    intro id
    have appended := Container.lookup?_append container.entries container.resolving container.state
      (blueprint.idOf factory) id (blueprint.instanceFor factory)
    rw [← entries] at appended
    exact appended
  have absent : container.lookup? (blueprint.idOf factory) = none :=
    (Container.immediate?_eq_none_iff.mp (self.unknown handler new)).1
  constructor
  case entries =>
    intro other entry stored
    rw [lookup, Option.or_eq_some_iff] at stored
    rcases stored with before | ⟨_, added⟩
    · exact self.entries other entry before
    · split at added
      · next same =>
          have equal : factory = other := Fin.ext (congrArg GeneratorId.value same)
          subst equal
          exact (Option.some.inj added).symm
      · cases added
  case stored =>
    intro other otherHandler
    rw [List.mem_append, List.mem_singleton, self.stored other otherHandler, lookup]
    by_cases same : other = factory
    · subst same
      simp [absent]
    · have different : blueprint.idOf factory ≠ blueprint.idOf other :=
        fun equal => same (Fin.ext (congrArg GeneratorId.value equal)).symm
      simp [same, different]
  case handlers =>
    intro other other_mem
    rcases List.mem_append.mp other_mem with before | added
    · exact self.handlers other before
    · rw [List.mem_singleton.mp added]
      exact handler
  case idle =>
    intro other otherHandler
    rw [Container.isResolving_congr resolving]
    exact self.idle other otherHandler
  case keys => rw [adds.keys, self.keys, List.map_append]; rfl
  case stack => rw [adds.stack, self.stack]; simp
  case distinct =>
    rw [List.flatMap_append, List.nodup_append']
    refine ⟨self.distinct, by simpa using fits.distinct, ?_⟩
    have disjoint := fits.disjoint
    rw [self.stack, List.map_flatMap] at disjoint
    rw [List.flatMap_singleton]
    exact disjoint
  case identifier => rw [adds.parameters, self.identifier]
  case listed =>
    rw [adds.listed, self.listed, List.filterMap_append]
    cases named : blueprint.listedName factory <;> simp [named]

/-- Asking for a function that is not built yet, and being answered, adds it at the end. -/
theorem resolve_adds (self : blueprint.Built container built)
    (handler : blueprint.IsHandler factory) (new : factory ∉ built) {found : Instance}
    (done : blueprint.catalogue.resolve factory container = (.ok found, after)) :
    found = blueprint.instanceFor factory ∧ Adds factory container.state after.state ∧
      Fits factory container.state ∧
      after.entries =
        container.entries ++ [(blueprint.idOf factory, blueprint.instanceFor factory)] ∧
      after.resolving = container.resolving := by
  have unknown := self.unknown handler new
  have absent := (Container.immediate?_eq_none_iff.mp unknown).1
  have idle := (Container.immediate?_eq_none_iff.mp unknown).2
  have newKey : factory.val ∉ container.state.functions.keys := fun there =>
    new (self.mem_keys_iff.mp there)
  rw [Catalogue.resolve_of_unknown blueprint.listed unknown] at done
  rcases ran : blueprint.catalogue.run (blueprint.catalogue.generator factory).body
    (container.enter (blueprint.catalogue.generator factory)) with ⟨failure | made, inner⟩
  · rw [ran, Container.settle_error] at done
    cases done
  · have grounded : Grounded blueprint
        (container.enter (blueprint.catalogue.generator factory)).state := self.grounded
    rcases adds_of_run_body handler grounded newKey ran with
      ⟨rfl, adds, fits, entries, resolving⟩
    have innerAbsent : inner.lookup? (blueprint.catalogue.generator factory).id = none := by
      unfold Container.lookup?
      rw [entries]
      exact absent
    have restored := Container.resolving_leave idle resolving
    rw [ran, Container.settle_ok innerAbsent, Container.ofKind_of_admits (decide_eq_true rfl)]
      at done
    cases done
    refine ⟨rfl, adds, fits, ?_, restored⟩
    change inner.entries ++ _ = _
    rw [entries]
    rfl

/-- The function is built then, and the states agree. -/
theorem resolve_eq_ok (self : blueprint.Built container built)
    (handler : blueprint.IsHandler factory) (new : factory ∉ built) {found : Instance}
    (done : blueprint.catalogue.resolve factory container = (.ok found, after)) :
    found = blueprint.instanceFor factory ∧ blueprint.Built after (built ++ [factory]) ∧
      blueprint.Agrees container.state after.state ∧
      ∀ id, id ≠ blueprint.idOf factory → after.lookup? id = container.lookup? id := by
  have newKey : factory.val ∉ container.state.functions.keys := fun there =>
    new (self.mem_keys_iff.mp there)
  rcases self.resolve_adds handler new done with ⟨rfl, adds, fits, entries, resolving⟩
  refine ⟨rfl, self.add handler new adds fits entries resolving,
    adds.agrees (OrderedMap.find?_eq_none newKey), ?_⟩
  intro id different
  have appended := Container.lookup?_append container.entries after.resolving after.state
    (blueprint.idOf factory) id (blueprint.instanceFor factory)
  rw [← entries, if_neg different.symm, Option.or_none] at appended
  exact appended

/-- A function whose resources do not collide with those that there are can be built. -/
theorem exists_resolve (self : blueprint.Built container built)
    (handler : blueprint.IsHandler factory) (new : factory ∉ built)
    (valid : blueprint.verdict (blueprint.definition factory) = .ok ())
    (fits : Fits factory container.state) :
    ∃ after, blueprint.catalogue.resolve factory container =
      (.ok (blueprint.instanceFor factory), after) := by
  have unknown := self.unknown handler new
  have newKey : factory.val ∉ container.state.functions.keys := fun there =>
    new (self.mem_keys_iff.mp there)
  have runs : ∃ inner, blueprint.catalogue.run (blueprint.catalogue.generator factory).body
      (container.enter (blueprint.catalogue.generator factory)) =
        (.ok (blueprint.instanceFor factory), inner) := exists_run_body handler valid fits
  rcases runs with ⟨inner, ran⟩
  have grounded : Grounded blueprint
      (container.enter (blueprint.catalogue.generator factory)).state := self.grounded
  rcases adds_of_run_body handler grounded newKey ran with ⟨_, _, _, entries, _⟩
  have innerAbsent : inner.lookup? (blueprint.catalogue.generator factory).id = none := by
    unfold Container.lookup?
    rw [entries]
    exact (Container.immediate?_eq_none_iff.mp unknown).1
  rw [Catalogue.resolve_of_unknown blueprint.listed unknown, ran, Container.settle_ok innerAbsent,
    Container.ofKind_of_admits (decide_eq_true rfl)]
  exact ⟨_, rfl⟩

end Built

end Blueprint

end CloudSynth
