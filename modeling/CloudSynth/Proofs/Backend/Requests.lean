import Mathlib.Data.List.Pairwise
import CloudSynth.Proofs.Backend.Functions

/-!
# Requests while auth or data is built

A backend has at most one auth and at most one data resource, and the data resource resolves the
auth resource before anything else. So while one of them is built, a request for either of them is
answered by an entry or cannot succeed (`Blueprint.Closed`), and a request that succeeds at all has
built at most a function (`Blueprint.Built.of_instanceOf`).
-/

namespace CloudSynth.Blueprint

variable {blueprint : Blueprint} {factory : blueprint.Factory} {container after : BackendContainer}
  {found : Instance}

/-- At most one auth resource and at most one data resource are defined. -/
structure HasSingletons (blueprint : Blueprint) : Prop where
  auth : ∀ first second, blueprint.kindOf first = .auth → blueprint.kindOf second = .auth →
    first = second
  data : ∀ first second, blueprint.kindOf first = .data → blueprint.kindOf second = .data →
    first = second

theorem kindOf_of_not_isHandler (other : ¬ blueprint.IsHandler factory) :
    blueprint.kindOf factory = .auth ∨ blueprint.kindOf factory = .data := by
  unfold IsHandler at other
  cases kind : blueprint.kindOf factory with
  | function => simp [kind, handles] at other
  | stub => simp [kind, handles] at other
  | auth => exact Or.inl rfl
  | data => exact Or.inr rfl

/-- The name of the resource that a factory grants access to. -/
def resourceName (blueprint : Blueprint) (factory : Nat) : String :=
  match blueprint.definitions[factory]? with
  | some (.auth settings _) => settings.resolvedName
  | some (.data settings _) => settings.resolvedName
  | _ => ""

theorem getElem?_definitions (factory : blueprint.Factory) :
    blueprint.definitions[factory.val]? = some (blueprint.definition factory) :=
  List.getElem?_eq_some_iff.mpr ⟨factory.isLt, rfl⟩

theorem resourceName_of_auth {settings : AuthSettings Reference} {site : DefinitionSite}
    (defined : blueprint.definition factory = .auth settings site) :
    blueprint.resourceName factory = settings.resolvedName := by
  rw [resourceName, getElem?_definitions, defined]

theorem resourceName_of_data {settings : DataSettings Reference} {site : DefinitionSite}
    (defined : blueprint.definition factory = .data settings site) :
    blueprint.resourceName factory = settings.resolvedName := by
  rw [resourceName, getElem?_definitions, defined]

/-- The factory that provides the auth resource. -/
def provider (blueprint : Blueprint) (assembly : Assembly) : Option blueprint.Factory :=
  (assembly.providers.find? authResourcesToken).bind blueprint.factoryAt?

/-- The container keeps the instance of the factory. -/
abbrev Stores (container : BackendContainer) (factory : blueprint.Factory) : Prop :=
  container.lookup? (blueprint.idOf factory) = some (blueprint.instanceFor factory)

/-! ## Requests that cannot succeed -/

/-- The generator of a factory is running, so asking for it is a cycle. -/
def Cyclic (container : BackendContainer) (factory : blueprint.Factory) : Prop :=
  container.lookup? (blueprint.idOf factory) = none ∧
    container.isResolving (blueprint.idOf factory) = true

/-- Asking for the factory cannot succeed: it is running, or it builds the data resource and the
provider of the auth resource is running. -/
def Barred (container : BackendContainer) (factory : blueprint.Factory) : Prop :=
  Cyclic container factory ∨
    blueprint.kindOf factory = .data ∧
      ∃ auth, blueprint.kindOf auth = .auth ∧ blueprint.provider container.state = some auth ∧
        Cyclic container auth

/-- Nothing but functions can be built. -/
def Closed (blueprint : Blueprint) (container : BackendContainer) : Prop :=
  ∀ factory, ¬ blueprint.IsHandler factory →
    Stores container factory ∨ Barred container factory

theorem Cyclic.not_ok (cyclic : Cyclic container factory) :
    blueprint.catalogue.run (blueprint.instanceOf factory) container ≠ (.ok found, after) := by
  intro done
  rw [run_instanceOf_eq_ok] at done
  rcases done with ⟨_, journal, _, requested⟩
  have known : (withJournal container journal).immediate? (blueprint.catalogue.generator factory) =
      some (.error _) := Container.immediate?_of_isResolving cyclic.1 cyclic.2
  rw [Catalogue.resolve_of_known known] at requested
  cases requested

theorem builtFunction_eq (number : Nat) :
    blueprint.builtFunction number = .read fun assembly =>
      match assembly.functions.find? number with
      | some built => pure built
      | none => throw (.entryTypeMismatch ResourceKind.function.group) := rfl

theorem builtAuth_eq (number : Nat) :
    blueprint.builtAuth number = .read fun assembly =>
      match assembly.auths.find? number with
      | some built => pure built
      | none => throw (.entryTypeMismatch ResourceKind.auth.group) := rfl

theorem providedAuth_eq :
    blueprint.providedAuth authResourcesToken = .read fun assembly =>
      match blueprint.provider assembly with
      | none => pure none
      | some factory => do
        let found ← blueprint.instanceOf factory
        return some (found.factory, ← blueprint.builtAuth found.factory) := rfl

theorem run_read {α : Type} (next : Assembly → blueprint.Build α) (container : BackendContainer) :
    blueprint.catalogue.run (.read next) container =
      blueprint.catalogue.run (next container.state) container := rfl

theorem run_builtFunction (number : Nat) (container : BackendContainer) :
    blueprint.catalogue.run (blueprint.builtFunction number) container =
      (match container.state.functions.find? number with
        | some built => .ok built
        | none => .error (.entryTypeMismatch ResourceKind.function.group), container) := by
  rw [builtFunction_eq, run_read]
  cases container.state.functions.find? number <;> rfl

theorem run_builtAuth (number : Nat) (container : BackendContainer) :
    blueprint.catalogue.run (blueprint.builtAuth number) container =
      (match container.state.auths.find? number with
        | some built => .ok built
        | none => .error (.entryTypeMismatch ResourceKind.auth.group), container) := by
  rw [builtAuth_eq, run_read]
  cases container.state.auths.find? number <;> rfl

theorem run_providedAuth_of_none (unprovided : blueprint.provider container.state = none) :
    blueprint.catalogue.run (blueprint.providedAuth authResourcesToken) container =
      (.ok none, container) := by
  rw [providedAuth_eq, run_read, unprovided]
  rfl

theorem run_providedAuth_of_some (provided : blueprint.provider container.state = some factory) :
    blueprint.catalogue.run (blueprint.providedAuth authResourcesToken) container =
      match blueprint.catalogue.run (blueprint.instanceOf factory) container with
      | (.error failure, after) => (.error failure, after)
      | (.ok found, after) =>
        (match after.state.auths.find? found.factory with
          | some built => .ok (some (found.factory, built))
          | none => .error (.entryTypeMismatch ResourceKind.auth.group), after) := by
  simp only [providedAuth_eq, run_read, provided, Catalogue.run_bind blueprint.listed, run_builtAuth]
  rcases blueprint.catalogue.run (blueprint.instanceOf factory) container with
    ⟨failure | found, after⟩
  · rfl
  · dsimp only
    cases after.state.auths.find? found.factory <;> rfl

theorem run_providedAuth_eq_ok {auth : Option (Nat × BuiltAuth)} :
    blueprint.catalogue.run (blueprint.providedAuth authResourcesToken) container =
        (.ok auth, after) ↔
      (blueprint.provider container.state = none ∧ auth = none ∧ after = container) ∨
        ∃ factory found built, blueprint.provider container.state = some factory ∧
          blueprint.catalogue.run (blueprint.instanceOf factory) container = (.ok found, after) ∧
          after.state.auths.find? found.factory = some built ∧
          auth = some (found.factory, built) := by
  cases provided : blueprint.provider container.state with
  | none =>
      rw [run_providedAuth_of_none provided]
      simp [eq_comm]
  | some factory =>
      rw [run_providedAuth_of_some provided]
      constructor
      · intro done
        rcases asked : blueprint.catalogue.run (blueprint.instanceOf factory) container with
          ⟨failure | found, between⟩
        · simp only [asked] at done
          cases done
        · cases stored : between.state.auths.find? found.factory with
          | none =>
              simp only [asked, stored] at done
              cases done
          | some built =>
              simp only [asked, stored] at done
              cases done
              exact Or.inr ⟨factory, found, built, rfl, asked, stored, rfl⟩
      · rintro (⟨absent, _⟩ | ⟨other, found, built, same, asked, stored, rfl⟩)
        · cases absent
        · cases same
          simp only [asked, stored]

theorem run_providedAuth_snd (container : BackendContainer) :
    (blueprint.catalogue.run (blueprint.providedAuth authResourcesToken) container).2 =
      match blueprint.provider container.state with
      | none => container
      | some factory => (blueprint.catalogue.run (blueprint.instanceOf factory) container).2 := by
  cases provided : blueprint.provider container.state with
  | none => rw [run_providedAuth_of_none provided]
  | some factory =>
      rw [run_providedAuth_of_some provided]
      dsimp only
      rcases blueprint.catalogue.run (blueprint.instanceOf factory) container with
        ⟨failure | found, after⟩ <;> rfl

/-- The body of the data resource begins with the auth resource of the backend. -/
theorem exists_providedAuth_of_body (data : blueprint.kindOf factory = .data)
    (done : blueprint.catalogue.run (blueprint.catalogue.generator factory).body container =
      (.ok found, after)) :
    ∃ auth between, blueprint.catalogue.run (blueprint.providedAuth authResourcesToken)
      { container with state := { container.state with
        stackSet := container.state.stackSet.touch (blueprint.kindOf factory).group } } =
          (.ok auth, between) := by
  rw [run_body] at done
  unfold kindOf at data done ⊢
  cases defined : blueprint.definition factory with
  | function settings site => simp [defined, Definition.kind] at data
  | stub name => simp [defined, Definition.kind] at data
  | auth settings site => simp [defined, Definition.kind] at data
  | data settings site =>
      simp only [defined, build, buildData] at done ⊢
      rw [Catalogue.run_bind_eq_ok blueprint.listed] at done
      rcases done with ⟨settled, between, settling, _⟩
      rw [settleData, Catalogue.run_bind_eq_ok blueprint.listed] at settling
      rcases settling with ⟨auth, first, provided, _⟩
      exact ⟨auth, first, provided⟩

theorem Barred.not_ok (absent : container.lookup? (blueprint.idOf factory) = none)
    (barred : Barred container factory) :
    blueprint.catalogue.run (blueprint.instanceOf factory) container ≠ (.ok found, after) := by
  rcases barred with cyclic | ⟨data, auth, _, provided, cyclic⟩
  · exact cyclic.not_ok
  intro done
  rw [run_instanceOf_eq_ok] at done
  rcases done with ⟨_, journal, _, requested⟩
  cases known : (withJournal container journal).immediate?
      (blueprint.catalogue.generator factory) with
  | some answer =>
      rcases Container.immediate?_cases known with ⟨entry, stored, _⟩ | ⟨_, _, rfl⟩
      · have kept : container.lookup? (blueprint.idOf factory) = some entry := stored
        rw [absent] at kept
        cases kept
      · rw [Catalogue.resolve_of_known known] at requested
        cases requested
  | none =>
      rw [Catalogue.resolve_of_unknown blueprint.listed known] at requested
      rcases ran : blueprint.catalogue.run (blueprint.catalogue.generator factory).body
        ((withJournal container journal).enter (blueprint.catalogue.generator factory)) with
          ⟨failure | made, inner⟩
      · rw [ran, Container.settle_error] at requested
        cases requested
      · rcases exists_providedAuth_of_body data ran with ⟨resource, between, settling⟩
        rw [run_providedAuth_eq_ok] at settling
        rcases settling with ⟨noProvider, _⟩ | ⟨other, first, _, same, asked, _⟩
        · have unprovided : blueprint.provider container.state = none := noProvider
          rw [provided] at unprovided
          cases unprovided
        · have alsoProvided : blueprint.provider container.state = some other := same
          rw [provided] at alsoProvided
          cases alsoProvided
          refine Cyclic.not_ok ?_ asked
          refine ⟨cyclic.1, ?_⟩
          have resolving := Container.isResolving_enter container
            (blueprint.catalogue.generator factory) (blueprint.idOf auth)
          rw [cyclic.2, Bool.true_or] at resolving
          exact resolving

/-! ## Requests that succeed -/

/-- The containers keep the same entries for the auth and the data resource. -/
def SameOthers (blueprint : Blueprint) (container other : BackendContainer) : Prop :=
  ∀ factory, ¬ blueprint.IsHandler factory →
    container.lookup? (blueprint.idOf factory) = other.lookup? (blueprint.idOf factory)

theorem idOf_injective {first second : blueprint.Factory}
    (same : blueprint.idOf first = blueprint.idOf second) : first = second :=
  Fin.ext (congrArg GeneratorId.value same)

theorem Closed.congr (closed : blueprint.Closed container)
    (others : blueprint.SameOthers after container)
    (resolving : after.resolving = container.resolving)
    (providers : after.state.providers = container.state.providers) :
    blueprint.Closed after := by
  have cyclic : ∀ factory, ¬ blueprint.IsHandler factory → Cyclic container factory →
      Cyclic after factory := by
    rintro factory other ⟨absent, running⟩
    exact ⟨(others factory other).trans absent,
      (Container.isResolving_congr resolving _).trans running⟩
  have provider : blueprint.provider after.state = blueprint.provider container.state := by
    simp only [Blueprint.provider, providers]
  intro factory other
  rcases closed factory other with stored | running | ⟨data, auth, kind, provided, running⟩
  · exact Or.inl ((others factory other).trans stored)
  · exact Or.inr (Or.inl (cyclic factory other running))
  · have notHandler : ¬ blueprint.IsHandler auth := by simp [IsHandler, kind, handles]
    exact Or.inr (Or.inr ⟨data, auth, kind, provider.trans provided,
      cyclic auth notHandler running⟩)

/-- What asking for a factory has done when it has built a function at most. -/
structure Obtains (factory : blueprint.Factory) (before after : BackendContainer) : Prop where
  stored : Stores after factory
  built : ∃ built, blueprint.Built after built
  only : ∀ other, blueprint.IsHandler other → Stores after other →
    other = factory ∨ Stores before other
  others : blueprint.SameOthers after before
  agrees : blueprint.Agrees before.state after.state

namespace Built

variable {built : List blueprint.Factory}

theorem withJournal (self : blueprint.Built container built) (journal : Journal) :
    blueprint.Built (withJournal container journal) built :=
  ⟨self.entries, self.stored, self.handlers, self.idle, self.keys, self.stack, self.distinct,
    self.identifier, self.listed⟩

theorem agrees_withJournal (container : BackendContainer) (journal : Journal) :
    blueprint.Agrees container.state (Blueprint.withJournal container journal).state :=
  ⟨⟨fun _ _ => rfl, rfl, fun _ _ => rfl, rfl, rfl, rfl⟩, fun _ => rfl, rfl⟩

theorem lookup?_eq_none (self : blueprint.Built container built)
    (missing : ¬ Stores container factory) :
    container.lookup? (blueprint.idOf factory) = none := by
  cases kept : container.lookup? (blueprint.idOf factory) with
  | none => rfl
  | some entry =>
      rw [self.entries factory entry kept] at kept
      exact absurd kept missing

/-- A request for a function that succeeds, or for what is there or cannot be built, gives out the
instance of the factory, and has built it if there was no such function. -/
theorem of_instanceOf (self : blueprint.Built container built)
    (closed : ¬ blueprint.IsHandler factory → Stores container factory ∨ Barred container factory)
    (done : blueprint.catalogue.run (blueprint.instanceOf factory) container =
      (.ok found, after)) :
    found = blueprint.instanceFor factory ∧ Obtains factory container after := by
  have asked := done
  rw [run_instanceOf_eq_ok] at done
  rcases done with ⟨_, journal, _, requested⟩
  by_cases stored : Stores container factory
  · have kept : Stores (Blueprint.withJournal container journal) factory := stored
    rw [resolve_of_stored kept] at requested
    cases requested
    exact ⟨rfl, stored, ⟨built, self.withJournal journal⟩, fun other _ kept => Or.inr kept,
      fun _ _ => rfl, agrees_withJournal container journal⟩
  · by_cases handler : blueprint.IsHandler factory
    · have new : factory ∉ built := fun there => stored ((self.stored factory handler).mp there)
      rcases (self.withJournal journal).resolve_eq_ok handler new requested with
        ⟨rfl, later, agrees, lookup⟩
      refine ⟨rfl, (later.stored factory handler).mp (by simp), ⟨_, later⟩, ?_, ?_,
        (agrees_withJournal container journal).trans agrees⟩
      · intro other otherHandler kept
        have there := (later.stored other otherHandler).mpr kept
        rw [List.mem_append, List.mem_singleton] at there
        rcases there with before | same
        · exact Or.inr ((self.stored other otherHandler).mp before)
        · exact Or.inl same
      · intro other notHandler
        apply lookup
        intro same
        rw [idOf_injective same] at notHandler
        exact notHandler handler
    · rcases closed handler with kept | barred
      · exact absurd kept stored
      · exact absurd asked (barred.not_ok (self.lookup?_eq_none stored))

/-- A request succeeds if the factory passes its checks and its instance is there or has room. -/
theorem exists_instanceOf (self : blueprint.Built container built)
    (valid : blueprint.verdict (blueprint.definition factory) = .ok ())
    (ready : Stores container factory ∨
      blueprint.IsHandler factory ∧ Fits factory container.state) :
    ∃ after, blueprint.catalogue.run (blueprint.instanceOf factory) container =
      (.ok (blueprint.instanceFor factory), after) := by
  rcases blueprint.run_checkDefinition (blueprint.definition factory) container with
    ⟨journal, checked⟩
  rw [valid] at checked
  have answered : ∃ after, blueprint.catalogue.resolve factory
      (Blueprint.withJournal container journal) = (.ok (blueprint.instanceFor factory), after) := by
    by_cases stored : Stores container factory
    · exact ⟨_, resolve_of_stored stored⟩
    · rcases ready with kept | ⟨handler, fits⟩
      · exact absurd kept stored
      · have new : factory ∉ built := fun there => stored ((self.stored factory handler).mp there)
        exact (self.withJournal journal).exists_resolve handler new valid
          ⟨fits.distinct, fits.disjoint⟩
  rcases answered with ⟨after, requested⟩
  exact ⟨after, blueprint.run_instanceOf_eq_ok.mpr ⟨valid, journal, checked, requested⟩⟩

end Built

/-! ## Functions that can be built together -/

/-- The resources of the functions do not collide. -/
structure Compatible (allowed : blueprint.Factory → Prop) : Prop where
  distinct : ∀ factory, allowed factory → (blueprint.logicalIdsOf factory).Nodup
  disjoint : ∀ first second, allowed first → allowed second → first ≠ second →
    (blueprint.logicalIdsOf first).Disjoint (blueprint.logicalIdsOf second)

theorem Built.compatible {built : List blueprint.Factory}
    (self : blueprint.Built container built) : Compatible fun factory => factory ∈ built := by
  have distinct := self.distinct
  rw [List.nodup_flatMap] at distinct
  constructor
  · exact distinct.1
  · intro first second first_mem second_mem different
    have symmetric : Std.Symm (Function.onFun List.Disjoint blueprint.logicalIdsOf) :=
      ⟨fun _ _ disjoint _ there here => disjoint here there⟩
    exact distinct.2.forall first_mem second_mem different

theorem Compatible.fits {allowed : blueprint.Factory → Prop} (compatible : Compatible allowed)
    {built : List blueprint.Factory} (self : blueprint.Built container built)
    (within : ∀ other ∈ built, allowed other) (included : allowed factory)
    (new : factory ∉ built) : Fits factory container.state := by
  constructor
  · exact compatible.distinct factory included
  · rw [self.stack, List.map_flatMap]
    intro logicalId there here
    rcases List.mem_flatMap.mp there with ⟨other, other_mem, registered⟩
    have different : other ≠ factory := by
      rintro rfl
      exact new other_mem
    exact compatible.disjoint other factory (within other other_mem) included different registered
      here

end CloudSynth.Blueprint
