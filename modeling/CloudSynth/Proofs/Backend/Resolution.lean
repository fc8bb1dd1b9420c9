import CloudSynth.Proofs.Backend.Singletons

/-!
# Requests for auth and data

Outside of any generator a request for the auth or the data resource runs its body, and the body of
the data resource may run that of the auth resource. These requests are mirrored as well, although
they build more than functions (`Blueprint.mirrors_auth`, `Blueprint.mirrors_data`): the auth
resource comes out the same whether it was asked for by itself or by the data resource.
-/

namespace CloudSynth.Blueprint

variable {blueprint : Blueprint} {allowed : blueprint.Factory → Prop} {α β : Type}

/-! ## The body of a generator -/

/-- The container in which the body of a generator runs once its definition is checked. -/
def opened (container : BackendContainer) (factory : blueprint.Factory) (journal : Journal) :
    BackendContainer :=
  { (withJournal container journal).enter (blueprint.catalogue.generator factory) with
    state := { (withJournal container journal).state with
      stackSet := container.state.stackSet.touch (blueprint.kindOf factory).group } }

/-- The container when the body of a generator has succeeded. -/
def kept (inner : BackendContainer) (factory : blueprint.Factory) : BackendContainer :=
  { inner.leave (blueprint.catalogue.generator factory) with
    entries := inner.entries ++ [(blueprint.idOf factory, blueprint.instanceFor factory)] }

/-- A program that succeeds has the result. -/
def Returns (blueprint : Blueprint) (program : blueprint.Build α) (result : α) : Prop :=
  ∀ before found after, blueprint.catalogue.run program before = (.ok found, after) →
    found = result

theorem returns_pure (result : α) : blueprint.Returns (pure result) result := by
  intro before found after done
  rw [Catalogue.run_pure] at done
  cases done
  rfl

theorem Returns.bind {program : blueprint.Build α} {next : α → blueprint.Build β} {result : β}
    (ends : ∀ first, blueprint.Returns (next first) result) :
    blueprint.Returns (program >>= next) result := by
  intro before found after done
  rw [Catalogue.run_bind_eq_ok blueprint.listed] at done
  rcases done with ⟨first, between, _, rest⟩
  exact ends first between found after rest

theorem returns_buildAuth (factory : Nat) (settings : AuthSettings Reference) :
    blueprint.Returns (blueprint.buildAuth factory settings) ⟨.auth, factory⟩ :=
  .bind fun _ => .bind fun _ => .bind fun _ => .bind fun _ => .bind fun _ => .bind fun _ =>
    .bind fun _ => returns_pure _

theorem returns_completeData (factory : Nat) (settings : DataSettings Reference)
    (auth : Option (Nat × BuiltAuth)) :
    blueprint.Returns (blueprint.completeData factory settings auth) ⟨.data, factory⟩ :=
  .bind fun _ => .bind fun _ => .bind fun _ => .bind fun _ => .bind fun _ => returns_pure _

theorem returns_buildFunction (factory : Nat) (resolved : ResolvedFunction) :
    blueprint.Returns (Program.act (·.buildFunction factory resolved)) ⟨.function, factory⟩ := by
  intro before found after done
  rw [Catalogue.run_act] at done
  simp only [Assembly.buildFunction] at done
  rcases added : (before.state.stackSet.stackFor ResourceKind.function.group).addAll
    resolved.registrations with ⟨failure | _, stack⟩
  · rw [added] at done
    cases done
  · rw [added] at done
    cases done
    rfl

theorem returns_build (factory : blueprint.Factory) :
    blueprint.Returns (blueprint.build factory (blueprint.definition factory))
      (blueprint.instanceFor factory) := by
  unfold instanceFor kindOf
  cases blueprint.definition factory with
  | function settings site =>
      simp only [build]
      cases settings.resolve site with
      | error fault => exact fun before found after done => by cases done
      | ok resolved => exact returns_buildFunction factory resolved
  | stub name => exact fun before found after done => by cases done; rfl
  | auth settings site => exact returns_buildAuth factory settings
  | data settings site =>
      simp only [build, buildData_eq]
      exact .bind fun auth => returns_completeData factory settings auth

theorem lookup?_eq_none_of_contains {container : BackendContainer} {id : GeneratorId}
    (absent : container.contains id = false) :
    container.lookup? id = none := by
  rwa [Container.contains, Option.isSome_eq_false_iff, Option.isNone_iff_eq_none] at absent

/-- A request for an instance that is not there succeeds if the body of its generator does. -/
theorem run_instanceOf_eq_ok_of_absent {factory : blueprint.Factory}
    {before after : BackendContainer} {found : Instance}
    (absent : before.lookup? (blueprint.idOf factory) = none)
    (idle : before.isResolving (blueprint.idOf factory) = false) :
    blueprint.catalogue.run (blueprint.instanceOf factory) before = (.ok found, after) ↔
      blueprint.verdict (blueprint.definition factory) = .ok () ∧
        found = blueprint.instanceFor factory ∧ ∃ journal inner,
          blueprint.catalogue.run (blueprint.checkDefinition (blueprint.definition factory))
            before = (.ok (), withJournal before journal) ∧
          blueprint.catalogue.run (blueprint.build factory (blueprint.definition factory))
            (opened before factory journal) = (.ok (blueprint.instanceFor factory), inner) ∧
          after = kept inner factory := by
  rw [run_instanceOf_eq_ok]
  have settles : ∀ journal, blueprint.catalogue.resolve factory (withJournal before journal) =
      (.ok found, after) ↔ found = blueprint.instanceFor factory ∧ ∃ inner,
        blueprint.catalogue.run (blueprint.build factory (blueprint.definition factory))
          (opened before factory journal) = (.ok (blueprint.instanceFor factory), inner) ∧
        after = kept inner factory := by
    intro journal
    have unknown : (withJournal before journal).immediate?
        (blueprint.catalogue.generator factory) = none :=
      Container.immediate?_eq_none_iff.mpr ⟨absent, idle⟩
    rcases blueprint.catalogue.exists_runs blueprint.listed
      (blueprint.catalogue.generator factory).body
      ((withJournal before journal).enter (blueprint.catalogue.generator factory)) with
        ⟨chronicle, body⟩
    have absentInner := Catalogue.Runs.lookup?_body unknown body
    rw [Catalogue.resolve_of_unknown blueprint.listed unknown]
    have runs : blueprint.catalogue.run (blueprint.catalogue.generator factory).body
        ((withJournal before journal).enter (blueprint.catalogue.generator factory)) =
      blueprint.catalogue.run (blueprint.build factory (blueprint.definition factory))
        (opened before factory journal) := rfl
    rw [runs] at absentInner ⊢
    rcases ended : blueprint.catalogue.run
      (blueprint.build factory (blueprint.definition factory)) (opened before factory journal) with
        ⟨failure | made, inner⟩
    · rw [Container.settle_error]
      simp
    · have same := returns_build factory _ _ _ ended
      subst same
      rw [ended] at absentInner
      rw [Container.settle_ok absentInner, Container.ofKind_of_admits (decide_eq_true rfl)]
      constructor
      · intro answered
        cases answered
        exact ⟨rfl, inner, rfl, rfl⟩
      · rintro ⟨rfl, _, same, rfl⟩
        cases same
        rfl
  constructor
  · rintro ⟨valid, journal, checked, requested⟩
    rcases (settles journal).mp requested with ⟨same, inner, ran, ended⟩
    exact ⟨valid, same, journal, inner, checked, ran, ended⟩
  · rintro ⟨valid, same, journal, inner, checked, ran, ended⟩
    exact ⟨valid, journal, checked, (settles journal).mpr ⟨same, inner, ran, ended⟩⟩

/-! ## Pairs around a body -/

theorem lookup?_kept (inner : BackendContainer) (factory : blueprint.Factory) (id : GeneratorId) :
    (kept inner factory).lookup? id = (inner.lookup? id).or
      (if blueprint.idOf factory = id then some (blueprint.instanceFor factory) else none) :=
  Container.lookup?_append inner.entries _ _ _ _ _

theorem lookup?_kept_of_ne (inner : BackendContainer) {factory other : blueprint.Factory}
    (different : other ≠ factory) :
    (kept inner factory).lookup? (blueprint.idOf other) =
      inner.lookup? (blueprint.idOf other) := by
  have distinct : blueprint.idOf factory ≠ blueprint.idOf other :=
    fun same => different (idOf_injective same).symm
  rw [lookup?_kept, if_neg distinct, Option.or_none]

theorem extends_kept (inner : BackendContainer) (factory : blueprint.Factory) :
    (kept inner factory).Extends inner := by
  intro id entry stored
  rw [lookup?_kept, stored]
  rfl

theorem stores_kept {inner : BackendContainer} {factory : blueprint.Factory}
    (absent : inner.lookup? (blueprint.idOf factory) = none) :
    Stores (kept inner factory) factory := by
  unfold Stores
  rw [lookup?_kept, absent, if_pos rfl]
  rfl

theorem handler_ne {factory other : blueprint.Factory} (notHandler : ¬ blueprint.IsHandler factory)
    (handler : blueprint.IsHandler other) : other ≠ factory := by
  rintro rfl
  exact notHandler handler

theorem Built.opened {container : BackendContainer} {built : List blueprint.Factory}
    (self : blueprint.Built container built) {factory : blueprint.Factory}
    (notHandler : ¬ blueprint.IsHandler factory) (journal : Journal) :
    blueprint.Built (opened container factory journal) built where
  entries := self.entries
  stored := self.stored
  handlers := self.handlers
  idle := by
    intro other handler
    have different : (blueprint.catalogue.generator factory).id ≠ blueprint.idOf other :=
      fun same => handler_ne notHandler handler (idOf_injective same).symm
    have entered := Container.isResolving_enter container (blueprint.catalogue.generator factory)
      (blueprint.idOf other)
    rw [self.idle other handler, decide_eq_false different] at entered
    exact entered
  keys := self.keys
  stack := (StackSet.stackFor_touch _ _ _).trans self.stack
  distinct := self.distinct
  identifier := self.identifier
  listed := self.listed

theorem agrees_opened (container : BackendContainer) (factory : blueprint.Factory)
    (journal : Journal) :
    blueprint.Agrees container.state (opened container factory journal).state :=
  ⟨⟨fun _ _ => (StackSet.stackFor_touch _ _ _).symm, rfl, fun _ _ => rfl, rfl, rfl, rfl⟩,
    fun _ => rfl, rfl⟩

theorem Built.kept {inner : BackendContainer} {built : List blueprint.Factory}
    (self : blueprint.Built inner built) {factory : blueprint.Factory}
    (notHandler : ¬ blueprint.IsHandler factory) :
    blueprint.Built (kept inner factory) built where
  entries := by
    intro other entry stored
    rw [lookup?_kept, Option.or_eq_some_iff] at stored
    rcases stored with before | ⟨_, added⟩
    · exact self.entries other entry before
    · split at added
      · next same =>
          rw [← idOf_injective same]
          exact (Option.some.inj added).symm
      · cases added
  stored := by
    intro other handler
    rw [lookup?_kept_of_ne inner (handler_ne notHandler handler)]
    exact self.stored other handler
  handlers := self.handlers
  idle := by
    intro other handler
    have idle := self.idle other handler
    rw [Bool.eq_false_iff, Ne, Container.isResolving_iff] at idle ⊢
    intro running
    apply idle
    rcases List.mem_map.mp running with ⟨mark, mark_mem, same⟩
    exact List.mem_map.mpr ⟨mark, List.mem_of_mem_filter mark_mem, same⟩
  keys := self.keys
  stack := self.stack
  distinct := self.distinct
  identifier := self.identifier
  listed := self.listed

theorem Paired.opened_left {first second : BackendContainer}
    (paired : Paired allowed first second) {factory : blueprint.Factory}
    (notHandler : ¬ blueprint.IsHandler factory) (journal : Journal) :
    Paired allowed (opened first factory journal) second := by
  rcases paired.left with ⟨built, holds, within⟩
  exact ⟨⟨built, holds.opened notHandler journal, within⟩, paired.right, paired.others,
    (agrees_opened first factory journal).symm.trans paired.agrees⟩

theorem Paired.kept {first second : BackendContainer} (paired : Paired allowed first second)
    {factory : blueprint.Factory} (notHandler : ¬ blueprint.IsHandler factory) :
    Paired allowed (kept first factory) (kept second factory) := by
  rcases paired.left with ⟨builtFirst, holdsFirst, withinFirst⟩
  rcases paired.right with ⟨builtSecond, holdsSecond, withinSecond⟩
  refine ⟨⟨builtFirst, holdsFirst.kept notHandler, withinFirst⟩,
    ⟨builtSecond, holdsSecond.kept notHandler, withinSecond⟩, ?_, paired.agrees⟩
  intro other otherNotHandler
  rw [lookup?_kept, lookup?_kept, paired.others other otherNotHandler]

theorem Within.of_kept {inner : BackendContainer} {factory : blueprint.Factory}
    (within : Within allowed (kept inner factory)) : Within allowed inner :=
  within.of_extends (extends_kept inner factory)

/-! ## What both sides have done -/

/-- Both sides have gone on, and again they differ in nothing but functions. -/
structure Tracks (allowed : blueprint.Factory → Prop)
    (first second firstAfter secondAfter : BackendContainer) : Prop where
  paired : Paired allowed firstAfter secondAfter
  providers : firstAfter.state.providers = first.state.providers
  /-- The functions that have been built on the first side are there on the second. -/
  covered : ∀ other, blueprint.IsHandler other → Stores firstAfter other →
    Stores first other ∨ Stores secondAfter other

theorem Tracks.trans {first second firstBetween secondBetween firstAfter secondAfter :
      BackendContainer} (tracks : Tracks allowed first second firstBetween secondBetween)
    (later : Tracks allowed firstBetween secondBetween firstAfter secondAfter)
    (extended : secondAfter.Extends secondBetween) :
    Tracks allowed first second firstAfter secondAfter := by
  refine ⟨later.paired, later.providers.trans tracks.providers, ?_⟩
  intro other handler stored
  rcases later.covered other handler stored with between | after
  · rcases tracks.covered other handler between with before | there
    · exact Or.inl before
    · exact Or.inr (extended _ _ there)
  · exact Or.inr after

/-- A request has been answered on both sides. -/
structure Resolved (allowed : blueprint.Factory → Prop) (factory : blueprint.Factory)
    (first second firstAfter secondAfter : BackendContainer) : Prop
    extends Tracks allowed first second firstAfter secondAfter where
  stored : Stores firstAfter factory

theorem Reflects.resolved {first second inner innerSecond : BackendContainer}
    (reflects : Reflects allowed first second inner innerSecond)
    (providers : inner.state.providers = first.state.providers) {factory : blueprint.Factory}
    (notHandler : ¬ blueprint.IsHandler factory)
    (absent : inner.lookup? (blueprint.idOf factory) = none) :
    Resolved allowed factory first second (kept inner factory) (kept innerSecond factory) := by
  refine ⟨⟨reflects.paired.kept notHandler, providers, ?_⟩, stores_kept absent⟩
  intro other handler there
  have different := handler_ne notHandler handler
  unfold Stores at there ⊢
  rw [lookup?_kept_of_ne inner different] at there
  rw [lookup?_kept_of_ne innerSecond different]
  exact reflects.covered other handler there

/-! ## Requests that build functions at most -/

section Light

variable {first second after : BackendContainer} {factory : blueprint.Factory} {found : Instance}

/-- On the left, a request for a function or for what is there changes nothing about the pair. -/
theorem Paired.light_left (paired : Paired allowed first second)
    (light : ¬ blueprint.IsHandler factory → Stores first factory)
    (done : blueprint.catalogue.run (blueprint.instanceOf factory) first = (.ok found, after))
    (within : Within allowed after) :
    found = blueprint.instanceFor factory ∧ Obtains factory first after ∧
      Paired allowed after second := by
  rcases paired.left with ⟨_, holds, _⟩
  rcases holds.of_instanceOf (fun notHandler => Or.inl (light notHandler)) done with ⟨same, obtains⟩
  rcases obtains.built with ⟨later, holdsLater⟩
  refine ⟨same, obtains, ⟨later, holdsLater, holdsLater.within.mp within⟩, paired.right, ?_,
    obtains.agrees.symm.trans paired.agrees⟩
  intro other notHandler
  rw [obtains.others other notHandler, paired.others other notHandler]

theorem Paired.light_right (compatible : Compatible allowed)
    (paired : Paired allowed first second)
    (light : (blueprint.IsHandler factory ∧ allowed factory) ∨ Stores second factory)
    (valid : blueprint.verdict (blueprint.definition factory) = .ok ()) :
    ∃ later, blueprint.catalogue.run (blueprint.instanceOf factory) second =
        (.ok (blueprint.instanceFor factory), later) ∧
      Obtains factory second later ∧ Paired allowed first later := by
  rcases paired.right with ⟨built, holds, within⟩
  have ready : Stores second factory ∨
      blueprint.IsHandler factory ∧ Fits factory second.state := by
    rcases light with ⟨handler, included⟩ | stored
    · by_cases there : factory ∈ built
      · exact Or.inl ((holds.stored factory handler).mp there)
      · exact Or.inr ⟨handler, compatible.fits holds within included there⟩
    · exact Or.inl stored
  have barred : ¬ blueprint.IsHandler factory → Stores second factory ∨ Barred second factory := by
    intro notHandler
    rcases light with ⟨handler, _⟩ | stored
    · exact absurd handler notHandler
    · exact Or.inl stored
  rcases holds.exists_instanceOf valid ready with ⟨later, answered⟩
  rcases holds.of_instanceOf barred answered with ⟨_, obtains⟩
  rcases obtains.built with ⟨builtLater, holdsLater⟩
  refine ⟨later, answered, obtains, paired.left, ⟨builtLater, holdsLater, ?_⟩, ?_,
    paired.agrees.trans obtains.agrees⟩
  · refine holdsLater.within.mp ?_
    intro other handler stored
    rcases obtains.only other handler stored with rfl | before
    · rcases light with ⟨_, included⟩ | there
      · exact included
      · exact holds.within.mpr within other handler there
    · exact holds.within.mpr within other handler before
  · intro other notHandler
    rw [obtains.others other notHandler, paired.others other notHandler]

theorem Paired.answers_light (compatible : Compatible allowed)
    (paired : Paired allowed first second)
    (light : ¬ blueprint.IsHandler factory → Stores first factory)
    (done : blueprint.catalogue.run (blueprint.instanceOf factory) first = (.ok found, after))
    (within : Within allowed after) :
    found = blueprint.instanceFor factory ∧
      ∃ later, blueprint.catalogue.run (blueprint.instanceOf factory) second = (.ok found, later) ∧
        Resolved allowed factory first second after later ∧ blueprint.SameOthers after first := by
  rcases paired.light_left light done within with ⟨rfl, obtains, pairedLeft⟩
  have lightSecond : (blueprint.IsHandler factory ∧ allowed factory) ∨ Stores second factory := by
    by_cases handler : blueprint.IsHandler factory
    · exact Or.inl ⟨handler, within factory handler obtains.stored⟩
    · exact Or.inr ((paired.others factory handler).symm.trans (light handler))
  rcases pairedLeft.light_right compatible lightSecond
    (blueprint.run_instanceOf_eq_ok.mp done).1 with ⟨later, answered, obtainsSecond, pairedAfter⟩
  refine ⟨rfl, later, answered, ⟨⟨pairedAfter, obtains.agrees.providers.symm, ?_⟩,
    obtains.stored⟩, obtains.others⟩
  intro other handler stored
  rcases obtains.only other handler stored with rfl | before
  · exact Or.inr obtainsSecond.stored
  · exact Or.inl before

end Light

/-! ## Requests for the auth resource -/

/-- Which factory provides the auth resource: the one that builds it. -/
def Discoverable (blueprint : Blueprint) (assembly : Assembly) : Prop :=
  ∀ factory, blueprint.kindOf factory = .auth ↔ blueprint.provider assembly = some factory

theorem not_isHandler_of_auth {factory : blueprint.Factory}
    (auth : blueprint.kindOf factory = .auth) : ¬ blueprint.IsHandler factory := by
  simp [IsHandler, auth, handles]

theorem not_isHandler_of_data {factory : blueprint.Factory}
    (data : blueprint.kindOf factory = .data) : ¬ blueprint.IsHandler factory := by
  simp [IsHandler, data, handles]

theorem auth_ne_data {factory other : blueprint.Factory} (data : blueprint.kindOf factory = .data)
    (auth : blueprint.kindOf other = .auth) : other ≠ factory := by
  rintro rfl
  rw [auth] at data
  cases data

theorem cyclic_opened {container : BackendContainer} {factory : blueprint.Factory}
    (absent : container.lookup? (blueprint.idOf factory) = none) (journal : Journal) :
    Cyclic (opened container factory journal) factory := by
  refine ⟨absent, ?_⟩
  have entered := Container.isResolving_enter container (blueprint.catalogue.generator factory)
    (blueprint.idOf factory)
  have self : decide ((blueprint.catalogue.generator factory).id = blueprint.idOf factory) = true :=
    decide_eq_true rfl
  rw [self, Bool.or_true] at entered
  exact entered

theorem closed_opened_auth (singletons : blueprint.HasSingletons) {container : BackendContainer}
    {factory : blueprint.Factory} (auth : blueprint.kindOf factory = .auth)
    (discoverable : blueprint.Discoverable container.state)
    (absent : container.lookup? (blueprint.idOf factory) = none) (journal : Journal) :
    blueprint.Closed (opened container factory journal) := by
  have cyclic := cyclic_opened absent journal
  intro other notHandler
  rcases kindOf_of_not_isHandler notHandler with otherAuth | otherData
  · rw [singletons.auth other factory otherAuth auth]
    exact Or.inr (Or.inl cyclic)
  · exact Or.inr (Or.inr ⟨otherData, factory, auth, (discoverable factory).mp auth, cyclic⟩)

theorem exists_auth {factory : blueprint.Factory} (auth : blueprint.kindOf factory = .auth) :
    ∃ settings site, blueprint.definition factory = .auth settings site := by
  unfold kindOf at auth
  cases defined : blueprint.definition factory with
  | auth settings site => exact ⟨settings, site, rfl⟩
  | function settings site => simp [defined, Definition.kind] at auth
  | stub name => simp [defined, Definition.kind] at auth
  | data settings site => simp [defined, Definition.kind] at auth

theorem kindOf_of_auth {factory : blueprint.Factory} {settings : AuthSettings Reference}
    {site : DefinitionSite} (defined : blueprint.definition factory = .auth settings site) :
    blueprint.kindOf factory = .auth := by
  rw [kindOf, defined]
  rfl

/-- The auth resource comes out the same, whoever asks for it. -/
theorem mirrors_auth (compatible : Compatible allowed) (singletons : blueprint.HasSingletons)
    {first second firstAfter : BackendContainer} {factory : blueprint.Factory} {found : Instance}
    (auth : blueprint.kindOf factory = .auth) (paired : Paired allowed first second)
    (discoverable : blueprint.Discoverable first.state)
    (idleFirst : first.isResolving (blueprint.idOf factory) = false)
    (idleSecond : second.isResolving (blueprint.idOf factory) = false)
    (done : blueprint.catalogue.run (blueprint.instanceOf factory) first = (.ok found, firstAfter))
    (within : Within allowed firstAfter) :
    found = blueprint.instanceFor factory ∧
      ∃ secondAfter, blueprint.catalogue.run (blueprint.instanceOf factory) second =
          (.ok found, secondAfter) ∧ Resolved allowed factory first second firstAfter secondAfter ∧
        ∀ other, blueprint.kindOf other = .data →
          firstAfter.lookup? (blueprint.idOf other) = first.lookup? (blueprint.idOf other) := by
  have notHandler := not_isHandler_of_auth auth
  have valid := (blueprint.run_instanceOf_eq_ok.mp done).1
  rcases paired.left with ⟨_, holds, _⟩
  by_cases stored : Stores first factory
  · rcases paired.answers_light compatible (fun _ => stored) done within with
      ⟨same, secondAfter, answered, resolved, others⟩
    exact ⟨same, secondAfter, answered, resolved,
      fun other data => others other (not_isHandler_of_data data)⟩
  · have absent := holds.lookup?_eq_none stored
    have absentSecond : second.lookup? (blueprint.idOf factory) = none :=
      (paired.others factory notHandler).symm.trans absent
    rw [run_instanceOf_eq_ok_of_absent absent idleFirst] at done
    rcases done with ⟨_, rfl, journal, inner, _, ran, rfl⟩
    rcases blueprint.run_checkDefinition (blueprint.definition factory) second with
      ⟨journalSecond, checked⟩
    rw [valid] at checked
    have discoverableSecond : blueprint.Discoverable second.state := by
      intro other
      rw [discoverable other, provider, provider, paired.agrees.providers]
    -- While the auth resource is built, nothing but functions can be built besides it.
    have closedFirst := closed_opened_auth singletons auth discoverable absent journal
    have closedSecond := closed_opened_auth singletons auth discoverableSecond absentSecond
      journalSecond
    have pairedOpened := ((paired.opened_left notHandler journal).symm.opened_left notHandler
      journalSecond).symm
    have mirrored : Mirrors allowed .loose
        (blueprint.build factory (blueprint.definition factory)) := by
      rcases exists_auth auth with ⟨settings, site, defined⟩
      rw [defined]
      exact mirrors_buildAuth factory settings
    rcases mirrored _ _ pairedOpened (Or.inl compatible) closedFirst closedSecond _ inner ran
      within.of_kept with ⟨providers, innerSecond, ranSecond, reflects⟩
    have absentInner : inner.lookup? (blueprint.idOf factory) = none :=
      (reflects.othersFirst factory notHandler).trans absent
    have resolved := reflects.resolved providers notHandler absentInner
    refine ⟨rfl, kept innerSecond factory, ?_,
      ⟨⟨resolved.paired, resolved.providers, resolved.covered⟩, resolved.stored⟩, ?_⟩
    · rw [run_instanceOf_eq_ok_of_absent absentSecond idleSecond]
      exact ⟨valid, rfl, journalSecond, innerSecond, checked, ranSecond, rfl⟩
    · intro other data
      rw [lookup?_kept_of_ne inner (auth_ne_data data auth).symm]
      exact reflects.othersFirst other (not_isHandler_of_data data)

/-! ## Requests for the data resource -/

section Data

variable {factory : blueprint.Factory} {settings : DataSettings Reference} {site : DefinitionSite}
  {first second firstAfter : BackendContainer} {found : Instance}

theorem exists_data (data : blueprint.kindOf factory = .data) :
    ∃ settings site, blueprint.definition factory = .data settings site := by
  unfold kindOf at data
  cases defined : blueprint.definition factory with
  | data settings site => exact ⟨settings, site, rfl⟩
  | function settings site => simp [defined, Definition.kind] at data
  | stub name => simp [defined, Definition.kind] at data
  | auth settings site => simp [defined, Definition.kind] at data

theorem kindOf_of_data (defined : blueprint.definition factory = .data settings site) :
    blueprint.kindOf factory = .data := by
  rw [kindOf, defined]
  rfl

/-- A request for the data resource, if it is not there, resolves the auth resource first. -/
theorem run_data_eq_ok (defined : blueprint.definition factory = .data settings site)
    {before after : BackendContainer}
    (absent : before.lookup? (blueprint.idOf factory) = none)
    (idle : before.isResolving (blueprint.idOf factory) = false) :
    blueprint.catalogue.run (blueprint.instanceOf factory) before = (.ok found, after) ↔
      blueprint.verdict (blueprint.definition factory) = .ok () ∧
        found = blueprint.instanceFor factory ∧ ∃ journal auth between inner,
          blueprint.catalogue.run (blueprint.checkDefinition (blueprint.definition factory))
            before = (.ok (), withJournal before journal) ∧
          blueprint.catalogue.run (blueprint.providedAuth authResourcesToken)
            (opened before factory journal) = (.ok auth, between) ∧
          blueprint.catalogue.run (blueprint.completeData factory settings auth) between =
            (.ok (blueprint.instanceFor factory), inner) ∧
          after = kept inner factory := by
  rw [run_instanceOf_eq_ok_of_absent absent idle]
  have body : blueprint.build factory (blueprint.definition factory) =
      blueprint.providedAuth authResourcesToken >>= blueprint.completeData factory settings := by
    rw [defined, ← buildData_eq]
    rfl
  rw [body]
  constructor
  · rintro ⟨valid, same, journal, inner, checked, ran, ended⟩
    rw [Catalogue.run_bind_eq_ok blueprint.listed] at ran
    rcases ran with ⟨auth, between, provided, completed⟩
    exact ⟨valid, same, journal, auth, between, inner, checked, provided, completed, ended⟩
  · rintro ⟨valid, same, journal, auth, between, inner, checked, provided, completed, ended⟩
    refine ⟨valid, same, journal, inner, checked, ?_, ended⟩
    rw [Catalogue.run_bind_eq_ok blueprint.listed]
    exact ⟨auth, between, provided, completed⟩

theorem Cyclic.of_run {before after : BackendContainer} (cyclic : Cyclic before factory)
    {program : blueprint.Build α} {outcome : Except BackendError α}
    (done : blueprint.catalogue.run program before = (outcome, after)) :
    Cyclic after factory := by
  rcases blueprint.catalogue.exists_runs blueprint.listed program before with ⟨_, run⟩
  have absent := run.lookup?_eq_none_of_isResolving cyclic.2 cyclic.1
  have running := (run.isResolving_eq (blueprint.idOf factory)).trans cyclic.2
  rw [done] at absent running
  exact ⟨absent, running⟩

theorem closed_of_cyclic_data (singletons : blueprint.HasSingletons)
    {container : BackendContainer} (data : blueprint.kindOf factory = .data)
    (cyclic : Cyclic container factory)
    (stored : ∀ auth, blueprint.kindOf auth = .auth → Stores container auth) :
    blueprint.Closed container := by
  intro other notHandler
  rcases kindOf_of_not_isHandler notHandler with otherAuth | otherData
  · exact Or.inl (stored other otherAuth)
  · rw [singletons.data other factory otherData data]
    exact Or.inr (Or.inl cyclic)

theorem mirrors_rest (compatible : Compatible allowed) (singletons : blueprint.HasSingletons)
    (defined : blueprint.definition factory = .data settings site) {auth : Option (Nat × BuiltAuth)}
    {inner : BackendContainer} (paired : Paired allowed first second)
    (cyclicFirst : Cyclic first factory) (cyclicSecond : Cyclic second factory)
    (stored : ∀ auth, blueprint.kindOf auth = .auth → Stores first auth)
    (done : blueprint.catalogue.run (blueprint.completeData factory settings auth) first =
      (.ok (blueprint.instanceFor factory), inner)) (within : Within allowed inner) :
    ∃ innerSecond, blueprint.catalogue.run (blueprint.completeData factory settings auth) second =
        (.ok (blueprint.instanceFor factory), innerSecond) ∧
      Resolved allowed factory first second (kept inner factory) (kept innerSecond factory) := by
  have data := kindOf_of_data defined
  have notHandler := not_isHandler_of_data data
  have storedSecond : ∀ auth, blueprint.kindOf auth = .auth → Stores second auth := by
    intro other otherAuth
    exact (paired.others other (not_isHandler_of_auth otherAuth)).symm.trans
      (stored other otherAuth)
  rcases mirrors_completeData factory settings auth first second paired (Or.inl compatible)
    (closed_of_cyclic_data singletons data cyclicFirst stored)
    (closed_of_cyclic_data singletons data cyclicSecond storedSecond) _ inner done within with
      ⟨providers, innerSecond, doneSecond, reflects⟩
  exact ⟨innerSecond, doneSecond,
    reflects.resolved providers notHandler (cyclicFirst.of_run done).1⟩

theorem mirrors_providedAuth (compatible : Compatible allowed)
    (singletons : blueprint.HasSingletons) {auth : Option (Nat × BuiltAuth)}
    (paired : Paired allowed first second) (discoverable : blueprint.Discoverable first.state)
    (idle : ∀ auth, blueprint.kindOf auth = .auth →
      first.isResolving (blueprint.idOf auth) = false ∧
        second.isResolving (blueprint.idOf auth) = false)
    (done : blueprint.catalogue.run (blueprint.providedAuth authResourcesToken) first =
      (.ok auth, firstAfter)) (within : Within allowed firstAfter) :
    ∃ secondAfter, blueprint.catalogue.run (blueprint.providedAuth authResourcesToken) second =
        (.ok auth, secondAfter) ∧ Tracks allowed first second firstAfter secondAfter ∧
      ∀ other, blueprint.kindOf other = .auth → Stores firstAfter other := by
  have provider : blueprint.provider second.state = blueprint.provider first.state := by
    simp only [Blueprint.provider, paired.agrees.providers]
  rw [run_providedAuth_eq_ok] at done
  rcases done with ⟨unprovided, rfl, rfl⟩ | ⟨factory, found, built, provided, asked, looked, rfl⟩
  · refine ⟨second, ?_, ⟨paired, rfl, fun _ _ => Or.inl⟩, ?_⟩
    · rw [run_providedAuth_eq_ok]
      exact Or.inl ⟨provider.trans unprovided, rfl, rfl⟩
    · intro other otherAuth
      rw [(discoverable other).mp otherAuth] at unprovided
      cases unprovided
  · have isAuth := (discoverable factory).mpr provided
    rcases idle factory isAuth with ⟨idleFirst, idleSecond⟩
    rcases mirrors_auth compatible singletons isAuth paired discoverable idleFirst idleSecond asked
      within with ⟨rfl, secondAfter, answered, resolved, _⟩
    refine ⟨secondAfter, ?_, resolved.toTracks, ?_⟩
    · rw [run_providedAuth_eq_ok]
      refine Or.inr ⟨factory, _, built, provider.trans provided, answered, ?_, rfl⟩
      rw [← resolved.paired.agrees.auths]
      exact looked
    · intro other otherAuth
      rw [singletons.auth other factory otherAuth isAuth]
      exact resolved.stored

end Data

/-- Nothing is being resolved, and the auth resource can be found. -/
structure Outside (blueprint : Blueprint) (container : BackendContainer) : Prop where
  resolving : container.resolving = []
  discoverable : blueprint.Discoverable container.state

theorem Outside.idle {container : BackendContainer} (outside : blueprint.Outside container)
    (id : GeneratorId) : container.isResolving id = false := by
  rw [Container.isResolving, outside.resolving]
  rfl

theorem Outside.of_run {container after : BackendContainer} (outside : blueprint.Outside container)
    {α : Type} {program : blueprint.Build α} {outcome : Except BackendError α}
    (done : blueprint.catalogue.run program container = (outcome, after))
    (providers : after.state.providers = container.state.providers) :
    blueprint.Outside after where
  resolving := (Catalogue.resolving_of_run blueprint.listed done).trans outside.resolving
  discoverable := by
    intro factory
    rw [outside.discoverable factory, provider, provider, providers]

theorem isResolving_opened_of_ne {container : BackendContainer} {factory other : blueprint.Factory}
    (different : other ≠ factory) (journal : Journal) :
    (opened container factory journal).isResolving (blueprint.idOf other) =
      container.isResolving (blueprint.idOf other) := by
  have distinct : (blueprint.catalogue.generator factory).id ≠ blueprint.idOf other :=
    fun same => different (idOf_injective same).symm
  have entered := Container.isResolving_enter container (blueprint.catalogue.generator factory)
    (blueprint.idOf other)
  rw [decide_eq_false distinct, Bool.or_false] at entered
  exact entered

theorem mirrors_data (compatible : Compatible allowed) (singletons : blueprint.HasSingletons)
    {first second firstAfter : BackendContainer} {factory : blueprint.Factory} {found : Instance}
    (data : blueprint.kindOf factory = .data) (paired : Paired allowed first second)
    (outsideFirst : blueprint.Outside first) (outsideSecond : blueprint.Outside second)
    (absent : first.lookup? (blueprint.idOf factory) = none)
    (done : blueprint.catalogue.run (blueprint.instanceOf factory) first = (.ok found, firstAfter))
    (within : Within allowed firstAfter) :
    found = blueprint.instanceFor factory ∧
      ∃ secondAfter, blueprint.catalogue.run (blueprint.instanceOf factory) second =
          (.ok found, secondAfter) ∧
        Resolved allowed factory first second firstAfter secondAfter := by
  have notHandler := not_isHandler_of_data data
  have absentSecond : second.lookup? (blueprint.idOf factory) = none :=
    (paired.others factory notHandler).symm.trans absent
  rcases exists_data data with ⟨settings, site, defined⟩
  rw [run_data_eq_ok defined absent (outsideFirst.idle _)] at done
  rcases done with ⟨valid, rfl, journal, auth, between, inner, _, provided, completed, rfl⟩
  rcases blueprint.run_checkDefinition (blueprint.definition factory) second with
    ⟨journalSecond, checked⟩
  rw [valid] at checked
  have pairedOpened := ((paired.opened_left notHandler journal).symm.opened_left notHandler
    journalSecond).symm
  have withinInner := within.of_kept
  have extended := Catalogue.extends_of_run blueprint.listed completed
  have idle : ∀ auth, blueprint.kindOf auth = .auth →
      (opened first factory journal).isResolving (blueprint.idOf auth) = false ∧
        (opened second factory journalSecond).isResolving (blueprint.idOf auth) = false := by
    intro other otherAuth
    have different := auth_ne_data data otherAuth
    rw [isResolving_opened_of_ne different, isResolving_opened_of_ne different]
    exact ⟨outsideFirst.idle _, outsideSecond.idle _⟩
  rcases mirrors_providedAuth compatible singletons pairedOpened outsideFirst.discoverable idle
    provided (withinInner.of_extends extended) with
      ⟨betweenSecond, providedSecond, tracks, stored⟩
  rcases mirrors_rest compatible singletons defined tracks.paired
    ((cyclic_opened absent journal).of_run provided)
    ((cyclic_opened absentSecond journalSecond).of_run providedSecond) stored completed withinInner
    with ⟨innerSecond, completedSecond, resolved⟩
  have extendedSecond := Catalogue.extends_of_run blueprint.listed completedSecond
  refine ⟨rfl, kept innerSecond factory, ?_, ?_, resolved.stored⟩
  · rw [run_data_eq_ok defined absentSecond (outsideSecond.idle _)]
    exact ⟨valid, rfl, journalSecond, auth, betweenSecond, innerSecond, checked, providedSecond,
      completedSecond, rfl⟩
  · have whole := tracks.trans resolved.toTracks ((extends_kept _ _).trans extendedSecond)
    exact ⟨whole.paired, whole.providers, whole.covered⟩

end CloudSynth.Blueprint
