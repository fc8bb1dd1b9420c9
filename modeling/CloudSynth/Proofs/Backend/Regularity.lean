import CloudSynth.Proofs.Backend.Progress
import CloudSynth.Proofs.Backend.Registration
import CloudSynth.Proofs.Container.Passing

/-!
# What lasts between functions

Functions ask for nothing, so whenever a request is made no function is being resolved. A property
that requests for functions keep, and the steps of other bodies, therefore holds of every container
on the way through any request (`Blueprint.Lasting.instanceOf`), however requests nest and whichever
of them fail. That the functions are built as they should be is such a property
(`Blueprint.lasting_regular`): a request for a function adds it at the end, or changes nothing
(`Blueprint.Built.handler_cases`).
-/

namespace CloudSynth.Blueprint

variable {blueprint : Blueprint} {α : Type}

/-! ## Requests of any depth -/

/-- No function is being resolved. -/
def Quiet (blueprint : Blueprint) (container : BackendContainer) : Prop :=
  ∀ factory, blueprint.IsHandler factory → container.isResolving (blueprint.idOf factory) = false

/-- A property of containers that is kept by requests for functions, and by everything that the
other requests do: notes in the journal, the steps of bodies, and keeping what these have built. -/
structure Lasting (holds : BackendContainer → Prop) : Prop where
  light : ∀ {before after : BackendContainer}, holds before → after.entries = before.entries →
    blueprint.Quiet after → Steady before.state after.state → holds after
  handler : ∀ {factory : blueprint.Factory} {container : BackendContainer}, holds container →
    blueprint.IsHandler factory →
      holds (blueprint.catalogue.run (blueprint.instanceOf factory) container).2
  step : ∀ {own : blueprint.Factory} {container : BackendContainer} {state : Assembly},
    holds container → ¬ blueprint.IsHandler own →
      blueprint.Footprint (blueprint.kindOf own) own container.state state →
        holds { container with state }
  keep : ∀ {own : blueprint.Factory} {inner : BackendContainer}, holds inner →
    ¬ blueprint.IsHandler own → holds (kept inner own)

section Lasting

variable {holds : BackendContainer → Prop} {container through : BackendContainer}

theorem Quiet.congr (quiet : blueprint.Quiet container)
    (same : through.resolving = container.resolving) : blueprint.Quiet through := by
  intro factory handler
  rw [Container.isResolving_congr same]
  exact quiet factory handler

theorem Quiet.opened (quiet : blueprint.Quiet container) {factory : blueprint.Factory}
    (notHandler : ¬ blueprint.IsHandler factory) (journal : Journal) :
    blueprint.Quiet (opened container factory journal) := by
  intro other handler
  have different : (blueprint.catalogue.generator factory).id ≠ blueprint.idOf other :=
    fun same => handler_ne notHandler handler (idOf_injective same).symm
  have entered := Container.isResolving_enter container (blueprint.catalogue.generator factory)
    (blueprint.idOf other)
  rw [quiet other handler, decide_eq_false different] at entered
  exact entered

theorem isResolving_leave {inner : BackendContainer} {factory : blueprint.Factory}
    {id : GeneratorId} (idle : inner.isResolving id = false) :
    (inner.leave (blueprint.catalogue.generator factory)).isResolving id = false := by
  rw [Bool.eq_false_iff, Ne, Container.isResolving_iff] at idle ⊢
  intro running
  apply idle
  rcases List.mem_map.mp running with ⟨mark, mark_mem, same⟩
  exact List.mem_map.mpr ⟨mark, List.mem_of_mem_filter mark_mem, same⟩

theorem passes_checkDefinition {definition : Definition}
    (passes : blueprint.catalogue.Passes through (blueprint.checkDefinition definition) container) :
    ∃ journal, through = withJournal container journal := by
  have noted : ∀ {change : Assembly → Except BackendError Unit × Assembly} {first between},
      (∃ outcome, ∀ assembly, ∃ journal, change assembly = (outcome, { assembly with journal })) →
        (∃ journal, first = withJournal container journal) →
        blueprint.catalogue.Passes between (Program.act change : blueprint.Build Unit) first →
        ∃ journal, between = withJournal container journal := by
    rintro change first between ⟨outcome, notes⟩ ⟨earlier, rfl⟩ passes
    rcases passes.of_act with rfl | rfl
    · exact ⟨earlier, rfl⟩
    · rcases notes (withJournal container earlier).state with ⟨journal, noted⟩
      rw [Catalogue.run_act, noted]
      exact ⟨journal, rfl⟩
  have untouched : ∃ journal, container = withJournal container journal :=
    ⟨container.state.journal, rfl⟩
  have both : ∀ site expected message name, blueprint.catalogue.Passes through (do
      Program.act (blueprint.checkSite site expected message)
      Program.act (blueprint.checkName name)) container →
        ∃ journal, through = withJournal container journal := by
    intro site expected message name passes
    have ofSite := blueprint.exists_checkSite site expected message
    rcases passes.of_bind blueprint.listed with first | ⟨_, between, done, last⟩
    · exact noted ofSite untouched first
    · have ended : blueprint.catalogue.Passes _
          (Program.act (blueprint.checkSite site expected message)) container :=
        Catalogue.passes_run blueprint.listed _ _
      rw [done] at ended
      exact noted (blueprint.exists_checkName name) (noted ofSite untouched ended) last
  cases definition with
  | function settings site =>
      simp only [checkDefinition] at passes
      cases resolves : settings.resolve site with
      | error fault =>
          rw [resolves] at passes
          rw [passes.of_finish]
          exact untouched
      | ok resolved =>
          rw [resolves] at passes
          exact noted (blueprint.exists_checkName _) untouched passes
  | stub name =>
      rw [passes.of_finish]
      exact untouched
  | auth settings site => exact both _ _ _ _ passes
  | data settings site => exact both _ _ _ _ passes

namespace Lasting

variable (lasting : blueprint.Lasting holds)

include lasting

theorem withJournal (known : holds container) (quiet : blueprint.Quiet container)
    (journal : Journal) : holds (withJournal container journal) :=
  lasting.light known rfl quiet ⟨fun _ => rfl, rfl, rfl, rfl, rfl, rfl, rfl, rfl⟩

theorem opened (known : holds container) (quiet : blueprint.Quiet container)
    {factory : blueprint.Factory} (notHandler : ¬ blueprint.IsHandler factory) (journal : Journal) :
    holds (opened container factory journal) :=
  lasting.light known rfl (quiet.opened notHandler journal) (steady_opened _ _ _)

/-- What lasts over the requests of a program lasts over the program. -/
theorem of_composed {own : blueprint.Factory} (notHandler : ¬ blueprint.IsHandler own)
    {level : List (GeneratorId × String)}
    (requests : ∀ (factory : blueprint.Factory) container, container.resolving = level →
      holds container → ∀ through,
        blueprint.catalogue.Passes through (blueprint.instanceOf factory) container →
          blueprint.Quiet through → holds through)
    {program : blueprint.Build α} (composed : Composed (blueprint.kindOf own) own program)
    (resolving : container.resolving = level) (quiet : blueprint.Quiet container)
    (known : holds container)
    (passes : blueprint.catalogue.Passes through program container)
    (quietThrough : blueprint.Quiet through) : holds through := by
  induction composed generalizing container through with
  | finish outcome =>
      rw [passes.of_finish]
      exact known
  | instanceOf factory =>
      exact requests factory container resolving known through passes quietThrough
  | read every ih =>
      cases passes with
      | here => exact known
      | read rest => exact ih container.state resolving quiet known rest quietThrough
  | act footprint =>
      rcases passes.of_act with rfl | rfl
      · exact known
      · exact lasting.step known notHandler (footprint container.state)
  | @bind _ _ program next head rest ihHead ihRest =>
      rcases passes.of_bind blueprint.listed with first | ⟨result, between, done, last⟩
      · exact ihHead resolving quiet known first quietThrough
      · have same := Catalogue.resolving_of_run blueprint.listed done
        have ended := Catalogue.passes_run blueprint.listed program container
        rw [done] at ended
        have quietBetween := quiet.congr same
        exact ihRest result (same.trans resolving) quietBetween
          (ihHead resolving quiet known ended quietBetween) last quietThrough

theorem resolved {factory : blueprint.Factory} {journal : Journal} {checked : Unit}
    (quiet : blueprint.Quiet container) (known : holds container)
    (passed : blueprint.catalogue.run (blueprint.checkDefinition (blueprint.definition factory))
      container = (.ok checked, Blueprint.withJournal container journal))
    (building : ¬ blueprint.IsHandler factory →
      container.immediate? (blueprint.catalogue.generator factory) = none →
      ∀ journal through, blueprint.catalogue.Passes through
        (blueprint.build factory (blueprint.definition factory))
          (Blueprint.opened container factory journal) →
        blueprint.Quiet through → holds through) :
    holds (blueprint.catalogue.resolve factory (Blueprint.withJournal container journal)).2 := by
  by_cases handler : blueprint.IsHandler factory
  · have asked : blueprint.catalogue.run (blueprint.instanceOf factory) container =
        blueprint.catalogue.resolve factory (Blueprint.withJournal container journal) := by
      rw [Blueprint.instanceOf, Catalogue.run_bind blueprint.listed, passed]
      rfl
    rw [← asked]
    exact lasting.handler known handler
  cases immediate : (Blueprint.withJournal container journal).immediate?
    (blueprint.catalogue.generator factory) with
  | some answer =>
      rw [Catalogue.resolve_of_known immediate]
      exact lasting.withJournal known quiet journal
  | none =>
      have absent := (Container.immediate?_eq_none_iff.mp immediate).1
      have ended := Catalogue.passes_run blueprint.listed
        (blueprint.build factory (blueprint.definition factory))
        (Blueprint.opened container factory journal)
      rw [Catalogue.resolve_of_unknown blueprint.listed immediate]
      rw [show blueprint.catalogue.run (blueprint.catalogue.generator factory).body
          ((Blueprint.withJournal container journal).enter
            (blueprint.catalogue.generator factory)) =
        blueprint.catalogue.run (blueprint.build factory (blueprint.definition factory))
          (Blueprint.opened container factory journal) from rfl]
      rcases done : blueprint.catalogue.run
        (blueprint.build factory (blueprint.definition factory))
        (Blueprint.opened container factory journal) with ⟨outcome, inner⟩
      rw [done] at ended
      have quietInner := (quiet.opened handler journal).congr
        (Catalogue.resolving_of_run blueprint.listed done)
      have knownInner := building handler immediate journal inner ended quietInner
      cases outcome with
      | error failure =>
          exact lasting.light knownInner rfl
            (fun other otherHandler => isResolving_leave (quietInner other otherHandler)) (.refl _)
      | ok made =>
          have same := returns_build factory _ _ _ done
          subst same
          rw [Container.settle_ok ((cyclic_opened absent journal).of_run done).1]
          exact lasting.keep knownInner handler

/-- What lasts holds of every container on the way through a request, unless a function is being
resolved. -/
theorem instanceOf {factory : blueprint.Factory} (quiet : blueprint.Quiet container)
    (known : holds container)
    (passes : blueprint.catalogue.Passes through (blueprint.instanceOf factory) container)
    (quietThrough : blueprint.Quiet through) : holds through := by
  -- By induction on how deep requests nest; the requests of a body are made while it is resolved.
  refine Catalogue.request_induction
    (motive := fun factory container => blueprint.Quiet container → holds container →
      ∀ through, blueprint.catalogue.Passes through (blueprint.instanceOf factory) container →
        blueprint.Quiet through → holds through)
    blueprint.listed ?_ factory container quiet known through passes quietThrough
  clear quiet known passes quietThrough
  intro factory container nested quiet known through passes quietThrough
  have building : ¬ blueprint.IsHandler factory →
      container.immediate? (blueprint.catalogue.generator factory) = none →
      ∀ journal through, blueprint.catalogue.Passes through
        (blueprint.build factory (blueprint.definition factory))
          (Blueprint.opened container factory journal) →
        blueprint.Quiet through → holds through := by
    intro notHandler unknown journal through passes quietThrough
    have quietOpened := quiet.opened notHandler journal
    have requests : ∀ (other : blueprint.Factory) inner,
        inner.resolving = (Blueprint.opened container factory journal).resolving → holds inner →
          ∀ through, blueprint.catalogue.Passes through (blueprint.instanceOf other) inner →
            blueprint.Quiet through → holds through :=
      fun other inner same => nested unknown other inner same (quietOpened.congr same)
    have knownOpened := lasting.opened known quiet notHandler journal
    exact lasting.of_composed notHandler requests (composed_build factory) rfl quietOpened
      knownOpened passes quietThrough
  rcases passes.of_bind blueprint.listed with checking | ⟨_, between, checked, requesting⟩
  · rcases passes_checkDefinition checking with ⟨journal, rfl⟩
    exact lasting.withJournal known quiet journal
  have ended := Catalogue.passes_run blueprint.listed
    (blueprint.checkDefinition (blueprint.definition factory)) container
  rw [checked] at ended
  rcases passes_checkDefinition ended with ⟨journal, rfl⟩
  cases requesting with
  | here => exact lasting.withJournal known quiet journal
  | inside unknown body =>
      have notHandler : ¬ blueprint.IsHandler factory := by
        intro handler
        have absent := (Container.immediate?_eq_none_iff.mp unknown).1
        have entered : ((Blueprint.withJournal container journal).enter
            (blueprint.catalogue.generator factory)).isResolving (blueprint.idOf factory) = true :=
          (cyclic_opened absent journal).2
        have running := body.isResolving blueprint.listed entered
        rw [quietThrough factory handler] at running
        cases running
      rcases Catalogue.Passes.of_bind blueprint.listed body with touching | ⟨_, _, touched, inner⟩
      · have entered : blueprint.Quiet ((Blueprint.withJournal container journal).enter
            (blueprint.catalogue.generator factory)) := quiet.opened notHandler journal
        rcases Catalogue.Passes.of_modify touching with rfl | rfl
        · exact lasting.light known rfl entered ⟨fun _ => rfl, rfl, rfl, rfl, rfl, rfl, rfl, rfl⟩
        · exact lasting.opened known quiet notHandler journal
      · cases touched
        exact building notHandler unknown journal _ inner quietThrough
  | answered rest =>
      rw [rest.of_finish]
      exact lasting.resolved quiet known checked building

theorem of_asks {program : blueprint.Build α} (asks : Asks program)
    (quiet : blueprint.Quiet container) (known : holds container)
    (passes : blueprint.catalogue.Passes through program container)
    (quietThrough : blueprint.Quiet through) : holds through := by
  induction asks generalizing container through with
  | finish outcome =>
      rw [passes.of_finish]
      exact known
  | instanceOf factory => exact lasting.instanceOf quiet known passes quietThrough
  | @bind _ _ program next head rest ihHead ihRest =>
      rcases passes.of_bind blueprint.listed with first | ⟨result, between, done, last⟩
      · exact ihHead quiet known first quietThrough
      · have ended := Catalogue.passes_run blueprint.listed program container
        rw [done] at ended
        have quietBetween := quiet.congr (Catalogue.resolving_of_run blueprint.listed done)
        exact ihRest result quietBetween (ihHead quiet known ended quietBetween) last quietThrough

end Lasting

end Lasting

/-! ## Functions -/

/-- The functions of the container are built as they should be. -/
def Regular (blueprint : Blueprint) (container : BackendContainer) : Prop :=
  ∃ built, blueprint.Built container built

section Regular

variable {container : BackendContainer} {built : List blueprint.Factory}

/-- Other generators may be running, as long as no function is. -/
theorem Built.of_steady (self : blueprint.Built container built) {other : BackendContainer}
    (entries : other.entries = container.entries)
    (idle : ∀ factory, blueprint.IsHandler factory →
      other.isResolving (blueprint.idOf factory) = false)
    (steady : Steady container.state other.state) : blueprint.Built other built := by
  have lookup : ∀ id, other.lookup? id = container.lookup? id := by
    intro id
    simp only [Container.lookup?, entries]
  constructor
  case entries =>
    intro factory entry stored
    exact self.entries factory entry ((lookup _).symm.trans stored)
  case stored =>
    intro factory handler
    rw [lookup]
    exact self.stored factory handler
  case handlers => exact self.handlers
  case idle => exact idle
  case keys => rw [steady.functions, self.keys]
  case stack => rw [steady.stackFor, self.stack]
  case distinct => exact self.distinct
  case identifier => rw [steady.parameters, self.identifier]
  case listed => rw [steady.outputs, self.listed]

/-- A step of another body is none of the functions. -/
theorem Footprint.aside {own : blueprint.Factory} (notHandler : ¬ blueprint.IsHandler own)
    {before after : Assembly}
    (footprint : blueprint.Footprint (blueprint.kindOf own) own before after) :
    Aside before after := by
  have notHandled : handles (blueprint.kindOf own) = false := Bool.not_eq_true _ ▸ notHandler
  have different : ResourceKind.function ≠ blueprint.kindOf own := by
    intro same
    rw [← same] at notHandled
    cases notHandled
  rcases group_ne_of_ne notHandled different with ⟨group, key⟩
  refine ⟨footprint.functions notHandled, footprint.stackFor _ group.symm, ?_,
    footprint.identifier, footprint.providers⟩
  have output := footprint.outputs _ key.symm
  simp only [ResourceKind.outputKey] at output
  simp only [OutputStorage.list, output]

/-- A function that cannot be built fails alike in all states that have the same functions, and
changes nothing. -/
theorem Built.build_handler_error (self : blueprint.Built container built)
    {factory : blueprint.Factory} (handler : blueprint.IsHandler factory)
    {before after : BackendContainer} {failure : BackendError}
    (steady : Steady container.state before.state)
    (failed : blueprint.catalogue.run (blueprint.build factory (blueprint.definition factory))
      before = (.error failure, after)) :
    ∀ other : BackendContainer, Steady container.state other.state → ∃ state,
      blueprint.catalogue.run (blueprint.build factory (blueprint.definition factory)) other =
        (.error failure, { other with state }) ∧ Steady other.state state := by
  intro other steadyOther
  rcases isHandler_cases handler with ⟨settings, site, defined⟩ | ⟨name, defined⟩
  · simp only [build, defined] at failed ⊢
    cases passes : settings.resolve site with
    | error fault =>
        simp only [passes, Catalogue.run_throw] at failed ⊢
        cases failed
        exact ⟨other.state, rfl, .refl _⟩
    | ok resolved =>
        simp only [passes, Catalogue.run_act] at failed ⊢
        rcases self.register resolved with ⟨stack, added⟩ | refused
        · rw [← steady.stackFor] at added
          simp only [Assembly.buildFunction, added] at failed
          cases failed
        · have refusedOther := refused
          rw [← steady.stackFor] at refused
          rw [← steadyOther.stackFor] at refusedOther
          simp only [Assembly.buildFunction, refused] at failed
          simp only [Assembly.buildFunction, refusedOther]
          cases failed
          rw [steady.stackFor, ← steadyOther.stackFor]
          exact ⟨_, rfl, .put_self _ _⟩
  · simp only [build, defined, Catalogue.run_act] at failed
    cases failed

/-- A request for a function does nothing but note its check, or it adds the function at the end. -/
theorem Built.handler_cases (holds : blueprint.Built container built)
    {factory : blueprint.Factory} (handler : blueprint.IsHandler factory)
    {outcome : Except BackendError Instance} {after : BackendContainer}
    (done : blueprint.catalogue.run (blueprint.instanceOf factory) container = (outcome, after)) :
    (after.entries = container.entries ∧ Steady container.state after.state ∧
        ∀ found, outcome = .ok found → factory ∈ built) ∨
      (outcome = .ok (blueprint.instanceFor factory) ∧ factory ∉ built ∧
        Adds factory container.state after.state ∧ Fits factory container.state ∧
        after.entries =
          container.entries ++ [(blueprint.idOf factory, blueprint.instanceFor factory)]) := by
  have noted : ∀ journal, Steady container.state (Blueprint.withJournal container journal).state :=
    fun _ => ⟨fun _ => rfl, rfl, rfl, rfl, rfl, rfl, rfl, rfl⟩
  cases outcome with
  | error failure =>
      refine Or.inl ?_
      rcases run_instanceOf_cases factory container with
        ⟨journal, ⟨answer, checked⟩ | ⟨unknown, ran⟩⟩
      · rw [checked] at done
        cases done
        exact ⟨rfl, noted journal, fun _ other => nomatch other⟩
      · have absent := (Container.immediate?_eq_none_iff.mp unknown).1
        have opening := steady_opened container factory journal
        rw [ran] at done
        rcases ended : blueprint.catalogue.run
          (blueprint.build factory (blueprint.definition factory))
          (Blueprint.opened container factory journal) with ⟨failure | made, inner⟩
        · rcases holds.build_handler_error handler opening ended _ opening with
            ⟨state, again, steady⟩
          rw [ended] at again done
          cases again
          cases done
          exact ⟨rfl, opening.trans steady, fun _ other => nomatch other⟩
        · have same := returns_build factory _ _ _ ended
          subst same
          have absentInner := ((cyclic_opened absent journal).of_run ended).1
          rw [ended, Container.settle_ok absentInner,
            Container.ofKind_of_admits (decide_eq_true rfl)] at done
          cases done
  | ok found =>
      rw [run_instanceOf_eq_ok] at done
      rcases done with ⟨_, journal, _, requested⟩
      by_cases there : factory ∈ built
      · refine Or.inl ?_
        have stored : (Blueprint.withJournal container journal).lookup? (blueprint.idOf factory) =
            some (blueprint.instanceFor factory) := (holds.stored factory handler).mp there
        rw [Built.resolve_of_stored stored] at requested
        cases requested
        exact ⟨rfl, noted journal, fun _ _ => there⟩
      · refine Or.inr ?_
        rcases (holds.withJournal journal).resolve_adds handler there requested with
          ⟨rfl, adds, fits, entries, _⟩
        exact ⟨rfl, there, ⟨adds.keys, adds.functions, adds.stack, adds.listed, adds.stackFor,
          adds.outputs, adds.parameters, adds.providers, adds.auths, adds.datas, adds.nextPolicy⟩,
          ⟨fits.distinct, fits.disjoint⟩, entries⟩

theorem regular_of_handler (holds : blueprint.Built container built)
    {factory : blueprint.Factory} (handler : blueprint.IsHandler factory) :
    blueprint.Regular (blueprint.catalogue.run (blueprint.instanceOf factory) container).2 := by
  rcases done : blueprint.catalogue.run (blueprint.instanceOf factory) container with
    ⟨outcome, after⟩
  have resolving : after.resolving = container.resolving :=
    Catalogue.resolving_of_run blueprint.listed done
  rcases holds.handler_cases handler done with
    ⟨entries, steady, _⟩ | ⟨_, new, adds, fits, entries⟩
  · have quiet : blueprint.Quiet container := holds.idle
    exact ⟨built, holds.of_steady entries (quiet.congr resolving) steady⟩
  · exact ⟨_, holds.add handler new adds fits entries resolving⟩

theorem lasting_regular : blueprint.Lasting blueprint.Regular where
  light := by
    rintro before after ⟨built, holds⟩ entries quiet steady
    exact ⟨built, holds.of_steady entries quiet steady⟩
  handler := by
    rintro factory container ⟨built, holds⟩ handler
    exact regular_of_handler holds handler
  step := by
    rintro own container state ⟨built, holds⟩ notHandler footprint
    exact ⟨built, holds.aside (footprint.aside notHandler)⟩
  keep := by
    rintro own inner ⟨built, holds⟩ notHandler
    exact ⟨built, holds.kept notHandler⟩

theorem regular_instanceOf (factory : blueprint.Factory) (container : BackendContainer)
    (regular : blueprint.Regular container) :
    blueprint.Regular (blueprint.catalogue.run (blueprint.instanceOf factory) container).2 := by
  have quiet : blueprint.Quiet container := by
    rcases regular with ⟨built, holds⟩
    exact holds.idle
  exact lasting_regular.instanceOf quiet regular (Catalogue.passes_run blueprint.listed _ _)
    (quiet.congr (Catalogue.resolving_of_run blueprint.listed rfl))

variable {before after : BackendContainer}

theorem Regular.quiet (regular : blueprint.Regular before) : blueprint.Quiet before := by
  rcases regular with ⟨built, holds⟩
  exact holds.idle

theorem Regular.of_asks (regular : blueprint.Regular before) {program : blueprint.Build α}
    (asks : Asks program) {outcome : Except BackendError α}
    (done : blueprint.catalogue.run program before = (outcome, after)) :
    blueprint.Regular after := by
  have passes := Catalogue.passes_run blueprint.listed program before
  rw [done] at passes
  exact lasting_regular.of_asks asks regular.quiet regular passes
    (regular.quiet.congr (Catalogue.resolving_of_run blueprint.listed done))

/-- The parts of a body leave the functions built as they should be. -/
theorem Regular.of_composed (regular : blueprint.Regular before) {own : blueprint.Factory}
    (notHandler : ¬ blueprint.IsHandler own) {program : blueprint.Build α}
    (composed : Composed (blueprint.kindOf own) own program) {outcome : Except BackendError α}
    (done : blueprint.catalogue.run program before = (outcome, after)) :
    blueprint.Regular after := by
  have passes := Catalogue.passes_run blueprint.listed program before
  rw [done] at passes
  have requests : ∀ (factory : blueprint.Factory) container,
      container.resolving = before.resolving → blueprint.Regular container → ∀ through,
        blueprint.catalogue.Passes through (blueprint.instanceOf factory) container →
          blueprint.Quiet through → blueprint.Regular through :=
    fun factory container _ regular through passes quiet =>
      lasting_regular.instanceOf regular.quiet regular passes quiet
  exact lasting_regular.of_composed notHandler requests composed rfl regular.quiet regular passes
    (regular.quiet.congr (Catalogue.resolving_of_run blueprint.listed done))

/-! ## Requests that have been answered -/

/-- A request that is answered gives out the instance of its factory, which is there from then on.
-/
theorem stores_of_instanceOf {factory : blueprint.Factory} {found : Instance}
    (regular : blueprint.Regular before)
    (done : blueprint.catalogue.run (blueprint.instanceOf factory) before = (.ok found, after)) :
    found = blueprint.instanceFor factory ∧ Stores after factory := by
  rcases regular with ⟨built, holds⟩
  by_cases stored : Stores before factory
  · rcases blueprint.run_instanceOf_eq_ok.mp done with ⟨_, journal, _, requested⟩
    have kept : Stores (withJournal before journal) factory := stored
    rw [Built.resolve_of_stored kept] at requested
    cases requested
    exact ⟨rfl, stored⟩
  · have absent := holds.lookup?_eq_none stored
    cases idle : before.isResolving (blueprint.idOf factory) with
    | true => exact absurd done (Cyclic.not_ok ⟨absent, idle⟩)
    | false =>
        rcases (run_instanceOf_eq_ok_of_absent absent idle).mp done with
          ⟨_, rfl, journal, inner, _, ran, rfl⟩
        exact ⟨rfl, stores_kept ((cyclic_opened absent journal).of_run ran).1⟩

/-- A reference stands for the instance of the factory that it names. -/
theorem exists_of_resolveReference (regular : blueprint.Regular before) {reference : Reference}
    {admits : ResourceKind → Bool} {found : Instance}
    (done : blueprint.catalogue.run (blueprint.resolveReference reference admits) before =
      (.ok found, after)) :
    ∃ factory, blueprint.factoryNamed? reference.name = some factory ∧
      admits (blueprint.kindOf factory) = true ∧ found = blueprint.instanceFor factory ∧
      Stores after factory := by
  rw [resolveReference, Catalogue.run_bind_eq_ok blueprint.listed] at done
  rcases done with ⟨_, between, required, rest⟩
  have regularBetween := regular.of_asks (asks_required reference.requires) required
  rw [named] at rest
  cases named : blueprint.factoryNamed? reference.name with
  | none =>
      simp only [named, Catalogue.run_bind blueprint.listed, Catalogue.run_throw] at rest
      cases rest
  | some factory =>
      simp only [named, Catalogue.run_bind blueprint.listed, Catalogue.run_pure] at rest
      split at rest
      · next admitted =>
        rcases stores_of_instanceOf regularBetween rest with ⟨same, stored⟩
        exact ⟨factory, rfl, admitted, same, stored⟩
      · rw [Catalogue.run_throw] at rest
        cases rest

end Regular

end CloudSynth.Blueprint
