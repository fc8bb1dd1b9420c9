import CloudSynth.Proofs.Backend.Footprints
import CloudSynth.Proofs.Backend.Resolution

/-!
# What requests keep

Requests nest, and each may fail at any point. What every step of every body keeps is kept by every
request all the same (`Blueprint.Keeps.instanceOf`): what is registered stays, and while an auth or
data resource is being built no other resource touches its stack or its output.
-/

namespace CloudSynth.Blueprint

variable {blueprint : Blueprint} {α : Type}

/-! ## What every step keeps -/

/-- The states differ in nothing but the journal and which stacks have come into being. -/
structure Steady (before after : Assembly) : Prop where
  stackFor : ∀ group, after.stackSet.stackFor group = before.stackSet.stackFor group
  parameters : after.parameters = before.parameters
  outputs : after.outputs = before.outputs
  providers : after.providers = before.providers
  functions : after.functions = before.functions
  auths : after.auths = before.auths
  datas : after.datas = before.datas
  nextPolicy : after.nextPolicy = before.nextPolicy

namespace Steady

theorem refl (assembly : Assembly) : Steady assembly assembly :=
  ⟨fun _ => rfl, rfl, rfl, rfl, rfl, rfl, rfl, rfl⟩

theorem trans {first second third : Assembly} (steady : Steady first second)
    (later : Steady second third) : Steady first third where
  stackFor group := (later.stackFor group).trans (steady.stackFor group)
  parameters := later.parameters.trans steady.parameters
  outputs := later.outputs.trans steady.outputs
  providers := later.providers.trans steady.providers
  functions := later.functions.trans steady.functions
  auths := later.auths.trans steady.auths
  datas := later.datas.trans steady.datas
  nextPolicy := later.nextPolicy.trans steady.nextPolicy

theorem agrees {before after : Assembly} (steady : Steady before after) :
    blueprint.Agrees before after where
  stackFor group _ := (steady.stackFor group).symm
  parameters := steady.parameters.symm
  outputs key _ := by rw [steady.outputs]
  providers := steady.providers.symm
  functions factory := by simp only [functionIn, steady.functions]
  auths := steady.auths.symm
  datas := steady.datas.symm
  nextPolicy := steady.nextPolicy.symm

theorem put_self (assembly : Assembly) (group : String) :
    Steady assembly { assembly with
      stackSet := assembly.stackSet.put group (assembly.stackSet.stackFor group) } :=
  ⟨StackSet.stackFor_touch _ group, rfl, rfl, rfl, rfl, rfl, rfl, rfl⟩

end Steady

/-- What every step keeps while requests nest. The spared factories are being resolved all the
while, so no step is theirs. -/
structure Keeps (spared : blueprint.Factory → Prop)
    (rel : BackendContainer → BackendContainer → Prop) : Prop where
  light : ∀ {before after : BackendContainer}, after.Extends before →
    Steady before.state after.state → rel before after
  trans : ∀ {first second third : BackendContainer}, second.Extends first →
    (∀ factory : blueprint.Factory, Cyclic first factory → Cyclic second factory) →
      rel first second → rel second third → rel first third
  step : ∀ {own : blueprint.Factory} {container : BackendContainer} {state : Assembly},
    ¬ spared own → Cyclic container own →
      blueprint.Footprint (blueprint.kindOf own) own container.state state →
        rel container { container with state }

section Kept

variable {spared : blueprint.Factory → Prop} {rel : BackendContainer → BackendContainer → Prop}

theorem Composed.kept {own : blueprint.Factory} {kind : ResourceKind} {number : Nat}
    (light : ∀ container, rel container container)
    (trans : ∀ {first second third : BackendContainer}, second.Extends first →
      (∀ factory : blueprint.Factory, Cyclic first factory → Cyclic second factory) →
        rel first second → rel second third → rel first third)
    (step : ∀ {container : BackendContainer} {state : Assembly}, Cyclic container own →
      blueprint.Footprint kind number container.state state → rel container { container with state })
    {level : List (GeneratorId × String)}
    (asks : ∀ (factory : blueprint.Factory) container, container.resolving = level →
      (∀ other, spared other → Cyclic container other) →
        rel container (blueprint.catalogue.run (blueprint.instanceOf factory) container).2)
    {program : blueprint.Build α} (composed : Composed kind number program)
    {container : BackendContainer} (resolving : container.resolving = level)
    (running : Cyclic container own) (cyclic : ∀ other, spared other → Cyclic container other) :
    rel container (blueprint.catalogue.run program container).2 := by
  induction composed generalizing container with
  | finish outcome => exact light container
  | instanceOf factory => exact asks factory container resolving cyclic
  | read every ih => exact ih container.state resolving running cyclic
  | act footprint => exact step running (footprint container.state)
  | @bind _ _ program next head rest ihHead ihRest =>
      rw [Catalogue.run_bind blueprint.listed]
      have first := ihHead resolving running cyclic
      rcases ran : blueprint.catalogue.run program container with ⟨failure | result, between⟩
      · rw [ran] at first
        exact first
      · rw [ran] at first
        refine trans (Catalogue.extends_of_run blueprint.listed ran)
          (fun factory cyclic => cyclic.of_run ran) first ?_
        exact ihRest result ((Catalogue.resolving_of_run blueprint.listed ran).trans resolving)
          (running.of_run ran) fun other isSpared => (cyclic other isSpared).of_run ran

theorem run_instanceOf_eq (factory : blueprint.Factory) (container : BackendContainer) :
    ∃ journal, blueprint.catalogue.run
        (blueprint.checkDefinition (blueprint.definition factory)) container =
          (blueprint.verdict (blueprint.definition factory), withJournal container journal) ∧
      blueprint.catalogue.run (blueprint.instanceOf factory) container =
        match blueprint.verdict (blueprint.definition factory) with
        | .error failure => (.error failure, withJournal container journal)
        | .ok () =>
          match container.immediate? (blueprint.catalogue.generator factory) with
          | some answer => (answer, withJournal container journal)
          | none =>
            Container.settle (blueprint.catalogue.generator factory)
              (blueprint.catalogue.run (blueprint.build factory (blueprint.definition factory))
                (opened container factory journal)) := by
  rcases blueprint.run_checkDefinition (blueprint.definition factory) container with
    ⟨journal, checked⟩
  refine ⟨journal, checked, ?_⟩
  rw [instanceOf, Catalogue.run_bind blueprint.listed, checked]
  cases blueprint.verdict (blueprint.definition factory) with
  | error failure => rfl
  | ok =>
      cases known : container.immediate? (blueprint.catalogue.generator factory) with
      | some answer =>
          have same : (withJournal container journal).immediate?
            (blueprint.catalogue.generator factory) = some answer := known
          exact Catalogue.resolve_of_known same
      | none =>
          have same : (withJournal container journal).immediate?
            (blueprint.catalogue.generator factory) = none := known
          exact Catalogue.resolve_of_unknown blueprint.listed same

/-- What a request does: nothing but note its check, or run the body of its generator. -/
theorem run_instanceOf_cases (factory : blueprint.Factory) (container : BackendContainer) :
    ∃ journal, (∃ outcome, blueprint.catalogue.run (blueprint.instanceOf factory) container =
        (outcome, withJournal container journal)) ∨
      container.immediate? (blueprint.catalogue.generator factory) = none ∧
        blueprint.catalogue.run (blueprint.instanceOf factory) container =
          Container.settle (blueprint.catalogue.generator factory)
            (blueprint.catalogue.run (blueprint.build factory (blueprint.definition factory))
              (opened container factory journal)) := by
  rcases run_instanceOf_eq factory container with ⟨journal, _, ran⟩
  refine ⟨journal, ?_⟩
  rw [ran]
  cases blueprint.verdict (blueprint.definition factory) with
  | error failure => exact Or.inl ⟨_, rfl⟩
  | ok =>
      cases known : container.immediate? (blueprint.catalogue.generator factory) with
      | some answer => exact Or.inl ⟨_, rfl⟩
      | none => exact Or.inr ⟨rfl, rfl⟩

theorem cyclic_opened_of_ne {container : BackendContainer} {factory other : blueprint.Factory}
    (cyclic : Cyclic container other) (journal : Journal) :
    Cyclic (opened container factory journal) other := by
  refine ⟨cyclic.1, ?_⟩
  have entered := Container.isResolving_enter container (blueprint.catalogue.generator factory)
    (blueprint.idOf other)
  rw [cyclic.2, Bool.true_or] at entered
  exact entered

theorem steady_opened (container : BackendContainer) (factory : blueprint.Factory)
    (journal : Journal) : Steady container.state (opened container factory journal).state :=
  ⟨fun _ => StackSet.stackFor_touch _ _ _, rfl, rfl, rfl, rfl, rfl, rfl, rfl⟩

/-- What every step keeps, every request keeps, whether it succeeds or fails. -/
theorem Keeps.instanceOf (keeps : Keeps spared rel) (factory : blueprint.Factory)
    (container : BackendContainer) (cyclic : ∀ other, spared other → Cyclic container other) :
    rel container (blueprint.catalogue.run (blueprint.instanceOf factory) container).2 := by
  -- By induction on how deep requests nest: the steps of the body keep the relation, and so do the
  -- requests that it makes (`nested`).
  revert cyclic
  refine Catalogue.request_induction
    (motive := fun factory container => (∀ other, spared other → Cyclic container other) →
      rel container (blueprint.catalogue.run (blueprint.instanceOf factory) container).2)
    blueprint.listed ?_ factory container
  intro factory container nested cyclic
  rcases run_instanceOf_cases factory container with
    ⟨journal, ⟨outcome, noted⟩ | ⟨unknown, ran⟩⟩
  · rw [noted]
    exact keeps.light (.refl _) ⟨fun _ => rfl, rfl, rfl, rfl, rfl, rfl, rfl, rfl⟩
  · rcases Container.immediate?_eq_none_iff.mp unknown with ⟨absent, idle⟩
    -- A spared factory is being resolved, and its body is not run a second time.
    have notSpared : ¬ spared factory := by
      intro isSpared
      have running := (cyclic factory isSpared).2
      rw [show container.isResolving (blueprint.idOf factory) = false from idle] at running
      cases running
    have begun : rel container (opened container factory journal) :=
      keeps.light (.refl _) (steady_opened container factory journal)
    have body : rel (opened container factory journal) (blueprint.catalogue.run
        (blueprint.build factory (blueprint.definition factory))
        (opened container factory journal)).2 :=
      (composed_build factory).kept (fun _ => keeps.light (.refl _) (.refl _)) keeps.trans
        (keeps.step notSpared) (nested unknown) rfl (cyclic_opened absent journal)
        fun other isSpared => cyclic_opened_of_ne (cyclic other isSpared) journal
    rw [ran]
    rcases ended : blueprint.catalogue.run
      (blueprint.build factory (blueprint.definition factory)) (opened container factory journal)
        with ⟨outcome, inner⟩
    rw [ended] at body
    have extended : inner.Extends (opened container factory journal) :=
      Catalogue.extends_of_run blueprint.listed ended
    have throughout : ∀ other : blueprint.Factory, Cyclic container other → Cyclic inner other :=
      fun other running => (cyclic_opened_of_ne running journal).of_run ended
    have opening : ∀ other : blueprint.Factory, Cyclic container other →
        Cyclic (opened container factory journal) other :=
      fun other running => cyclic_opened_of_ne running journal
    have same : (opened container factory journal).Extends container := fun _ _ stored => stored
    have ran := keeps.trans same opening begun body
    refine keeps.trans extended throughout ran (keeps.light (Container.extends_settle _ _) ?_)
    rw [Container.state_settle]
    exact .refl _

end Kept

/-! ## What every request keeps -/

/-- What later requests can rely on: what is registered stays, and so do the user pools of the auth
resources that are there. -/
structure Advances (blueprint : Blueprint) (before after : BackendContainer) : Prop where
  providers : after.state.providers = before.state.providers
  registered : ∀ group logicalId, (before.state.stackSet.stackFor group).has logicalId = true →
    (after.state.stackSet.stackFor group).has logicalId = true
  pools : ∀ factory : blueprint.Factory, Stores before factory →
    (after.state.auths.find? factory).map BuiltAuth.poolId =
      (before.state.auths.find? factory).map BuiltAuth.poolId

theorem advances_of_steady {before after : BackendContainer}
    (steady : Steady before.state after.state) : blueprint.Advances before after where
  providers := steady.providers
  registered group logicalId there := by rw [steady.stackFor]; exact there
  pools _ _ := by rw [steady.auths]

theorem Advances.trans {first second third : BackendContainer} (extended : second.Extends first)
    (advances : blueprint.Advances first second) (later : blueprint.Advances second third) :
    blueprint.Advances first third where
  providers := later.providers.trans advances.providers
  registered group logicalId there :=
    later.registered group logicalId (advances.registered group logicalId there)
  pools factory stored :=
    (later.pools factory (extended _ _ stored)).trans (advances.pools factory stored)

theorem keeps_advances :
    Keeps (fun _ : blueprint.Factory => False) blueprint.Advances where
  light _ steady := advances_of_steady steady
  trans extended _ advances later := advances.trans extended later
  step := by
    intro own container state _ running footprint
    refine ⟨footprint.providers, ?_, ?_⟩
    · intro group logicalId there
      by_cases same : group = (blueprint.kindOf own).group
      · subst same
        exact footprint.registered logicalId there
      · change (state.stackSet.stackFor group).has logicalId = true
        rw [footprint.stackFor group same]
        exact there
    · intro factory stored
      apply footprint.pools
      intro same
      have absent := running.1
      rw [← Fin.ext same, stored] at absent
      cases absent

theorem advances_instanceOf (factory : blueprint.Factory) (container : BackendContainer) :
    blueprint.Advances container
      (blueprint.catalogue.run (blueprint.instanceOf factory) container).2 :=
  keeps_advances.instanceOf factory container fun _ none => none.elim

theorem advances_of_composed {own : blueprint.Factory} {program : blueprint.Build α}
    (composed : Composed (blueprint.kindOf own) own program) {container : BackendContainer}
    (running : Cyclic container own) :
    blueprint.Advances container (blueprint.catalogue.run program container).2 := by
  exact composed.kept (fun _ => keeps_advances.light (.refl _) (.refl _)) keeps_advances.trans
    (keeps_advances.step id) (fun factory inner _ _ => advances_instanceOf factory inner) rfl
      running
    fun _ (none : False) => none.elim

/-! ### Resources that are being built -/

/-- The factory is the only one of its kind. -/
def Sole (factory : blueprint.Factory) : Prop :=
  ∀ other, blueprint.kindOf other = blueprint.kindOf factory → other = factory

/-- The stack and the output of a resource are the same. -/
structure SameOwn (factory : blueprint.Factory) (before after : BackendContainer) : Prop where
  stack : after.state.stackSet.stackFor (blueprint.kindOf factory).group =
    before.state.stackSet.stackFor (blueprint.kindOf factory).group
  output : after.state.outputs.find? (blueprint.kindOf factory).outputKey =
    before.state.outputs.find? (blueprint.kindOf factory).outputKey

theorem SameOwn.trans {factory : blueprint.Factory} {first second third : BackendContainer}
    (same : SameOwn factory first second) (later : SameOwn factory second third) :
    SameOwn factory first third :=
  ⟨later.stack.trans same.stack, later.output.trans same.output⟩

theorem sameOwn_of_steady {factory : blueprint.Factory} {before after : BackendContainer}
    (steady : Steady before.state after.state) : SameOwn factory before after :=
  ⟨steady.stackFor _, by rw [steady.outputs]⟩

theorem group_ne_of_ne {kind other : ResourceKind} (notHandler : handles kind = false)
    (different : other ≠ kind) : kind.group ≠ other.group ∧ kind.outputKey ≠ other.outputKey := by
  cases kind <;> cases other <;> first | contradiction | exact ⟨by decide, by decide⟩

/-- While an auth or data resource is being built that is the only one of its kind, no request
touches its stack or its output. -/
theorem keeps_sameOwn {factory : blueprint.Factory} (other : ¬ blueprint.IsHandler factory)
    (sole : Sole factory) : Keeps (· = factory) (SameOwn factory) where
  light _ steady := sameOwn_of_steady steady
  trans _ _ same later := same.trans later
  step := by
    intro own container state notSpared _ footprint
    have different : blueprint.kindOf own ≠ blueprint.kindOf factory :=
      fun same => notSpared (sole own same)
    rcases group_ne_of_ne (Bool.not_eq_true _ ▸ other) different with ⟨group, key⟩
    exact ⟨footprint.stackFor _ group, footprint.outputs _ key⟩

/-- Programs that only ask for instances or hand out grants leave the resource alone that is being
built. Their steps belong to no resource, so they count as those of a stub. -/
theorem sameOwn_of_composed {factory : blueprint.Factory} (other : ¬ blueprint.IsHandler factory)
    (sole : Sole factory) {program : blueprint.Build α} (composed : Composed .stub 0 program)
    {before after : BackendContainer} (running : Cyclic before factory)
    {outcome : Except BackendError α}
    (done : blueprint.catalogue.run program before = (outcome, after)) :
    SameOwn factory before after := by
  have keeps := keeps_sameOwn other sole
  have kept := composed.kept (fun _ => ⟨rfl, rfl⟩) keeps.trans ?step
    (fun asked inner _ spared => keeps.instanceOf asked inner spared) rfl running
    (fun spared isFactory => isFactory ▸ running)
  case step =>
    intro inner state _ footprint
    have different : ResourceKind.stub ≠ blueprint.kindOf factory := by
      intro same
      exact other (by rw [IsHandler, ← same]; rfl)
    rcases group_ne_of_ne (Bool.not_eq_true _ ▸ other) different with ⟨group, key⟩
    exact ⟨footprint.stackFor _ group, footprint.outputs _ key⟩
  rwa [done] at kept

end CloudSynth.Blueprint
