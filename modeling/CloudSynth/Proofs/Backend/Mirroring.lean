import CloudSynth.Proofs.Backend.Asking
import CloudSynth.Proofs.Backend.Requests

/-!
# Runs on backends with other functions

Two backends that differ in nothing but which functions they have built are told apart by no program
that succeeds on one of them: it succeeds on the other with the same result, and again they differ
in nothing but their functions (`Blueprint.Mirrors`). The condition is that all functions involved
can be built together. This holds of requests, since a function that is missing is built when it is
asked for, and of changes that touch no functions; it carries over to sequences, and so to what
resolves references and settles settings, and to the arbitration of grants.

What only asks for functions leaves a state that agrees with the one it began in; the frame of
`Mirrors` records this.
-/

namespace CloudSynth.Blueprint

variable {blueprint : Blueprint} {allowed : blueprint.Factory → Prop} {α β : Type}

/-! ## Pairs of containers -/

/-- The containers differ in nothing but which of the allowed functions they have built. -/
structure Paired (allowed : blueprint.Factory → Prop) (first second : BackendContainer) : Prop where
  left : ∃ built, blueprint.Built first built ∧ ∀ factory ∈ built, allowed factory
  right : ∃ built, blueprint.Built second built ∧ ∀ factory ∈ built, allowed factory
  others : blueprint.SameOthers first second
  agrees : blueprint.Agrees first.state second.state

/-- The functions of the container are allowed. -/
def Within (allowed : blueprint.Factory → Prop) (container : BackendContainer) : Prop :=
  ∀ factory, blueprint.IsHandler factory → Stores container factory → allowed factory

theorem Paired.symm {first second : BackendContainer} (paired : Paired allowed first second) :
    Paired allowed second first :=
  ⟨paired.right, paired.left, fun factory other => (paired.others factory other).symm,
    paired.agrees.symm⟩

theorem Paired.trans {first second third : BackendContainer}
    (paired : Paired allowed first second) (later : Paired allowed second third) :
    Paired allowed first third :=
  ⟨paired.left, later.right,
    fun factory other => (paired.others factory other).trans (later.others factory other),
    paired.agrees.trans later.agrees⟩

theorem Within.of_extends {before after : BackendContainer} (within : Within allowed after)
    (extends_before : after.Extends before) : Within allowed before :=
  fun factory handler stored => within factory handler (extends_before _ _ stored)

theorem Built.within {container : BackendContainer} {built : List blueprint.Factory}
    (self : blueprint.Built container built) :
    Within allowed container ↔ ∀ factory ∈ built, allowed factory := by
  constructor
  · intro within factory factory_mem
    have handler := self.handlers factory factory_mem
    exact within factory handler ((self.stored factory handler).mp factory_mem)
  · intro every factory handler stored
    exact every factory ((self.stored factory handler).mpr stored)

theorem Built.paired_self {container : BackendContainer} {built : List blueprint.Factory}
    (self : blueprint.Built container built) (within : Within allowed container) :
    Paired allowed container container :=
  ⟨⟨built, self, self.within.mp within⟩, ⟨built, self, self.within.mp within⟩, fun _ _ => rfl,
    .refl _⟩

/-- What a run on the first container has done, and the same run on the second. -/
structure Reflects (allowed : blueprint.Factory → Prop)
    (first second firstAfter secondAfter : BackendContainer) : Prop where
  paired : Paired allowed firstAfter secondAfter
  closedFirst : blueprint.Closed firstAfter
  closedSecond : blueprint.Closed secondAfter
  othersFirst : blueprint.SameOthers firstAfter first
  othersSecond : blueprint.SameOthers secondAfter second
  /-- The functions that the run on the first container has built are there on the second. -/
  covered : ∀ factory, blueprint.IsHandler factory → Stores firstAfter factory →
    Stores first factory ∨ Stores secondAfter factory

/-- What a program may do to the state. -/
structure Frame where
  rel : Assembly → Assembly → Prop
  refl : ∀ assembly, rel assembly assembly
  trans : ∀ {first second third}, rel first second → rel second third → rel first third

/-- Anything may be done but change who provides what. -/
def Frame.loose : Frame :=
  ⟨fun before after => after.providers = before.providers, fun _ => rfl,
    fun first second => second.trans first⟩

/-- Nothing may be done but build functions. -/
def Frame.steady (blueprint : Blueprint) : Frame :=
  ⟨blueprint.Agrees, .refl, .trans⟩

/-- What is built on one side can be built on the other: the allowed functions can be built
together, or both sides are one. -/
def Joint (allowed : blueprint.Factory → Prop) (first second : BackendContainer) : Prop :=
  Compatible allowed ∨ first = second

theorem Joint.of_run {first second firstAfter secondAfter : BackendContainer}
    (joint : Joint allowed first second) {program : blueprint.Build α}
    {outcome outcomeSecond : Except BackendError α}
    (done : blueprint.catalogue.run program first = (outcome, firstAfter))
    (doneSecond : blueprint.catalogue.run program second = (outcomeSecond, secondAfter)) :
    Joint allowed firstAfter secondAfter := by
  rcases joint with compatible | rfl
  · exact Or.inl compatible
  · rw [done] at doneSecond
    exact Or.inr (congrArg Prod.snd doneSecond)

/-- A program that succeeds on a container succeeds on every container that differs in nothing but
functions, while nothing but functions can be built. -/
def Mirrors (allowed : blueprint.Factory → Prop) (frame : Frame) (program : blueprint.Build α) :
    Prop :=
  ∀ first second, Paired allowed first second → Joint allowed first second →
    blueprint.Closed first → blueprint.Closed second → ∀ result firstAfter,
      blueprint.catalogue.run program first = (.ok result, firstAfter) →
      Within allowed firstAfter →
        frame.rel first.state firstAfter.state ∧
          ∃ secondAfter, blueprint.catalogue.run program second = (.ok result, secondAfter) ∧
            Reflects allowed first second firstAfter secondAfter

/-! ## Programs that only ask -/

theorem Reflects.refl {first second : BackendContainer} (paired : Paired allowed first second)
    (closedFirst : blueprint.Closed first) (closedSecond : blueprint.Closed second) :
    Reflects allowed first second first second :=
  ⟨paired, closedFirst, closedSecond, fun _ _ => rfl, fun _ _ => rfl, fun _ _ => Or.inl⟩

theorem Reflects.trans {first second firstBetween secondBetween firstAfter secondAfter :
      BackendContainer} (reflects : Reflects allowed first second firstBetween secondBetween)
    (later : Reflects allowed firstBetween secondBetween firstAfter secondAfter)
    (extended : secondAfter.Extends secondBetween) :
    Reflects allowed first second firstAfter secondAfter := by
  refine ⟨later.paired, later.closedFirst, later.closedSecond, ?_, ?_, ?_⟩
  · intro factory other
    rw [later.othersFirst factory other, reflects.othersFirst factory other]
  · intro factory other
    rw [later.othersSecond factory other, reflects.othersSecond factory other]
  · intro factory handler stored
    rcases later.covered factory handler stored with between | after
    · rcases reflects.covered factory handler between with before | there
      · exact Or.inl before
      · exact Or.inr (extended _ _ there)
    · exact Or.inr after

theorem mirrors_of_outcome {frame : Frame} {program : blueprint.Build α}
    (outcome : Except BackendError α)
    (evaluates : ∀ container, blueprint.catalogue.run program container = (outcome, container)) :
    Mirrors allowed frame program := by
  intro first second paired joint closedFirst closedSecond result firstAfter done within
  rw [evaluates] at done
  cases done
  exact ⟨frame.refl _, second, evaluates second, .refl paired closedFirst closedSecond⟩

theorem mirrors_pure {frame : Frame} (result : α) :
    Mirrors allowed frame (pure result : blueprint.Build α) :=
  mirrors_of_outcome _ fun _ => rfl

theorem mirrors_ofExcept {frame : Frame} (outcome : Except BackendError α) :
    Mirrors allowed frame (Program.ofExcept outcome : blueprint.Build α) :=
  mirrors_of_outcome _ fun _ => rfl

/-- A request is mirrored: the function is there on the other side, or can be built. -/
theorem mirrors_instanceOf (factory : blueprint.Factory) :
    Mirrors allowed (.steady blueprint) (blueprint.instanceOf factory) := by
  intro first second paired joint closedFirst closedSecond result firstAfter done within
  rcases paired.left with ⟨builtFirst, holdsFirst, _⟩
  rcases paired.right with ⟨builtSecond, holdsSecond, allowedSecond⟩
  rcases holdsFirst.of_instanceOf (closedFirst factory) done with ⟨rfl, obtains⟩
  have answers : ∃ secondAfter, blueprint.catalogue.run (blueprint.instanceOf factory) second =
      (.ok (blueprint.instanceFor factory), secondAfter) := by
    rcases joint with compatible | rfl
    · -- What the second side lacks is a function that is allowed, so there is room for it.
      refine holdsSecond.exists_instanceOf (blueprint.run_instanceOf_eq_ok.mp done).1 ?_
      by_cases handler : blueprint.IsHandler factory
      · by_cases there : factory ∈ builtSecond
        · exact Or.inl ((holdsSecond.stored factory handler).mp there)
        · have included := within factory handler obtains.stored
          exact Or.inr ⟨handler, compatible.fits holdsSecond allowedSecond included there⟩
      · have kept := (obtains.others factory handler).symm.trans obtains.stored
        exact Or.inl ((paired.others factory handler).symm.trans kept)
    · exact ⟨firstAfter, done⟩
  rcases answers with ⟨secondAfter, answered⟩
  rcases holdsSecond.of_instanceOf (closedSecond factory) answered with ⟨_, obtainsSecond⟩
  refine ⟨obtains.agrees, secondAfter, answered, ?_⟩
  have resolvingFirst : firstAfter.resolving = first.resolving :=
    Catalogue.resolving_of_run blueprint.listed done
  have resolvingSecond : secondAfter.resolving = second.resolving :=
    Catalogue.resolving_of_run blueprint.listed answered
  constructor
  case paired =>
    rcases obtains.built with ⟨laterFirst, holdsLaterFirst⟩
    rcases obtainsSecond.built with ⟨laterSecond, holdsLaterSecond⟩
    refine ⟨⟨laterFirst, holdsLaterFirst, holdsLaterFirst.within.mp within⟩,
      ⟨laterSecond, holdsLaterSecond, holdsLaterSecond.within.mp ?_⟩, ?_,
      (obtains.agrees.symm.trans paired.agrees).trans obtainsSecond.agrees⟩
    · intro other handler stored
      rcases obtainsSecond.only other handler stored with rfl | before
      · exact within other handler obtains.stored
      · exact holdsSecond.within.mpr allowedSecond other handler before
    · intro other handler
      rw [obtains.others other handler, paired.others other handler,
        obtainsSecond.others other handler]
  case closedFirst =>
    exact closedFirst.congr obtains.others resolvingFirst obtains.agrees.providers.symm
  case closedSecond =>
    exact closedSecond.congr obtainsSecond.others resolvingSecond
      obtainsSecond.agrees.providers.symm
  case othersFirst => exact obtains.others
  case othersSecond => exact obtainsSecond.others
  case covered =>
    intro other handler stored
    rcases obtains.only other handler stored with rfl | before
    · exact Or.inr obtainsSecond.stored
    · exact Or.inl before

/-! ## Sequences -/

namespace Mirrors

variable {frame : Frame}

theorem bind {program : blueprint.Build α} {next : α → blueprint.Build β}
    (head : Mirrors allowed frame program) (rest : ∀ result, Mirrors allowed frame (next result)) :
    Mirrors allowed frame (program >>= next) := by
  intro first second paired joint closedFirst closedSecond result firstAfter done within
  rw [Catalogue.run_bind_eq_ok blueprint.listed] at done
  rcases done with ⟨middle, firstBetween, ran, continued⟩
  have extended := Catalogue.extends_of_run blueprint.listed continued
  rcases head first second paired joint closedFirst closedSecond middle firstBetween ran
    (within.of_extends extended) with ⟨framed, secondBetween, ranSecond, reflects⟩
  rcases rest middle firstBetween secondBetween reflects.paired (joint.of_run ran ranSecond)
    reflects.closedFirst reflects.closedSecond result firstAfter continued within with
      ⟨framedLater, secondAfter, continuedSecond, later⟩
  have extendedSecond := Catalogue.extends_of_run blueprint.listed continuedSecond
  refine ⟨frame.trans framed framedLater, secondAfter, ?_, reflects.trans later extendedSecond⟩
  rw [Catalogue.run_bind_eq_ok blueprint.listed]
  exact ⟨middle, secondBetween, ranSecond, continuedSecond⟩

theorem discard {program : blueprint.Build α} (mirrors : Mirrors allowed frame program) :
    Mirrors allowed frame (discard program) :=
  mirrors.bind fun _ => mirrors_pure _

theorem forM_option {act : α → blueprint.Build PUnit}
    (every : ∀ item, Mirrors allowed frame (act item)) (item : Option α) :
    Mirrors allowed frame (item.forM act) := by
  cases item with
  | none => exact mirrors_pure _
  | some item => exact every item

theorem loose {program : blueprint.Build α} (mirrors : Mirrors allowed frame program)
    (keeps : ∀ before after, frame.rel before after → after.providers = before.providers) :
    Mirrors allowed .loose program := by
  intro first second paired joint closedFirst closedSecond result firstAfter done within
  rcases mirrors first second paired joint closedFirst closedSecond result firstAfter done
    within with ⟨framed, mirrored⟩
  exact ⟨keeps _ _ framed, mirrored⟩

theorem ofSteady {program : blueprint.Build α}
    (mirrors : Mirrors allowed (.steady blueprint) program) : Mirrors allowed .loose program :=
  mirrors.loose fun _ _ agrees => Eq.symm (SameAssets.providers (Agrees.toSameAssets agrees))

theorem alone {program : blueprint.Build α} (mirrors : Mirrors (fun _ => True) frame program)
    {before after : BackendContainer} {result : α} (holds : ∃ built, blueprint.Built before built)
    (closed : blueprint.Closed before)
    (done : blueprint.catalogue.run program before = (.ok result, after)) :
    frame.rel before.state after.state ∧ (∃ built, blueprint.Built after built) ∧
      blueprint.Closed after ∧ blueprint.SameOthers after before := by
  rcases holds with ⟨built, holds⟩
  rcases mirrors before before (holds.paired_self fun _ _ _ => trivial) (Or.inr rfl) closed closed
    result after done (fun _ _ _ => trivial) with ⟨framed, _, _, reflects⟩
  rcases reflects.paired.left with ⟨later, holdsLater, _⟩
  exact ⟨framed, ⟨later, holdsLater⟩, reflects.closedFirst, reflects.othersFirst⟩

end Mirrors

theorem Asks.mirrors {program : blueprint.Build α} (asks : Asks program) :
    Mirrors allowed (.steady blueprint) program := by
  induction asks with
  | finish outcome => exact mirrors_ofExcept outcome
  | instanceOf factory => exact mirrors_instanceOf factory
  | bind head rest ihHead ihRest => exact ihHead.bind ihRest

/-! ## Changes that build no functions -/

/-- The states have the same functions, though a function may have changed. -/
structure Aside (before after : Assembly) : Prop where
  keys : after.functions.keys = before.functions.keys
  stack : after.stackSet.stackFor ResourceKind.function.group =
    before.stackSet.stackFor ResourceKind.function.group
  listed : after.outputs.list functionOutputKey definedFunctionsField =
    before.outputs.list functionOutputKey definedFunctionsField
  identifier : after.parameters.identifier = before.parameters.identifier
  providers : after.providers = before.providers

theorem Built.aside {container : BackendContainer} {built : List blueprint.Factory}
    {state : Assembly} (self : blueprint.Built container built)
    (aside : Aside container.state state) : blueprint.Built { container with state } built where
  entries := self.entries
  stored := self.stored
  handlers := self.handlers
  idle := self.idle
  keys := aside.keys.trans self.keys
  stack := aside.stack.trans self.stack
  distinct := self.distinct
  identifier := aside.identifier.trans self.identifier
  listed := aside.listed.trans self.listed

theorem Closed.aside {container : BackendContainer} {state : Assembly}
    (closed : blueprint.Closed container) (aside : Aside container.state state) :
    blueprint.Closed { container with state } :=
  closed.congr (fun _ _ => rfl) rfl aside.providers

theorem reflects_change {first second : BackendContainer} {firstState secondState : Assembly}
    (paired : Paired allowed first second) (closedFirst : blueprint.Closed first)
    (closedSecond : blueprint.Closed second) (asideFirst : Aside first.state firstState)
    (asideSecond : Aside second.state secondState)
    (agrees : blueprint.Agrees firstState secondState) :
    Reflects allowed first second { first with state := firstState }
      { second with state := secondState } := by
  rcases paired.left with ⟨builtFirst, holdsFirst, allowedFirst⟩
  rcases paired.right with ⟨builtSecond, holdsSecond, allowedSecond⟩
  refine ⟨⟨⟨builtFirst, holdsFirst.aside asideFirst, allowedFirst⟩,
    ⟨builtSecond, holdsSecond.aside asideSecond, allowedSecond⟩, paired.others, agrees⟩,
    closedFirst.aside asideFirst, closedSecond.aside asideSecond, fun _ _ => rfl, fun _ _ => rfl,
    fun _ _ => Or.inl⟩

theorem mirrors_step {frame : Frame} {program : blueprint.Build α}
    (step : Assembly → Except BackendError α × Assembly)
    (evaluates : ∀ container, blueprint.catalogue.run program container =
      ((step container.state).1, { container with state := (step container.state).2 }))
    (framed : ∀ assembly, frame.rel assembly (step assembly).2)
    (aside : ∀ assembly, Aside assembly (step assembly).2)
    (same : ∀ first second, blueprint.Agrees first second →
      (step first).1 = (step second).1 ∧ blueprint.Agrees (step first).2 (step second).2) :
    Mirrors allowed frame program := by
  intro first second paired joint closedFirst closedSecond result firstAfter done within
  rcases same first.state second.state paired.agrees with ⟨outcome, agrees⟩
  rw [evaluates] at done
  rcases Prod.mk.injEq .. ▸ done with ⟨succeeded, rfl⟩
  refine ⟨framed first.state, { second with state := (step second.state).2 }, ?_, ?_⟩
  · rw [evaluates, ← outcome, succeeded]
  · exact reflects_change paired closedFirst closedSecond (aside first.state) (aside second.state)
      agrees

theorem mirrors_modify {frame : Frame} {change : Assembly → Assembly}
    (framed : ∀ assembly, frame.rel assembly (change assembly))
    (aside : ∀ assembly, Aside assembly (change assembly))
    (same : ∀ first second, blueprint.Agrees first second →
      blueprint.Agrees (change first) (change second)) :
    Mirrors allowed frame (modify change : blueprint.Build PUnit) :=
  mirrors_step (fun assembly => (.ok (), change assembly)) (fun _ => rfl) framed aside
    fun first second agrees => ⟨rfl, same first second agrees⟩

end CloudSynth.Blueprint
