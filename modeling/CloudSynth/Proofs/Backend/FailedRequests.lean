import CloudSynth.Proofs.Backend.Failures
import CloudSynth.Proofs.Backend.Synthesis

/-!
# Backends on which requests have failed

Whatever was requested of a backend before and whatever became of it, a request for an auth or data
resource that fails is either as good as not made, or it has left resources behind with which every
request for them collides from then on (`Blueprint.undone_or_stuck`). Which it is depends on how far
the request got: nothing is rolled back, and everything that a resource refers to is resolved before
its first registration.
-/

namespace CloudSynth

/-- The backends that requests lead to: resources are added, and instances are requested, whether or
not they can be built. -/
inductive Backend.Reachable (blueprint : Blueprint) : Backend → Prop
  | new (journal : Journal) : Reachable blueprint (.new blueprint.configuration journal)
  | add {backend : Backend} (reachable : Reachable blueprint backend) (name : String)
    (factory : blueprint.Factory) :
    Reachable blueprint (backend.add name factory (blueprint.definition factory))
  | getInstance {backend : Backend} (reachable : Reachable blueprint backend)
    (factory : blueprint.Factory) :
    Reachable blueprint (backend.getInstance blueprint factory).2

namespace Blueprint

variable {blueprint : Blueprint}

/-! ## Reachable backends -/

theorem Regular.add {backend : Backend} (regular : blueprint.Regular backend.container)
    (name : String) (factory : blueprint.Factory) :
    blueprint.Regular (backend.add name factory (blueprint.definition factory)).container := by
  rcases regular with ⟨built, holds⟩
  rw [add_eq]
  exact ⟨built, holds.entries, holds.stored, holds.handlers, holds.idle, holds.keys, holds.stack,
    holds.distinct, holds.identifier, holds.listed⟩

theorem regular_of_reachable {backend : Backend} (reachable : backend.Reachable blueprint) :
    blueprint.Regular backend.container := by
  induction reachable with
  | new journal =>
      have empty : blueprint.Built (Backend.holding blueprint journal []).container [] :=
        built_holding
      exact ⟨[], empty⟩
  | add reachable name factory ih => exact ih.add name factory
  | getInstance reachable factory ih => exact regular_instanceOf factory _ ih

/-! ## What answered requests have done -/

theorem Trace.extends_before {before after : BackendContainer}
    (trace : blueprint.Trace before after) : after.Extends before := by
  induction trace with
  | refl => exact .refl before
  | tail trace answered ih =>
      refine Container.Extends.trans ?_ ih
      rcases answered with still | ⟨factory, found, _, done⟩
      · exact still.extends_first
      · exact Catalogue.extends_of_run blueprint.listed done

/-- Requests that have built no auth or data resource have built functions at most. -/
theorem Trace.agrees {before after : BackendContainer} (trace : blueprint.Trace before after)
    (none : ∀ other, ¬ blueprint.IsHandler other → Stores after other → Stores before other) :
    blueprint.Agrees before.state after.state := by
  induction trace using Relation.ReflTransGen.head_induction_on with
  | refl => exact .refl _
  | @head first second answered rest ih =>
      have extended : after.Extends second := Trace.extends_before rest
      rcases answered with still | ⟨factory, found, ⟨built, holds⟩, done⟩
      · refine still.steady.agrees.trans (ih fun other notHandler stored => ?_)
        exact still.extends_first _ _ (none other notHandler stored)
      · have there := (stores_of_instanceOf ⟨built, holds⟩ done).2
        have obtains := (holds.of_instanceOf
          (fun notHandler => .inl (none factory notHandler (extended _ _ there))) done).2
        refine obtains.agrees.trans (ih fun other notHandler stored => ?_)
        exact (Catalogue.extends_of_run blueprint.listed done) _ _ (none other notHandler stored)

/-! ## Requests that fail -/

/-- The request has failed and is as good as not made: nothing was done but by requests that were
answered, and it fails alike when it is made again. -/
structure Undone (factory : blueprint.Factory) (failure : BackendError) (before after : Backend) :
    Prop where
  trace : blueprint.Trace before.container after.container
  /-- Its stack has the resources it had, and its output is as before. -/
  own : Sole factory → SameOwn factory before.container after.container
  /-- Parameters, outputs and roles are as before, unless another auth or data resource was built
  that the resource refers to. -/
  agrees : (∀ other, ¬ blueprint.IsHandler other → Stores after.container other →
    Stores before.container other) → blueprint.Agrees before.assembly after.assembly
  again : ∃ ended, after.getInstance blueprint factory = (.error failure, ended) ∧
    Still after.container ended.container

/-- The request has failed and has left `left` half built: the resource itself, or one that was
requested on the way. When it is made again it collides with what is left. -/
structure Stuck (left : blueprint.Factory) (logicalId : String) (factory : blueprint.Factory)
    (failure : BackendError) (before after : Backend) : Prop where
  abandoned : Abandoned left logicalId before.container after.container
  /-- The request for `left` has failed with the same error, after it had begun to register its
  resource. If it is another, it was requested while this one was being built. -/
  stalled : ∃ first, StalledAt left logicalId failure before.container first after.container ∧
    (left ≠ factory → Cyclic first factory)
  own : left ≠ factory → Sole factory → SameOwn factory before.container after.container
  again : ∃ ended, after.getInstance blueprint factory =
      (.error (collision (blueprint.kindOf left) logicalId after.assembly), ended) ∧
    Still after.container ended.container

/-- The request has failed while its resource was being registered: up to `between` it was as good
as not made, and since then only its stack has changed. -/
structure Unfinished (factory : blueprint.Factory) (before after : Backend)
    (between : BackendContainer) : Prop
    extends Halted factory before.container between after.container where
  /-- Parameters, outputs and roles are as before, unless another auth or data resource was built
  that the resource refers to. -/
  agrees : (∀ other, ¬ blueprint.IsHandler other → Stores after.container other →
    Stores before.container other) → blueprint.Agrees before.assembly between.state

theorem Recurs.again {factory : blueprint.Factory} {failure : BackendError} {after : Backend}
    (recurs : Recurs (blueprint.instanceOf factory) failure after.container) :
    ∃ ended, after.getInstance blueprint factory = (.error failure, ended) ∧
      Still after.container ended.container := by
  rcases recurs after.container (.refl _) rfl with ⟨ended, failed, still⟩
  refine ⟨{ after with container := ended }, ?_, still⟩
  simp only [Backend.getInstance, Backend.run, failed]

theorem Halted.unfinished {factory : blueprint.Factory} {before after : Backend}
    {between : BackendContainer}
    (halted : Halted factory before.container between after.container) :
    Unfinished factory before after between where
  toHalted := halted
  agrees none := halted.trace.agrees fun other notHandler stored =>
    none other notHandler (by rwa [Stores, Container.lookup?, halted.entries])

theorem Unfinished.output {factory : blueprint.Factory} {before after : Backend}
    {between : BackendContainer} (unfinished : Unfinished factory before after between)
    (sole : Sole factory) :
    after.assembly.outputs.find? (blueprint.kindOf factory).outputKey =
      before.assembly.outputs.find? (blueprint.kindOf factory).outputKey := by
  calc after.assembly.outputs.find? (blueprint.kindOf factory).outputKey
      = between.state.outputs.find? (blueprint.kindOf factory).outputKey :=
        congrArg (·.find? (blueprint.kindOf factory).outputKey) unfinished.besides.outputs
    _ = before.assembly.outputs.find? (blueprint.kindOf factory).outputKey :=
        (unfinished.own sole).output

/-- A request for an auth or data resource that fails before the resource begins to be registered is
as good as not made, or another resource that was requested on the way is left half built. One that
fails later leaves its own resource half built; if its construct was not created, then only its
stack shows it. -/
theorem undone_or_stuck {backend after : Backend} {factory : blueprint.Factory}
    {failure : BackendError} (reachable : backend.Reachable blueprint)
    (other : ¬ blueprint.IsHandler factory)
    (failed : backend.getInstance blueprint factory = (.error failure, after)) :
    (∀ logicalId created, ¬ Registers factory logicalId created backend.container) ∧
      (Undone factory failure backend after ∨
        ∃ left logicalId, left ≠ factory ∧ Stuck left logicalId factory failure backend after) ∨
    ∃ logicalId created, Registers factory logicalId created backend.container ∧
      Stuck factory logicalId factory failure backend after ∧
      (created = false → ∃ between, Unfinished factory backend after between) := by
  have ran : blueprint.catalogue.run (blueprint.instanceOf factory) backend.container =
      (.error failure, after.container) := by
    simp only [Backend.getInstance, Backend.run, Prod.mk.injEq] at failed
    exact Prod.ext failed.1 (congrArg Backend.container failed.2)
  have known : ∀ level, blueprint.FailsAt level :=
    fun _ factory before after failure _ regular failed =>
      fails_instanceOf factory before regular failure after failed
  rcases fails_request other (fun _ => known _) (regular_of_reachable reachable) ran with
    ⟨unregistered, early, own⟩ | ⟨logicalId, created, registers, abandoned, recurs, halted⟩
  · refine Or.inl ⟨unregistered, ?_⟩
    rcases early with ⟨trace, recurs⟩ |
      ⟨left, logicalId, first, within, abandoned, stalled, recurs⟩
    · exact Or.inl ⟨trace, own, Trace.agrees trace, recurs.again⟩
    · have different : left ≠ factory := by
        rintro rfl
        rcases stalled.registers with ⟨created, registers⟩
        exact registers.not_cyclic within
      exact Or.inr ⟨left, logicalId, different, abandoned, ⟨first, stalled, fun _ => within⟩,
        fun _ => own, recurs.again⟩
  · refine Or.inr ⟨logicalId, created, registers, ⟨abandoned, ?_, ?_, recurs.again⟩, ?_⟩
    · exact ⟨backend.container, ⟨.refl, fun _ running => running, ⟨created, registers⟩,
        after.container, ran, .refl _⟩, fun different => absurd rfl different⟩
    · exact fun different => absurd rfl different
    · intro refused
      rcases halted refused with ⟨between, halted⟩
      exact ⟨between, halted.unfinished⟩

/-- A backend in which auth grants access to a function and to one that cannot be built. -/
def overreaching : Blueprint where
  configuration := .default
  siteCheck := none
  nameCheck := none
  definitions :=
    [.function { FunctionSettings.default with name := some "reader" } ⟨"reader.rs", 1, 1⟩,
     .function { FunctionSettings.default with name := some "writer", runtime := some 1 }
      ⟨"writer.rs", 1, 1⟩,
     .auth
      { name := none
        login := ⟨some .default, none, none⟩
        multifactor := none
        emailSender := none
        smsSender := none
        groups := []
        triggers := .empty
        access := some [⟨⟨"reader", []⟩, [.getUser]⟩, ⟨⟨"writer", []⟩, [.getUser]⟩] }
      ⟨"auth.rs", 1, 1⟩]
  names := OrderedMap.ofList [("reader", 0), ("writer", 1), ("auth", 2)]

/-- Its function that can be built. -/
def overreachingReader : overreaching.Factory := ⟨0, by decide⟩

/-- Its auth resource. -/
def overreachingAuth : overreaching.Factory := ⟨2, by decide⟩

/-- The backend when the function has been built. -/
def beforeOverreaching : Backend :=
  ((Backend.new overreaching.configuration .empty).getInstance overreaching overreachingReader).2

/-- The backend when the auth resource has been requested. -/
def afterOverreaching : Backend :=
  (beforeOverreaching.getInstance overreaching overreachingAuth).2

/-- The error of the function that cannot be built. -/
def overreachingError : BackendError := (FunctionFault.runtime 1).toError

theorem overreaching_fails : beforeOverreaching.getInstance overreaching overreachingAuth =
    (.error overreachingError, afterOverreaching) :=
  Prod.ext (by decide +kernel) rfl

/-- A backend in which the function that handles an event of auth cannot be built. -/
def misfiring : Blueprint where
  configuration := .default
  siteCheck := none
  nameCheck := none
  definitions :=
    [.function { FunctionSettings.default with name := some "greeter", runtime := some 1 }
      ⟨"greeter.rs", 1, 1⟩,
     .auth
      { name := none
        login := ⟨some .default, none, none⟩
        multifactor := none
        emailSender := none
        smsSender := none
        groups := []
        triggers := Triggers.empty.set .preSignUp ⟨"greeter", []⟩
        access := none }
      ⟨"auth.rs", 1, 1⟩]
  names := OrderedMap.ofList [("greeter", 0), ("auth", 1)]

/-- Its auth resource. -/
def misfiringAuth : misfiring.Factory := ⟨1, by decide⟩

/-- The backend before anything is built. -/
def beforeMisfiring : Backend := .new misfiring.configuration .empty

/-- The backend when the auth resource has been requested. -/
def afterMisfiring : Backend := (beforeMisfiring.getInstance misfiring misfiringAuth).2

theorem misfiring_fails : beforeMisfiring.getInstance misfiring misfiringAuth =
    (.error overreachingError, afterMisfiring) :=
  Prod.ext (by decide +kernel) rfl

/-- A grant that fails leaves the auth resource half built, a handler that cannot be built leaves
nothing behind. -/
theorem overreaching_undone_or_stuck :
    (beforeOverreaching.Reachable overreaching ∧ ¬ overreaching.IsHandler overreachingAuth ∧
      beforeOverreaching.getInstance overreaching overreachingAuth =
        (.error overreachingError, afterOverreaching) ∧
      Registers overreachingAuth "amplifyAuthUserPool" true beforeOverreaching.container ∧
      Stuck overreachingAuth "amplifyAuthUserPool" overreachingAuth overreachingError
        beforeOverreaching afterOverreaching) ∧
    beforeMisfiring.Reachable misfiring ∧ ¬ misfiring.IsHandler misfiringAuth ∧
      beforeMisfiring.getInstance misfiring misfiringAuth =
        (.error overreachingError, afterMisfiring) ∧
      (∀ logicalId created,
        ¬ Registers misfiringAuth logicalId created beforeMisfiring.container) ∧
      Undone misfiringAuth overreachingError beforeMisfiring afterMisfiring := by
  have reachable : beforeOverreaching.Reachable overreaching := .getInstance (.new .empty) _
  have reachableMisfiring : beforeMisfiring.Reachable misfiring := .new .empty
  refine ⟨⟨reachable, by decide, overreaching_fails, ?_⟩, reachableMisfiring, by decide,
    misfiring_fails, ?_⟩
  · have only : ∀ left, ¬ overreaching.IsHandler left → left = overreachingAuth := by decide
    rcases undone_or_stuck reachable (by decide) overreaching_fails with
      ⟨_, undone | ⟨left, logicalId, different, stuck⟩⟩ |
        ⟨logicalId, created, registers, stuck, unfinished⟩
    · rcases undone.again with ⟨ended, again, _⟩
      have collides : (afterOverreaching.getInstance overreaching overreachingAuth).1 ≠
        .error overreachingError := by decide +kernel
      exact absurd (congrArg Prod.fst again) collides
    · exact absurd (only left stuck.abandoned.other) different
    · have pool := registers.logicalId_eq_of_auth rfl
      change logicalId = "amplifyAuthUserPool" at pool
      subst pool
      cases created with
      | true => exact ⟨registers, stuck⟩
      | false =>
          rcases unfinished rfl with ⟨between, unfinished⟩
          have sole : Sole overreachingAuth := by
            unfold Sole
            decide
          have stored : afterOverreaching.assembly.outputs.find? authOutputKey ≠
            beforeOverreaching.assembly.outputs.find? authOutputKey := by decide +kernel
          exact absurd (unfinished.output sole) stored
  · have only : ∀ left, ¬ misfiring.IsHandler left → left = misfiringAuth := by decide
    rcases undone_or_stuck reachableMisfiring (by decide) misfiring_fails with
      ⟨unregistered, undone | ⟨left, _, different, stuck⟩⟩ | ⟨logicalId, _, _, stuck, _⟩
    · exact ⟨unregistered, undone⟩
    · exact absurd (only left stuck.abandoned.other) different
    · have empty : (afterMisfiring.assembly.stackSet.stackFor
        ResourceKind.auth.group).resources = [] := by decide +kernel
      have taken := (Stack.has_iff _ _).mp stuck.abandoned.taken
      rw [show (afterMisfiring.container.state.stackSet.stackFor
        (misfiring.kindOf misfiringAuth).group).resources = [] from empty] at taken
      exact absurd taken (by simp)

/-- Nothing is rolled back: the stack keeps the resources, the output and the parameter are there,
the role of the first function has the policy, and the second request fails differently. -/
theorem overreaching_leaves_resources :
    beforeOverreaching.Reachable overreaching ∧ ¬ overreaching.IsHandler overreachingAuth ∧
      beforeOverreaching.getInstance overreaching overreachingAuth =
        (.error overreachingError, afterOverreaching) ∧
      (afterOverreaching.assembly.stackSet.stackFor ResourceKind.auth.group).resources ≠
        (beforeOverreaching.assembly.stackSet.stackFor ResourceKind.auth.group).resources ∧
      afterOverreaching.assembly.outputs.find? authOutputKey ≠
        beforeOverreaching.assembly.outputs.find? authOutputKey ∧
      afterOverreaching.assembly.parameters.values ≠
        beforeOverreaching.assembly.parameters.values ∧
      overreaching.attachedTo afterOverreaching.assembly overreachingReader ≠
        overreaching.attachedTo beforeOverreaching.assembly overreachingReader ∧
      (afterOverreaching.getInstance overreaching overreachingAuth).1 ≠
        (beforeOverreaching.getInstance overreaching overreachingAuth).1 :=
  ⟨.getInstance (.new .empty) _, by decide, overreaching_fails, by decide +kernel,
    by decide +kernel, by decide +kernel, by decide +kernel, by decide +kernel⟩

end Blueprint

end CloudSynth
