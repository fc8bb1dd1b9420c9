import CloudSynth.Proofs.Backend.Stages

/-!
# How requests fail

A request fails because of its check, because of what is there already, or because its body fails.
If it is for an auth or data resource that had not begun to be registered by then, either nothing is
left behind, or another such resource is that was requested on the way; otherwise its own resources
are in its stack although it is not there (`Blueprint.fails_request`). By induction on how requests
nest this is known of every request (`Blueprint.fails_instanceOf`).
-/

namespace CloudSynth.Blueprint

variable {blueprint : Blueprint} {factory : blueprint.Factory} {container after : BackendContainer}
  {failure : BackendError}

/-! ## Requests that are made once more -/

theorem recurs_request {inner : BackendContainer} {journal : Journal}
    {outcome : Except BackendError Instance}
    (valid : blueprint.verdict (blueprint.definition factory) = .ok ())
    (unknown : container.immediate? (blueprint.catalogue.generator factory) = none)
    (ended : blueprint.catalogue.run (blueprint.build factory (blueprint.definition factory))
      (opened container factory journal) = (outcome, inner))
    (recurs : Recurs (blueprint.build factory (blueprint.definition factory)) failure inner) :
    Recurs (blueprint.instanceOf factory) failure
      (inner.leave (blueprint.catalogue.generator factory)) := by
  intro again still resolving
  rcases Container.immediate?_eq_none_iff.mp unknown with ⟨absent, idle⟩
  have nested := Catalogue.resolving_of_run blueprint.listed ended
  have level : again.resolving = container.resolving :=
    resolving.trans (Container.resolving_leave idle nested)
  have unknownAgain : again.immediate? (blueprint.catalogue.generator factory) = none := by
    rw [Container.immediate?_eq_none_iff, Container.isResolving_congr level, still.lookup?]
    exact ⟨((cyclic_opened absent journal).of_run ended).1, idle⟩
  rcases run_instanceOf_eq factory again with ⟨note, _, ran⟩
  have reopened : Still inner (opened again factory note) :=
    (still_leave inner factory).trans (still.trans (still_opened again factory note))
  have sameLevel : (opened again factory note).resolving = inner.resolving := by
    rw [nested]
    exact congrArg (· ++ _) level
  -- The failed generator is idle again, so the second request runs its body once more.
  rcases recurs _ reopened sameLevel with ⟨last, failed, stillLast⟩
  refine ⟨last.leave (blueprint.catalogue.generator factory), ?_,
    (still_opened again factory note).trans (stillLast.trans (still_leave last factory))⟩
  rw [ran, valid, unknownAgain, failed, Container.settle_error]

/-! ## Why a request fails -/

/-- What makes a request fail: its check, what is there already, or its body. -/
inductive FailsBy (factory : blueprint.Factory) (failure : BackendError)
    (container : BackendContainer) : BackendContainer → Prop
  | check {journal : Journal}
    (invalid : blueprint.verdict (blueprint.definition factory) = .error failure) :
    FailsBy factory failure container (withJournal container journal)
  | answer {journal : Journal}
    (valid : blueprint.verdict (blueprint.definition factory) = .ok ())
    (known : container.immediate? (blueprint.catalogue.generator factory) =
      some (.error failure)) :
    FailsBy factory failure container (withJournal container journal)
  | body {journal : Journal} {inner : BackendContainer}
    (valid : blueprint.verdict (blueprint.definition factory) = .ok ())
    (checked : blueprint.catalogue.run
      (blueprint.checkDefinition (blueprint.definition factory)) container =
        (.ok (), withJournal container journal))
    (unknown : container.immediate? (blueprint.catalogue.generator factory) = none)
    (ended : blueprint.catalogue.run (blueprint.build factory (blueprint.definition factory))
      (opened container factory journal) = (.error failure, inner)) :
    FailsBy factory failure container (inner.leave (blueprint.catalogue.generator factory))

theorem failsBy_of_run
    (failed : blueprint.catalogue.run (blueprint.instanceOf factory) container =
      (.error failure, after)) : FailsBy factory failure container after := by
  rcases run_instanceOf_eq factory container with ⟨journal, checked, ran⟩
  rw [ran] at failed
  cases valid : blueprint.verdict (blueprint.definition factory) with
  | error refusal =>
      rw [valid] at failed
      cases failed
      exact .check valid
  | ok =>
      rw [valid] at checked
      cases unknown : container.immediate? (blueprint.catalogue.generator factory) with
      | some answer =>
          simp only [valid, unknown] at failed
          cases failed
          exact .answer valid unknown
      | none =>
          simp only [valid, unknown] at failed
          have running : Cyclic (opened container factory journal) factory :=
            cyclic_opened (Container.immediate?_eq_none_iff.mp unknown).1 journal
          rcases ended : blueprint.catalogue.run
            (blueprint.build factory (blueprint.definition factory))
            (opened container factory journal) with ⟨refusal | made, inner⟩
          · rw [ended, Container.settle_error] at failed
            cases failed
            exact .body valid checked unknown ended
          · -- A body that succeeds makes the instance of its factory, which is accepted.
            have same := returns_build factory _ _ _ ended
            subst same
            rw [ended, Container.settle_ok (running.of_run ended).1,
              Container.ofKind_of_admits (decide_eq_true rfl)] at failed
            cases failed

theorem clean_request_of_verdict {refusal : BackendError} {journal : Journal}
    (invalid : blueprint.verdict (blueprint.definition factory) = .error refusal) :
    Clean (blueprint.instanceOf factory) refusal container (withJournal container journal) := by
  refine clean_of_still (still_withJournal container journal) fun again _ _ => ?_
  rcases run_instanceOf_eq factory again with ⟨note, _, ran⟩
  exact ⟨_, by rw [ran, invalid], still_withJournal again note⟩

theorem clean_request_of_known {refusal : BackendError} {journal : Journal}
    (valid : blueprint.verdict (blueprint.definition factory) = .ok ())
    (known : container.immediate? (blueprint.catalogue.generator factory) = some (.error refusal)) :
    Clean (blueprint.instanceOf factory) refusal container (withJournal container journal) := by
  refine clean_of_still (still_withJournal container journal) fun again still resolving => ?_
  rcases run_instanceOf_eq factory again with ⟨note, _, ran⟩
  refine ⟨_, ?_, still_withJournal again note⟩
  have same : again.immediate? (blueprint.catalogue.generator factory) =
      container.immediate? (blueprint.catalogue.generator factory) :=
    still.immediate? resolving factory
  rw [ran, valid, same, known]

theorem abandoned_request {own : blueprint.Factory} {logicalId : String} {journal : Journal}
    {inner : BackendContainer}
    (abandoned : Abandoned own logicalId (opened container factory journal) inner) :
    Abandoned own logicalId container (inner.leave (blueprint.catalogue.generator factory)) := by
  have begun := abandoned.of_advances (advances_of_steady (steady_opened container factory journal))
  exact ⟨begun.other, begun.missing, begun.free, begun.taken⟩

/-! ## Requests for auth and data -/

/-- The request has failed before its resource was registered: nothing is left behind, or another
resource is half built that was requested while this one was being built. -/
def FailsEarly (factory : blueprint.Factory) (failure : BackendError)
    (before after : BackendContainer) : Prop :=
  Clean (blueprint.instanceOf factory) failure before after ∨
    ∃ (left : blueprint.Factory) (logicalId : String) (first : BackendContainer),
      Cyclic first factory ∧
        Blocked (blueprint.instanceOf factory) failure left logicalId before first after

theorem FailsEarly.fails (early : FailsEarly factory failure container after) :
    Fails (blueprint.instanceOf factory) failure container after := by
  rcases early with clean | ⟨left, logicalId, first, _, blocked⟩
  · exact Or.inl clean
  · exact Or.inr ⟨left, logicalId, first, blocked⟩

theorem halted_request {own : blueprint.Factory} {journal : Journal}
    {between inner : BackendContainer}
    (halted : Halted own (opened container factory journal) between inner) :
    Halted own container between (inner.leave (blueprint.catalogue.generator factory)) where
  trace := .head (.inl (still_opened container factory journal)) halted.trace
  own sole := (sameOwn_of_steady (steady_opened container factory journal)).trans (halted.own sole)
  entries := halted.entries
  besides := halted.besides

/-- What the body does before its resource is registered, its request does. The resources that are
left behind then are those of another, which was requested while the body was running. -/
theorem fails_request_of_body {journal : Journal} {inner : BackendContainer}
    (valid : blueprint.verdict (blueprint.definition factory) = .ok ())
    (unknown : container.immediate? (blueprint.catalogue.generator factory) = none)
    (ended : blueprint.catalogue.run (blueprint.build factory (blueprint.definition factory))
      (opened container factory journal) = (.error failure, inner))
    (fails : Fails (blueprint.build factory (blueprint.definition factory)) failure
      (opened container factory journal) inner) :
    FailsEarly factory failure container
      (inner.leave (blueprint.catalogue.generator factory)) := by
  have opening : blueprint.Trace container (opened container factory journal) :=
    .single (.inl (still_opened container factory journal))
  rcases fails with ⟨trace, recurs⟩ | ⟨left, logicalId, first, abandoned, stalled, recurs⟩
  · exact Or.inl ⟨opening.trans (trace.tail (.inl (still_leave inner factory))),
      recurs_request valid unknown ended recurs⟩
  · have within : Cyclic first factory := stalled.running factory
      (cyclic_opened (Container.immediate?_eq_none_iff.mp unknown).1 journal)
    rcases stalled.of_trace opening fun _ cyclic => cyclic_opened_of_ne cyclic journal with
      ⟨trace, running, registers, last, failed, still⟩
    exact Or.inr ⟨left, logicalId, first, within, abandoned_request abandoned,
      ⟨trace, running, registers, last, failed, still.trans (still_leave inner factory)⟩,
      recurs_request valid unknown ended recurs⟩

/-- A request for an auth or data resource that fails has failed before the resource was registered,
or after it. -/
theorem fails_request (notHandler : ¬ blueprint.IsHandler factory)
    (known : container.immediate? (blueprint.catalogue.generator factory) = none →
      blueprint.FailsAt (container.enter (blueprint.catalogue.generator factory)).resolving)
    (regular : blueprint.Regular container)
    (failed : blueprint.catalogue.run (blueprint.instanceOf factory) container =
      (.error failure, after)) :
    (∀ logicalId created, ¬ Registers factory logicalId created container) ∧
      FailsEarly factory failure container after ∧
      (Sole factory → SameOwn factory container after) ∨
    ∃ logicalId created, Registers factory logicalId created container ∧
      Abandoned factory logicalId container after ∧
      Recurs (blueprint.instanceOf factory)
        (collision (blueprint.kindOf factory) logicalId after.state) after ∧
      (created = false → ∃ between, Halted factory container between after) := by
  cases failsBy_of_run failed with
  | @check journal invalid =>
      refine Or.inl ⟨fun _ _ registers => ?_, Or.inl (clean_request_of_verdict invalid),
        fun _ => sameOwn_of_steady (still_withJournal container journal).steady⟩
      rw [registers.valid] at invalid
      cases invalid
  | @answer journal valid answered =>
      refine Or.inl ⟨fun _ _ registers => ?_, Or.inl (clean_request_of_known valid answered),
        fun _ => sameOwn_of_steady (still_withJournal container journal).steady⟩
      rw [registers.unknown] at answered
      cases answered
  | @body journal inner valid checked unknown ended =>
      have running : Cyclic (opened container factory journal) factory :=
        cyclic_opened (Container.immediate?_eq_none_iff.mp unknown).1 journal
      have regularOpened : blueprint.Regular (opened container factory journal) := by
        rcases regular with ⟨built, holds⟩
        exact ⟨built, holds.opened notHandler journal⟩
      have level : (opened container factory journal).resolving =
        (container.enter (blueprint.catalogue.generator factory)).resolving := rfl
      rcases (staged_build notHandler).fails notHandler (known unknown) level regularOpened running
        ended with ⟨unregistered, fails, same⟩ |
          ⟨logicalId, created, between, prepared, free, abandoned, recurs, halted⟩
      · refine Or.inl ⟨?_, fails_request_of_body valid unknown ended fails, fun sole => ?_⟩
        · rintro logicalId created ⟨passed, _, prepared, free⟩
          -- The check leaves one journal, so it is this body that is prepared.
          rw [checked] at passed
          cases passed
          rw [unregistered logicalId created _ prepared] at free
          cases free
        · exact (sameOwn_of_steady (steady_opened container factory journal)).trans
            ((same sole).trans (sameOwn_of_steady (still_leave inner factory).steady))
      · exact Or.inr ⟨logicalId, created, ⟨checked, unknown, prepared, free⟩,
          abandoned_request abandoned, recurs_request valid unknown ended recurs,
          fun refused => ⟨between, halted_request (halted refused)⟩⟩

/-! ## Every request -/

/-- A function that cannot be built leaves nothing behind. -/
theorem clean_request_of_handler (handler : blueprint.IsHandler factory)
    (regular : blueprint.Regular container)
    (failed : blueprint.catalogue.run (blueprint.instanceOf factory) container =
      (.error failure, after)) : Clean (blueprint.instanceOf factory) failure container after := by
  cases failsBy_of_run failed with
  | check invalid => exact clean_request_of_verdict invalid
  | answer valid known => exact clean_request_of_known valid known
  | @body journal inner valid _ unknown ended =>
      rcases regular with ⟨built, holds⟩
      have opening := steady_opened container factory journal
      have alike := holds.build_handler_error handler opening ended
      rcases alike _ opening with ⟨state, again, steady⟩
      rw [ended] at again
      cases again
      refine clean_of_still ⟨rfl, opening.trans steady⟩ (recurs_request valid unknown ended ?_)
      intro again still _
      rcases alike again ((opening.trans steady).trans still.steady) with
        ⟨last, failed, steadyLast⟩
      exact ⟨{ again with state := last }, failed, rfl, steadyLast⟩

/-- A request that fails leaves nothing behind, or the resources of some auth or data resource that
is not there. -/
theorem fails_instanceOf (factory : blueprint.Factory) (container : BackendContainer) :
    blueprint.Regular container → ∀ (failure : BackendError) (after : BackendContainer),
      blueprint.catalogue.run (blueprint.instanceOf factory) container = (.error failure, after) →
        Fails (blueprint.instanceOf factory) failure container after := by
  refine Catalogue.request_induction
    (motive := fun factory container => blueprint.Regular container →
      ∀ (failure : BackendError) (after : BackendContainer),
        blueprint.catalogue.run (blueprint.instanceOf factory) container =
          (.error failure, after) →
            Fails (blueprint.instanceOf factory) failure container after)
    blueprint.listed ?_ factory container
  intro factory container nested regular failure after failed
  by_cases handler : blueprint.IsHandler factory
  · exact Or.inl (clean_request_of_handler handler regular failed)
  have known : container.immediate? (blueprint.catalogue.generator factory) = none →
      blueprint.FailsAt (container.enter (blueprint.catalogue.generator factory)).resolving :=
    fun unknown other before last refusal level regularBefore refused =>
      nested unknown other before level regularBefore refusal last refused
  rcases fails_request handler known regular failed with
    ⟨_, fails, _⟩ | ⟨logicalId, created, registers, abandoned, recurs, _⟩
  · exact fails.fails
  · exact Or.inr ⟨factory, logicalId, container, abandoned,
      ⟨.refl, fun _ cyclic => cyclic, ⟨created, registers⟩, after, failed, .refl after⟩, recurs⟩

end CloudSynth.Blueprint
