import Mathlib.Logic.Relation
import CloudSynth.Proofs.Backend.Regularity

/-!
# Requests that fail

A failure ends every body on its way, so it is the last thing that happens before the request is
answered. What matters is how far the requests have got by then: whether an auth or data resource
had begun to register what it consists of (`Blueprint.Registers`). If none had, nothing has been
done but what requests did that succeeded, and asking again comes to the same failure
(`Blueprint.Clean`). Otherwise resources are left behind (`Blueprint.Abandoned`), and asking again
fails at the first of them.
-/

namespace CloudSynth

/-- The kind of construct that errors name. -/
def ResourceKind.constructKind : ResourceKind → ConstructKind
  | function => .function
  | stub => .function
  | auth => .auth
  | data => .data

namespace Blueprint

variable {blueprint : Blueprint} {α β : Type}

/-! ## Containers that hold the same -/

/-- The containers have the same entries, and their states differ in nothing but the journal and
which stacks have come into being. -/
structure Still (before after : BackendContainer) : Prop where
  entries : after.entries = before.entries
  steady : Steady before.state after.state

namespace Still

variable {first second third : BackendContainer}

theorem refl (container : BackendContainer) : Still container container := ⟨rfl, .refl _⟩

theorem trans (still : Still first second) (later : Still second third) : Still first third :=
  ⟨later.entries.trans still.entries, still.steady.trans later.steady⟩

theorem lookup? (still : Still first second) (id : GeneratorId) :
    second.lookup? id = first.lookup? id := by
  simp only [Container.lookup?, still.entries]

theorem extends_first (still : Still first second) : second.Extends first :=
  fun id _ stored => (still.lookup? id).trans stored

theorem immediate? (still : Still first second) (resolving : second.resolving = first.resolving)
    (factory : blueprint.Factory) :
    second.immediate? (blueprint.catalogue.generator factory) =
      first.immediate? (blueprint.catalogue.generator factory) := by
  unfold Container.immediate? Container.isResolving Container.cyclePath
  rw [still.lookup?, resolving]

end Still

theorem still_withJournal (container : BackendContainer) (journal : Journal) :
    Still container (withJournal container journal) :=
  ⟨rfl, ⟨fun _ => rfl, rfl, rfl, rfl, rfl, rfl, rfl, rfl⟩⟩

theorem still_opened (container : BackendContainer) (factory : blueprint.Factory)
    (journal : Journal) : Still container (opened container factory journal) :=
  ⟨rfl, steady_opened container factory journal⟩

theorem still_leave (container : BackendContainer) (factory : blueprint.Factory) :
    Still container (container.leave (blueprint.catalogue.generator factory)) := ⟨rfl, .refl _⟩

/-- What has happened to a container since: entries were added, and what requests rely on stayed. -/
structure Later (blueprint : Blueprint) (earlier later : BackendContainer) : Prop where
  entries : later.Extends earlier
  advances : blueprint.Advances earlier later

theorem Later.trans {first second third : BackendContainer} (later : blueprint.Later first second)
    (last : blueprint.Later second third) : blueprint.Later first third :=
  ⟨last.entries.trans later.entries,
    later.advances.trans later.entries last.advances⟩

theorem Still.later {before after : BackendContainer} (still : Still before after) :
    blueprint.Later before after :=
  ⟨still.extends_first, advances_of_steady still.steady⟩

/-! ## Requests that have been answered -/

theorem run_instanceOf_of_stores {factory : blueprint.Factory} {container : BackendContainer}
    (valid : blueprint.verdict (blueprint.definition factory) = .ok ())
    (stored : Stores container factory) :
    ∃ journal, blueprint.catalogue.run (blueprint.instanceOf factory) container =
      (.ok (blueprint.instanceFor factory), withJournal container journal) := by
  rcases run_instanceOf_eq factory container with ⟨journal, _, ran⟩
  refine ⟨journal, ?_⟩
  rw [ran, valid, Container.immediate?_of_entry stored,
    Container.ofKind_of_admits (decide_eq_true rfl)]

/-! ## How far a request gets -/

/-- The body of an auth or data resource gets as far as to register it: everything that it refers to
is resolved, and its properties are consistent. The logical id is that of its first registration,
and `created` says whether the construct is created then, with all registrations. -/
inductive Prepared (own : blueprint.Factory) :
    (logicalId : String) → (created : Bool) → (before between : BackendContainer) → Prop
  | auth {settings : AuthSettings Reference} {site : DefinitionSite}
    {properties : AuthProperties Nat} {triggers : List (TriggerEvent × Nat)}
    {before settled between : BackendContainer}
    (defined : blueprint.definition own = .auth settings site)
    (settles : blueprint.catalogue.run (blueprint.settleAuth settings.resolvedName settings)
      before = (.ok properties, settled))
    (handlers : blueprint.catalogue.run (blueprint.resolveTriggers settings) settled =
      (.ok triggers, between))
    (consistent : properties.check = .ok ()) :
    Prepared own (settings.resolvedName ++ "UserPool")
      (createAuth settings.resolvedName properties between.state).1.isOk before between
  | data {settings : DataSettings Reference} {site : DefinitionSite}
    {auth : Option (Nat × BuiltAuth)} {properties : DataProperties Nat}
    {before between : BackendContainer}
    (defined : blueprint.definition own = .data settings site)
    (settles : blueprint.catalogue.run (blueprint.settleData settings.resolvedName settings)
      before = (.ok (auth, properties), between))
    (consistent : properties.check = .ok ()) :
    Prepared own (settings.resolvedName ++ "GraphQLAPI")
      (createData (auth.map (·.1)) settings.resolvedName properties between.state).1.isOk
      before between

/-- The request for an auth or data resource passes its check and is not answered by what is there,
and its body gets as far as to register it, under a logical id that is free until then. -/
inductive Registers (own : blueprint.Factory) (logicalId : String) (created : Bool)
    (container : BackendContainer) : Prop
  | intro {journal : Journal} {between : BackendContainer}
    (checked : blueprint.catalogue.run
      (blueprint.checkDefinition (blueprint.definition own)) container =
        (.ok (), withJournal container journal))
    (unknown : container.immediate? (blueprint.catalogue.generator own) = none)
    (prepared : Prepared own logicalId created (opened container own journal) between)
    (free : (between.state.stackSet.stackFor (blueprint.kindOf own).group).has logicalId = false)

namespace Registers

variable {own : blueprint.Factory} {logicalId : String} {created : Bool}
  {container : BackendContainer}

theorem valid (registers : Registers own logicalId created container) :
    blueprint.verdict (blueprint.definition own) = .ok () := by
  rcases registers with ⟨checked, _, _, _⟩
  rcases blueprint.run_checkDefinition (blueprint.definition own) container with ⟨journal, ran⟩
  rw [ran] at checked
  exact (Prod.mk.inj checked).1

theorem unknown (registers : Registers own logicalId created container) :
    container.immediate? (blueprint.catalogue.generator own) = none := by
  rcases registers with ⟨_, unknown, _, _⟩
  exact unknown

theorem logicalId_eq_of_auth {settings : AuthSettings Reference} {site : DefinitionSite}
    (defined : blueprint.definition own = .auth settings site)
    (registers : Registers own logicalId created container) :
    logicalId = settings.resolvedName ++ "UserPool" := by
  rcases registers with ⟨_, _, prepared, _⟩
  cases prepared with
  | auth same _ _ _ =>
      rw [defined] at same
      cases same
      rfl
  | data other _ _ =>
      rw [defined] at other
      cases other

/-- A generator that is running registers nothing when it is asked for once more. -/
theorem not_cyclic (registers : Registers own logicalId created container) :
    ¬ Cyclic container own := by
  intro running
  have idle := (Container.immediate?_eq_none_iff.mp registers.unknown).2
  rw [show container.isResolving (blueprint.catalogue.generator own).id = true from running.2]
    at idle
  cases idle

end Registers

/-! ## How a program fails -/

/-- A request has been answered, or nothing has happened but that generators began or ended. -/
def Answered (blueprint : Blueprint) (before after : BackendContainer) : Prop :=
  Still before after ∨ ∃ (factory : blueprint.Factory) (found : Instance),
    blueprint.Regular before ∧
      blueprint.catalogue.run (blueprint.instanceOf factory) before = (.ok found, after)

/-- Nothing has happened but that requests have been answered. -/
def Trace (blueprint : Blueprint) : BackendContainer → BackendContainer → Prop :=
  Relation.ReflTransGen blueprint.Answered

/-- Whoever runs the program once more fails with the error, and nothing changes. -/
def Recurs (program : blueprint.Build α) (failure : BackendError) (after : BackendContainer) :
    Prop :=
  ∀ again : BackendContainer, Still after again → again.resolving = after.resolving →
    ∃ ended, blueprint.catalogue.run program again = (.error failure, ended) ∧ Still again ended

/-- A resource has been registered under the logical id, but is not there. -/
structure Abandoned (factory : blueprint.Factory) (logicalId : String)
    (before after : BackendContainer) : Prop where
  other : ¬ blueprint.IsHandler factory
  missing : after.lookup? (blueprint.idOf factory) = none
  free : (before.state.stackSet.stackFor (blueprint.kindOf factory).group).has logicalId = false
  taken : (after.state.stackSet.stackFor (blueprint.kindOf factory).group).has logicalId = true

/-- The error of a resource whose logical id is taken in its stack. -/
def collision (kind : ResourceKind) (logicalId : String) (assembly : Assembly) : BackendError :=
  .ofConstruct kind.constructKind
    (.duplicateLogicalId logicalId (assembly.stackSet.stackFor kind.group).name)

/-- The failure has left nothing behind. -/
structure Clean (program : blueprint.Build α) (failure : BackendError)
    (before after : BackendContainer) : Prop where
  trace : blueprint.Trace before after
  recurs : Recurs program failure after

/-- Requests have been answered until the one for the factory failed with the error, after it had
begun to register its resource. Nothing has happened since. -/
structure StalledAt (factory : blueprint.Factory) (logicalId : String) (failure : BackendError)
    (before first after : BackendContainer) : Prop where
  trace : blueprint.Trace before first
  /-- The request was made while all was running that runs before. -/
  running : ∀ other : blueprint.Factory, Cyclic before other → Cyclic first other
  registers : ∃ created, Registers factory logicalId created first
  failed : ∃ last, blueprint.catalogue.run (blueprint.instanceOf factory) first =
    (.error failure, last) ∧ Still last after

/-- The request for the factory has left resources behind, and the program collides with them when
it runs once more. -/
structure Blocked (program : blueprint.Build α) (failure : BackendError)
    (factory : blueprint.Factory) (logicalId : String) (before first after : BackendContainer) :
    Prop where
  abandoned : Abandoned factory logicalId before after
  stalled : StalledAt factory logicalId failure before first after
  recurs : Recurs program (collision (blueprint.kindOf factory) logicalId after.state) after

/-- A program that fails leaves nothing behind, or is blocked from then on. -/
def Fails (program : blueprint.Build α) (failure : BackendError)
    (before after : BackendContainer) : Prop :=
  Clean program failure before after ∨
    ∃ (factory : blueprint.Factory) (logicalId : String) (first : BackendContainer),
      Blocked program failure factory logicalId before first after

theorem clean_of_still {program : blueprint.Build α} {failure : BackendError}
    {before after : BackendContainer} (still : Still before after)
    (recurs : Recurs program failure after) : Clean program failure before after :=
  ⟨.single (.inl still), recurs⟩

/-- What was free in the end was free all the while. -/
theorem Abandoned.of_advances {factory : blueprint.Factory} {logicalId : String}
    {before between after : BackendContainer} (advances : blueprint.Advances before between)
    (abandoned : Abandoned factory logicalId between after) :
    Abandoned factory logicalId before after where
  other := abandoned.other
  missing := abandoned.missing
  free := by
    cases there : (before.state.stackSet.stackFor (blueprint.kindOf factory).group).has
        logicalId with
    | false => rfl
    | true => rw [← abandoned.free, advances.registered _ _ there]
  taken := abandoned.taken

theorem StalledAt.of_trace {factory : blueprint.Factory} {logicalId : String}
    {failure : BackendError} {before between first after : BackendContainer}
    (trace : blueprint.Trace before between)
    (running : ∀ other : blueprint.Factory, Cyclic before other → Cyclic between other)
    (stalled : StalledAt factory logicalId failure between first after) :
    StalledAt factory logicalId failure before first after where
  trace := trace.trans stalled.trace
  running other cyclic := stalled.running other (running other cyclic)
  registers := stalled.registers
  failed := stalled.failed

/-! ## Programs that can be repeated -/

/-- A program that registers nothing itself. Once it has succeeded it can be repeated at any time,
and its results stay the same as far as the relation can tell. -/
structure Retryable (level : List (GeneratorId × String)) (same : α → α → Prop)
    (program : blueprint.Build α) : Prop where
  kept : ∀ {spared : blueprint.Factory → Prop} {rel : BackendContainer → BackendContainer → Prop},
    Keeps spared rel → ∀ container : BackendContainer,
      (∀ other, spared other → Cyclic container other) →
        rel container (blueprint.catalogue.run program container).2
  regular : ∀ container, blueprint.Regular container →
    blueprint.Regular (blueprint.catalogue.run program container).2
  succeeds : ∀ {before after : BackendContainer} {result : α}, blueprint.Regular before →
    blueprint.catalogue.run program before = (.ok result, after) →
      blueprint.Trace before after ∧ ∀ later, blueprint.Later after later → ∃ other ended,
        blueprint.catalogue.run program later = (.ok other, ended) ∧ same result other ∧
          Still later ended
  fails : ∀ {before after : BackendContainer} {failure : BackendError}, before.resolving = level →
    blueprint.Regular before → blueprint.catalogue.run program before = (.error failure, after) →
      Fails program failure before after

variable {level : List (GeneratorId × String)} {same : α → α → Prop}

/-- Whatever fails once more after a program that can be repeated makes the sequence fail once
more. -/
theorem Retryable.recurs {program : blueprint.Build α} (retryable : Retryable level same program)
    {next : α → blueprint.Build β}
    (alike : ∀ result other, same result other → next result = next other) {result : α}
    {before between after : BackendContainer} {failure : BackendError}
    (regular : blueprint.Regular before)
    (done : blueprint.catalogue.run program before = (.ok result, between))
    (later : blueprint.Later between after) (recurs : Recurs (next result) failure after) :
    Recurs (program >>= next) failure after := by
  intro again still resolving
  rcases (retryable.succeeds regular done).2 again (later.trans still.later) with
    ⟨other, ended, repeated, equal, stillEnded⟩
  rcases recurs ended (still.trans stillEnded)
    ((Catalogue.resolving_of_run blueprint.listed repeated).trans resolving) with
      ⟨last, failed, stillLast⟩
  rw [alike result other equal] at failed
  refine ⟨last, ?_, stillEnded.trans stillLast⟩
  rw [Catalogue.run_bind blueprint.listed, repeated]
  exact failed

theorem Recurs.bind {program : blueprint.Build α} {failure : BackendError}
    {after : BackendContainer} (recurs : Recurs program failure after)
    (next : α → blueprint.Build β) : Recurs (program >>= next) failure after := by
  intro again still resolving
  rcases recurs again still resolving with ⟨ended, failed, stillEnded⟩
  exact ⟨ended, by rw [Catalogue.run_bind blueprint.listed, failed], stillEnded⟩

theorem Fails.of_recurs {program : blueprint.Build α} {other : blueprint.Build β}
    {failure : BackendError} {before after : BackendContainer}
    (fails : Fails program failure before after)
    (recurs : ∀ failure, Recurs program failure after → Recurs other failure after) :
    Fails other failure before after := by
  rcases fails with ⟨trace, again⟩ | ⟨factory, logicalId, first, abandoned, stalled, again⟩
  · exact Or.inl ⟨trace, recurs _ again⟩
  · exact Or.inr ⟨factory, logicalId, first, abandoned, stalled, recurs _ again⟩

theorem Fails.bind {program : blueprint.Build α} {failure : BackendError}
    {before after : BackendContainer} (fails : Fails program failure before after)
    (next : α → blueprint.Build β) : Fails (program >>= next) failure before after :=
  fails.of_recurs fun _ recurs => recurs.bind next

theorem Retryable.later {program : blueprint.Build α} (retryable : Retryable level same program)
    {before after : BackendContainer} {outcome : Except BackendError α}
    (done : blueprint.catalogue.run program before = (outcome, after)) :
    blueprint.Later before after := by
  have advances := retryable.kept keeps_advances before fun _ none => none.elim
  rw [done] at advances
  exact ⟨Catalogue.extends_of_run blueprint.listed done, advances⟩

theorem Retryable.fails_next {program : blueprint.Build α}
    (retryable : Retryable level same program) {next : α → blueprint.Build β}
    (alike : ∀ result other, same result other → next result = next other) {result : α}
    {before between after : BackendContainer} {failure : BackendError}
    (regular : blueprint.Regular before)
    (done : blueprint.catalogue.run program before = (.ok result, between))
    (later : blueprint.Later between after) (fails : Fails (next result) failure between after) :
    Fails (program >>= next) failure before after := by
  have trace := (retryable.succeeds regular done).1
  rcases fails with ⟨traceNext, recurs⟩ | ⟨factory, logicalId, first, abandoned, stalled, recurs⟩
  · exact Or.inl ⟨trace.trans traceNext, retryable.recurs alike regular done later recurs⟩
  · exact Or.inr ⟨factory, logicalId, first,
      abandoned.of_advances (retryable.later done).advances,
      stalled.of_trace trace fun _ running => running.of_run done,
      retryable.recurs alike regular done later recurs⟩

theorem Retryable.bind {program : blueprint.Build α} (retryable : Retryable level same program)
    {next : α → blueprint.Build β} {sameNext : β → β → Prop}
    (rest : ∀ result, Retryable level sameNext (next result))
    (alike : ∀ result other, same result other → next result = next other) :
    Retryable level sameNext (program >>= next) where
  kept := by
    intro spared rel keeps container cyclic
    rw [Catalogue.run_bind blueprint.listed]
    have first := retryable.kept keeps container cyclic
    rcases ran : blueprint.catalogue.run program container with ⟨failure | result, between⟩
    · rw [ran] at first
      exact first
    · rw [ran] at first
      refine keeps.trans (Catalogue.extends_of_run blueprint.listed ran)
        (fun factory running => running.of_run ran) first ?_
      exact (rest result).kept keeps between fun other isSpared =>
        (cyclic other isSpared).of_run ran
  regular := by
    intro container regular
    rw [Catalogue.run_bind blueprint.listed]
    have first := retryable.regular container regular
    rcases ran : blueprint.catalogue.run program container with ⟨failure | result, between⟩
    · rw [ran] at first
      exact first
    · rw [ran] at first
      exact (rest result).regular between first
  succeeds := by
    intro before after last regular done
    rw [Catalogue.run_bind_eq_ok blueprint.listed] at done
    rcases done with ⟨result, between, head, tail⟩
    have between_regular := retryable.regular before regular
    rw [head] at between_regular
    rcases retryable.succeeds regular head with ⟨trace, again⟩
    rcases (rest result).succeeds between_regular tail with ⟨traceNext, againNext⟩
    refine ⟨trace.trans traceNext, fun later isLater => ?_⟩
    -- Repeating the head changes nothing that the rest could tell, so the rest is repeated there.
    rcases again later (((rest result).later tail).trans isLater) with
      ⟨other, ended, repeated, equal, still⟩
    rcases againNext ended (isLater.trans still.later) with
      ⟨otherLast, endedLast, repeatedLast, equalLast, stillLast⟩
    rw [alike result other equal] at repeatedLast
    refine ⟨otherLast, endedLast, ?_, equalLast, still.trans stillLast⟩
    rw [Catalogue.run_bind blueprint.listed, repeated]
    exact repeatedLast
  fails := by
    intro before after failure resolving regular failed
    rw [Catalogue.run_bind_eq_error blueprint.listed] at failed
    rcases failed with head | ⟨result, between, head, tail⟩
    · exact (retryable.fails resolving regular head).bind next
    · have between_regular := retryable.regular before regular
      rw [head] at between_regular
      exact retryable.fails_next alike regular head ((rest result).later tail)
        ((rest result).fails ((Catalogue.resolving_of_run blueprint.listed head).trans resolving)
          between_regular tail)

theorem retryable_finish (outcome : Except BackendError α) :
    Retryable level Eq (.finish outcome : blueprint.Build α) where
  kept keeps container _ := keeps.light (.refl _) (.refl _)
  regular _ regular := regular
  succeeds := by
    intro before after result _ done
    cases done
    exact ⟨.refl, fun later _ => ⟨result, later, rfl, rfl, .refl later⟩⟩
  fails := by
    intro before after failure _ _ failed
    cases failed
    exact Or.inl ⟨.refl, fun again _ _ => ⟨again, rfl, .refl again⟩⟩

/-- It is known how requests fail that are made while the generators are being resolved. -/
def FailsAt (blueprint : Blueprint) (level : List (GeneratorId × String)) : Prop :=
  ∀ (factory : blueprint.Factory) (before after : BackendContainer) (failure : BackendError),
    before.resolving = level → blueprint.Regular before →
      blueprint.catalogue.run (blueprint.instanceOf factory) before = (.error failure, after) →
        Fails (blueprint.instanceOf factory) failure before after

theorem retryable_instanceOf (known : blueprint.FailsAt level) (factory : blueprint.Factory) :
    Retryable level Eq (blueprint.instanceOf factory) where
  kept keeps container cyclic := keeps.instanceOf factory container cyclic
  regular container regular := regular_instanceOf factory container regular
  succeeds := by
    intro before after found regular done
    refine ⟨.single (.inr ⟨factory, found, regular, done⟩), fun later isLater => ?_⟩
    rcases stores_of_instanceOf regular done with ⟨rfl, stored⟩
    rcases run_instanceOf_of_stores (blueprint.run_instanceOf_eq_ok.mp done).1
      (isLater.entries _ _ stored) with ⟨journal, repeated⟩
    exact ⟨_, _, repeated, rfl, still_withJournal later journal⟩
  fails resolving regular failed := known factory _ _ _ resolving regular failed

theorem Asks.retryable (known : blueprint.FailsAt level) {program : blueprint.Build α}
    (asks : Asks program) : Retryable level Eq program := by
  induction asks with
  | finish outcome => exact retryable_finish outcome
  | instanceOf factory => exact retryable_instanceOf known factory
  | bind head rest ihHead ihRest =>
      exact ihHead.bind ihRest fun result other equal => by rw [equal]

end Blueprint

end CloudSynth
