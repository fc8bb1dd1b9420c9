import CloudSynth.Proofs.Auth.Building
import CloudSynth.Proofs.Backend.PossibleFailures

/-!
# Functions that the user pool calls

A user pool gets its functions in two steps. When it is created it has those that send messages;
later the handlers of events are attached. Together they are the functions that the settings
declare, under names that never collide, and each is the one function that its reference stands for,
whoever else uses it (`Blueprint.userPool_calls`). The key that codes are encrypted with is that of
every sender which names one, so senders that name different keys are refused.
-/

namespace CloudSynth

namespace AuthSettings

variable {ρ : Type}

/-- The settings say which function the user pool calls, and the name that it has for the call. -/
inductive Declares (settings : AuthSettings ρ) : String → ρ → Prop
  | event {event : TriggerEvent} {handler : ρ}
    (given : settings.triggers.handler? event = some handler) :
    Declares settings event.name handler
  | emailSender {sender : CustomSender ρ} (given : settings.emailSender = some (.custom sender)) :
    Declares settings "customEmailSender" sender.handler
  | smsSender {sender : CustomSender ρ} (given : settings.smsSender = some (.custom sender)) :
    Declares settings "customSmsSender" sender.handler

/-- A function that sends messages comes with the key. -/
def NamesKey (settings : AuthSettings ρ) (key : String) : Prop :=
  ∃ sender : CustomSender ρ, (settings.emailSender = some (.custom sender) ∨
    settings.smsSender = some (.custom sender)) ∧ sender.keyArn = some key

end AuthSettings

theorem Triggers.mem_toList_iff {ρ : Type} {triggers : Triggers ρ} {event : TriggerEvent}
    {handler : ρ} :
    (event, handler) ∈ triggers.toList ↔ triggers.handler? event = some handler := by
  have listed : event ∈ TriggerEvent.every := by cases event <;> decide
  simp only [toList, List.mem_filterMap, Option.map_eq_some_iff, Prod.mk.injEq]
  constructor
  · rintro ⟨other, _, found, given, rfl, rfl⟩
    exact given
  · intro given
    exact ⟨event, listed, handler, given, rfl, rfl⟩

section Senders

variable {φ : Type} {emailSender : Option (EmailSender φ)} {smsSender : Option (SmsSender φ)}
  {sender : CustomSender φ}

theorem emailSender_bind_custom? :
    emailSender.bind (·.custom?) = some sender ↔ emailSender = some (.custom sender) := by
  rcases emailSender with _ | _ | _ <;> simp [EmailSender.custom?]

theorem smsSender_bind_custom? :
    smsSender.bind (·.custom?) = some sender ↔ smsSender = some (.custom sender) := by
  rcases smsSender with _ | _ | _ <;> simp [SmsSender.custom?]

theorem mem_customSenders_iff {name : String} :
    (name, sender) ∈ customSenders emailSender smsSender ↔
      name = "customEmailSender" ∧ emailSender = some (.custom sender) ∨
        name = "customSmsSender" ∧ smsSender = some (.custom sender) := by
  simp only [customSenders, List.mem_append, Option.mem_toList, Option.map_eq_some_iff,
    emailSender_bind_custom?, smsSender_bind_custom?, Prod.mk.injEq]
  constructor
  · rintro (⟨_, given, rfl, rfl⟩ | ⟨_, given, rfl, rfl⟩)
    · exact .inl ⟨rfl, given⟩
    · exact .inr ⟨rfl, given⟩
  · rintro (⟨rfl, given⟩ | ⟨rfl, given⟩)
    · exact .inl ⟨_, given, rfl, rfl⟩
    · exact .inr ⟨_, given, rfl, rfl⟩

end Senders

namespace Blueprint

variable {blueprint : Blueprint} {own : blueprint.Factory} {settings : AuthSettings Reference}
  {site : DefinitionSite} {container after : BackendContainer}

/-! ## From settings to properties and back -/

section Settled

variable {given : Option (CustomSender Reference)} {settled : Option (CustomSender Nat)}
  {sender : CustomSender Reference} {made : CustomSender Nat}

theorem exists_settled (settles : blueprint.SettledSenders container given settled)
    (isGiven : given = some sender) :
    ∃ made, settled = some made ∧ blueprint.SettledSender container sender made := by
  subst isGiven
  cases settles with
  | some settles => exact ⟨_, rfl, settles⟩

theorem exists_given (settles : blueprint.SettledSenders container given settled)
    (isMade : settled = some made) :
    ∃ sender, given = some sender ∧ blueprint.SettledSender container sender made := by
  subst isMade
  cases settles with
  | some settles => exact ⟨_, rfl, settles⟩

variable {properties : AuthProperties Nat} {name : String}
  (settledAuth : blueprint.SettledAuth settings container properties)

include settledAuth

theorem SettledAuth.exists_settled
    (sends : (name, sender) ∈ customSenders settings.emailSender settings.smsSender) :
    ∃ made, (name, made) ∈ customSenders properties.emailSender properties.smsSender ∧
      blueprint.SettledSender container sender made := by
  rcases mem_customSenders_iff.mp sends with ⟨rfl, isGiven⟩ | ⟨rfl, isGiven⟩
  · rcases Blueprint.exists_settled settledAuth.emailSender (emailSender_bind_custom?.mpr isGiven)
      with ⟨made, isMade, settles⟩
    exact ⟨made, mem_customSenders_iff.mpr (.inl ⟨rfl, emailSender_bind_custom?.mp isMade⟩),
      settles⟩
  · rcases Blueprint.exists_settled settledAuth.smsSender (smsSender_bind_custom?.mpr isGiven)
      with ⟨made, isMade, settles⟩
    exact ⟨made, mem_customSenders_iff.mpr (.inr ⟨rfl, smsSender_bind_custom?.mp isMade⟩), settles⟩

theorem SettledAuth.exists_given
    (sends : (name, made) ∈ customSenders properties.emailSender properties.smsSender) :
    ∃ sender, (name, sender) ∈ customSenders settings.emailSender settings.smsSender ∧
      blueprint.SettledSender container sender made := by
  rcases mem_customSenders_iff.mp sends with ⟨rfl, isMade⟩ | ⟨rfl, isMade⟩
  · rcases Blueprint.exists_given settledAuth.emailSender (emailSender_bind_custom?.mpr isMade)
      with ⟨sender, isGiven, settles⟩
    exact ⟨sender, mem_customSenders_iff.mpr (.inl ⟨rfl, emailSender_bind_custom?.mp isGiven⟩),
      settles⟩
  · rcases Blueprint.exists_given settledAuth.smsSender (smsSender_bind_custom?.mpr isMade)
      with ⟨sender, isGiven, settles⟩
    exact ⟨sender, mem_customSenders_iff.mpr (.inr ⟨rfl, smsSender_bind_custom?.mp isGiven⟩),
      settles⟩

end Settled

namespace MadeAuth

variable {properties : AuthProperties Nat} {triggers : List (TriggerEvent × Nat)}
  {created wired : AuthConstruct Nat} {stack later : Stack}
  (made : MadeAuth own settings container after properties triggers created wired stack later)

include made

theorem exists_number_of_sender {name : String} {sender : CustomSender Reference}
    (sends : (name, sender) ∈ customSenders settings.emailSender settings.smsSender) :
    ∃ number, wired.resources.userPool.trigger? name = some number ∧
      blueprint.StandsFor after sender.handler number := by
  rcases made.settled.exists_settled sends with ⟨settled, settled_mem, settles⟩
  exact ⟨settled.handler, (made.wired_spec.1 _ _).mpr
    (.inr (List.mem_map.mpr ⟨_, settled_mem, rfl⟩)), settles.handler⟩

/-- The pool calls what is declared. -/
theorem exists_number {name : String} {reference : Reference}
    (declares : settings.Declares name reference) :
    ∃ number, wired.resources.userPool.trigger? name = some number ∧
      blueprint.StandsFor after reference number := by
  cases declares with
  | event given =>
      rcases exists_mem_of_forall₂ made.resolved (Triggers.mem_toList_iff.mpr given) with
        ⟨⟨event, number⟩, number_mem, rfl, stands⟩
      exact ⟨number, (made.wired_spec.1 _ _).mpr
        (.inl (List.mem_map.mpr ⟨_, number_mem, rfl⟩)), stands⟩
  | emailSender given =>
      exact made.exists_number_of_sender (mem_customSenders_iff.mpr (.inl ⟨rfl, given⟩))
  | smsSender given =>
      exact made.exists_number_of_sender (mem_customSenders_iff.mpr (.inr ⟨rfl, given⟩))

/-- The pool calls nothing else. -/
theorem exists_reference {name : String} {number : Nat}
    (called : wired.resources.userPool.trigger? name = some number) :
    ∃ reference, settings.Declares name reference := by
  rcases (made.wired_spec.1 name number).mp called with attached | sends
  · rcases List.mem_map.mp attached with ⟨⟨event, _⟩, number_mem, same⟩
    cases same
    rcases exists_mem_of_forall₂ made.resolved.flip number_mem with
      ⟨⟨other, reference⟩, given, rfl, _⟩
    exact ⟨reference, .event (Triggers.mem_toList_iff.mp given)⟩
  · rcases List.mem_map.mp sends with ⟨⟨_, settled⟩, settled_mem, same⟩
    cases same
    rcases made.settled.exists_given settled_mem with ⟨sender, sender_mem, _⟩
    rcases mem_customSenders_iff.mp sender_mem with ⟨rfl, given⟩ | ⟨rfl, given⟩
    · exact ⟨_, .emailSender given⟩
    · exact ⟨_, .smsSender given⟩

theorem keyArn_eq_some_iff {key : String} :
    wired.resources.userPool.keyArn = some key ↔ settings.NamesKey key := by
  rw [made.wired_spec.2.1, AuthProperties.key_iff_of_check made.consistent]
  constructor
  · rintro ⟨⟨_, settled⟩, settled_mem, names⟩
    rcases made.settled.exists_given settled_mem with ⟨sender, sender_mem, settles⟩
    have namesToo := settles.keyArn.symm.trans names
    rcases mem_customSenders_iff.mp sender_mem with ⟨_, given⟩ | ⟨_, given⟩
    · exact ⟨sender, .inl given, namesToo⟩
    · exact ⟨sender, .inr given, namesToo⟩
  · rintro ⟨sender, given, names⟩
    have sends : ∃ name,
        (name, sender) ∈ customSenders settings.emailSender settings.smsSender := by
      rcases given with given | given
      · exact ⟨_, mem_customSenders_iff.mpr (.inl ⟨rfl, given⟩)⟩
      · exact ⟨_, mem_customSenders_iff.mpr (.inr ⟨rfl, given⟩)⟩
    rcases sends with ⟨name, sends⟩
    rcases made.settled.exists_settled sends with ⟨settled, settled_mem, settles⟩
    exact ⟨_, settled_mem, settles.keyArn.trans names⟩

end MadeAuth

/-! ## The user pool -/

/-- The user pool calls a function which is there, and which everyone gets who resolves the
reference. -/
structure Calls (blueprint : Blueprint) (container : BackendContainer) (pool : UserPool Nat)
    (name : String) (reference : Reference) (number : Nat) : Prop where
  called : pool.trigger? name = some number
  stands : blueprint.StandsFor container reference number
  function : ∃ function, container.state.functions.find? number = some function
  shared : ∀ (other : Reference) admits elsewhere found later, other.name = reference.name →
    blueprint.Occurs elsewhere →
      blueprint.catalogue.run (blueprint.resolveReference other admits) elsewhere =
        (.ok found, later) → found.factory = number

/-- The user pool calls what the settings declare, and nothing else, and encrypts codes with the key
that they name, if they name one. -/
structure CallsDeclared (blueprint : Blueprint) (settings : AuthSettings Reference)
    (container : BackendContainer) (pool : UserPool Nat) : Prop where
  declared : ∀ name reference, settings.Declares name reference →
    ∃ number, blueprint.Calls container pool name reference number
  only : ∀ name number, pool.trigger? name = some number →
    ∃ reference, settings.Declares name reference
  key : ∀ key, pool.keyArn = some key ↔ settings.NamesKey key

theorem Occurs.regular (occurs : blueprint.Occurs container) : blueprint.Regular container := by
  rcases occurs.recorded with ⟨built, recorded⟩
  exact ⟨built, recorded.toBuilt⟩

theorem MadeAuth.callsDeclared {properties : AuthProperties Nat}
    {triggers : List (TriggerEvent × Nat)} {created wired : AuthConstruct Nat}
    {stack later : Stack}
    (made : MadeAuth own settings container after properties triggers created wired stack later) :
    blueprint.CallsDeclared settings after wired.resources.userPool := by
  constructor
  case declared =>
    intro name reference declares
    rcases made.exists_number declares with ⟨number, called, stands⟩
    refine ⟨number, called, stands, ?_, ?_⟩
    · rcases stands with ⟨factory, _, handler, rfl, stored⟩
      rcases made.regular with ⟨built, holds⟩
      exact holds.exists_find? handler stored
    · intro other admits elsewhere found later sameName occurs done
      exact stands.factory_eq sameName occurs.regular done
  case only => exact fun name number => made.exists_reference
  case key => exact fun key => made.keyArn_eq_some_iff

/-- No request fails because an event has two handlers. An auth resource that is built calls the
declared functions, and it is not built if the functions that send messages come with different
keys. -/
theorem userPool_calls (defined : blueprint.definition own = .auth settings site) :
    (∀ container code message resolution event pool,
      (blueprint.catalogue.run (blueprint.instanceOf own) container).1 ≠
        .error (.constructInitialization code message resolution
          (.duplicateTrigger event pool))) ∧
    ∀ container, blueprint.Occurs container → container.contains (blueprint.idOf own) = false →
      (∀ found after,
        blueprint.catalogue.run (blueprint.instanceOf own) container = (.ok found, after) →
          ∃ built, after.state.auths.find? own = some built ∧
            blueprint.CallsDeclared settings after built.construct.resources.userPool) ∧
      ∀ key other, settings.NamesKey key → settings.NamesKey other → key ≠ other →
        ∀ found, (blueprint.catalogue.run (blueprint.instanceOf own) container).1 ≠ .ok found := by
  have builds : ∀ container, blueprint.Occurs container →
      container.contains (blueprint.idOf own) = false → ∀ found after,
        blueprint.catalogue.run (blueprint.instanceOf own) container = (.ok found, after) →
          ∃ built, after.state.auths.find? own = some built ∧
            blueprint.CallsDeclared settings after built.construct.resources.userPool := by
    intro container occurs absent found after done
    rcases exists_madeAuth occurs.regular defined absent done with
      ⟨properties, triggers, created, wired, stack, later, made⟩
    rcases made.stored with ⟨stackName, stored⟩
    exact ⟨_, stored, made.callsDeclared⟩
  constructor
  · intro container code message resolution event pool failed
    exact possible_of_run failed
  · intro container occurs absent
    refine ⟨builds container occurs absent, ?_⟩
    intro key other names namesOther different found answered
    rcases builds container occurs absent found _ (Prod.ext answered rfl) with ⟨built, _, calls⟩
    -- The pool has one key, which would be both.
    have same := (calls.key key).mpr names
    rw [(calls.key other).mpr namesOther] at same
    exact different (Option.some.inj same).symm

/-- In the portal one function has three calls, and one of the senders names the key. -/
theorem userPool_calls_portal :
    portal.definition portalAuth = .auth portalSettings ⟨"auth.rs", 1, 1⟩ ∧
      portal.Occurs (Backend.holding portal .empty []).container ∧
      (Backend.holding portal .empty []).container.contains (portal.idOf portalAuth) = false ∧
      requestedPortal = (.ok ⟨.auth, 1⟩, requestedPortal.2) ∧
      ∃ built, requestedPortal.2.state.auths.find? 1 = some built ∧
        (∀ name ∈ ["postConfirmation", "customEmailSender", "customSmsSender"],
          built.construct.resources.userPool.trigger? name = some 0) ∧
        built.construct.resources.userPool.keyArn = some "key" := by
  have occurs : portal.Occurs (Backend.holding portal .empty []).container :=
    .operated (.new .empty)
  have absent : (Backend.holding portal .empty []).container.contains
    (portal.idOf portalAuth) = false := by decide +kernel
  refine ⟨rfl, occurs, absent, requested_portal, ?_⟩
  rcases ((userPool_calls rfl).2 _ occurs absent).1 _ _ requested_portal with
    ⟨built, stored, calls⟩
  refine ⟨built, stored, ?_, ?_⟩
  · have greets : ∀ name, portalSettings.Declares name ⟨"greeter", []⟩ →
        built.construct.resources.userPool.trigger? name = some 0 := by
      intro name declares
      rcases calls.declared _ _ declares with ⟨number, called, stands, _⟩
      rcases stands with ⟨factory, named, _, rfl, _⟩
      have greeter : portal.factoryNamed? "greeter" = some ⟨0, Nat.two_pos⟩ := by decide +kernel
      rw [greeter] at named
      cases named
      exact called
    have handles : portalSettings.triggers.handler? .postConfirmation =
        some ⟨"greeter", []⟩ := rfl
    have mails : portalSettings.emailSender =
        some (.custom ⟨⟨"greeter", []⟩, some "key"⟩) := rfl
    have texts : portalSettings.smsSender = some (.custom ⟨⟨"greeter", []⟩, none⟩) := rfl
    simp only [List.forall_mem_cons, List.not_mem_nil, false_imp_iff, implies_true, and_true]
    exact ⟨greets _ (.event handles), greets _ (.emailSender mails), greets _ (.smsSender texts)⟩
  · exact (calls.key _).mpr ⟨_, .inl rfl, rfl⟩

end Blueprint

end CloudSynth
