import CloudSynth.Proofs.Auth.UserPools
import CloudSynth.Proofs.Backend.Regularity

/-!
# Settling the auth settings

The functions that send messages and those that handle events are given by reference. They are
resolved one after another, before anything is registered, and a reference always stands for the
function of the factory that it names, whoever resolves it and whenever (`Blueprint.StandsFor`).
What has been resolved stays resolved, so in the end all references of the settings stand for what
they have been replaced with (`Blueprint.settledAuth_of_run`,
`Blueprint.resolvedTriggers_of_run`).
-/

namespace CloudSynth.Blueprint

variable {blueprint : Blueprint} {α β : Type} {container before after : BackendContainer}

/-! ## References -/

/-- The number is that of the function which the reference names, and the function is there. -/
def StandsFor (blueprint : Blueprint) (container : BackendContainer) (reference : Reference)
    (number : Nat) : Prop :=
  ∃ factory, blueprint.factoryNamed? reference.name = some factory ∧
    blueprint.IsHandler factory ∧ number = factory ∧ Stores container factory

theorem StandsFor.of_extends {reference : Reference} {number : Nat}
    (stands : blueprint.StandsFor before reference number) (extends_before : after.Extends before) :
    blueprint.StandsFor after reference number := by
  rcases stands with ⟨factory, named, handler, same, stored⟩
  exact ⟨factory, named, handler, same, extends_before _ _ stored⟩

/-- Whoever resolves the name anywhere gets that function. -/
theorem StandsFor.factory_eq {reference other : Reference} {number : Nat}
    (stands : blueprint.StandsFor container reference number)
    (sameName : other.name = reference.name) (regular : blueprint.Regular before)
    {admits : ResourceKind → Bool} {found : Instance}
    (done : blueprint.catalogue.run (blueprint.resolveReference other admits) before =
      (.ok found, after)) : found.factory = number := by
  rcases stands with ⟨factory, named, _, rfl, _⟩
  rcases exists_of_resolveReference regular done with ⟨otherFactory, namedToo, _, rfl, _⟩
  rw [sameName, named] at namedToo
  cases namedToo
  rfl

theorem standsFor_of_run (regular : blueprint.Regular before) {reference : Reference}
    {number : Nat}
    (done : blueprint.catalogue.run (blueprint.resolveHandler reference) before =
      (.ok number, after)) : blueprint.StandsFor after reference number := by
  simp only [resolveHandler, Catalogue.run_bind_eq_ok blueprint.listed, Catalogue.run_pure] at done
  rcases done with ⟨found, _, resolved, ended⟩
  cases ended
  rcases exists_of_resolveReference regular resolved with ⟨factory, isNamed, handler, rfl, stored⟩
  exact ⟨factory, isNamed, handler, rfl, stored⟩

theorem exists_mem_of_forall₂ {related : α → β → Prop} {items : List α} {others : List β}
    (pairs : List.Forall₂ related items others) {item : α} (item_mem : item ∈ items) :
    ∃ other ∈ others, related item other := by
  induction pairs with
  | nil => cases item_mem
  | cons first _ ih =>
      rcases List.mem_cons.mp item_mem with rfl | later
      · exact ⟨_, List.mem_cons_self, first⟩
      · rcases ih later with ⟨other, other_mem, pair⟩
        exact ⟨other, List.mem_cons_of_mem _ other_mem, pair⟩

/-- What is resolved for each item of a list is related to the item when all are resolved. -/
theorem forall₂_of_run_mapM {act : α → blueprint.Build β}
    (related : BackendContainer → α → β → Prop)
    (lasts : ∀ {first second item result}, second.Extends first → related first item result →
      related second item result)
    (asks : ∀ item, Asks (act item))
    (each : ∀ {item first second result}, blueprint.Regular first →
      blueprint.catalogue.run (act item) first = (.ok result, second) → related second item result)
    {items : List α} {results : List β} (regular : blueprint.Regular before)
    (done : blueprint.catalogue.run (items.mapM act) before = (.ok results, after)) :
    List.Forall₂ (related after) items results := by
  induction items generalizing before results with
  | nil =>
      cases done
      exact .nil
  | cons item rest ih =>
      simp only [List.mapM_cons, Catalogue.run_bind_eq_ok blueprint.listed,
        Catalogue.run_pure] at done
      rcases done with ⟨result, between, first, others, _, later, ended⟩
      cases ended
      -- The first result is related to its item after the first step, and has to last.
      have extended := Catalogue.extends_of_run blueprint.listed later
      have regularBetween := regular.of_asks (asks item) first
      exact .cons (lasts extended (each regular first)) (ih regularBetween later)

/-! ## Senders -/

/-- The sender with its function resolved. -/
structure SettledSender (blueprint : Blueprint) (container : BackendContainer)
    (sender : CustomSender Reference) (settled : CustomSender Nat) : Prop where
  handler : blueprint.StandsFor container sender.handler settled.handler
  keyArn : settled.keyArn = sender.keyArn

theorem SettledSender.of_extends {sender : CustomSender Reference} {settled : CustomSender Nat}
    (settles : blueprint.SettledSender before sender settled)
    (extends_before : after.Extends before) : blueprint.SettledSender after sender settled :=
  ⟨settles.handler.of_extends extends_before, settles.keyArn⟩

theorem settledSender_of_run (regular : blueprint.Regular before)
    {sender : CustomSender Reference} {settled : CustomSender Nat}
    (done : blueprint.catalogue.run (blueprint.settleSender sender) before = (.ok settled, after)) :
    blueprint.SettledSender after sender settled := by
  simp only [settleSender, Catalogue.run_bind_eq_ok blueprint.listed, Catalogue.run_pure] at done
  rcases done with ⟨number, _, resolved, ended⟩
  cases ended
  exact ⟨standsFor_of_run regular resolved, rfl⟩

/-- The sender is settled if there is one, and none is made up. -/
abbrev SettledSenders (blueprint : Blueprint) (container : BackendContainer) :
    Option (CustomSender Reference) → Option (CustomSender Nat) → Prop :=
  Option.Rel (blueprint.SettledSender container)

theorem settledSenders_of_extends {sender : Option (CustomSender Reference)}
    {settled : Option (CustomSender Nat)}
    (settles : blueprint.SettledSenders before sender settled)
    (extends_before : after.Extends before) : blueprint.SettledSenders after sender settled := by
  cases settles with
  | none => exact .none
  | some settles => exact .some (settles.of_extends extends_before)

theorem settledSenders_of_run_mapM {act : α → blueprint.Build β}
    {given : α → Option (CustomSender Reference)} {made : β → Option (CustomSender Nat)}
    (each : ∀ {sender settled}, blueprint.catalogue.run (act sender) before = (.ok settled, after) →
      blueprint.SettledSenders after (given sender) (made settled))
    {sender : Option α} {settled : Option β}
    (done : blueprint.catalogue.run (sender.mapM act) before = (.ok settled, after)) :
    blueprint.SettledSenders after (sender.bind given) (settled.bind made) := by
  cases sender with
  | none =>
      cases done
      exact .none
  | some sender =>
      change blueprint.catalogue.run (act sender >>= fun made => pure (some made)) before = _
        at done
      simp only [Catalogue.run_bind_eq_ok blueprint.listed, Catalogue.run_pure] at done
      rcases done with ⟨result, _, settling, ended⟩
      cases ended
      exact each settling

theorem settledSenders_of_email (regular : blueprint.Regular before)
    {sender : EmailSender Reference} {settled : EmailSender Nat}
    (done : blueprint.catalogue.run (blueprint.settleEmailSender sender) before =
      (.ok settled, after)) :
    blueprint.SettledSenders after sender.custom? settled.custom? := by
  cases sender with
  | ses fromEmail fromName replyTo =>
      cases done
      exact .none
  | custom sender =>
      simp only [settleEmailSender, Catalogue.run_bind_eq_ok blueprint.listed,
        Catalogue.run_pure] at done
      rcases done with ⟨custom, _, settling, ended⟩
      cases ended
      exact .some (settledSender_of_run regular settling)

theorem settledSenders_of_sms (regular : blueprint.Regular before)
    {sender : SmsSender Reference} {settled : SmsSender Nat}
    (done : blueprint.catalogue.run (blueprint.settleSmsSender sender) before =
      (.ok settled, after)) :
    blueprint.SettledSenders after sender.custom? settled.custom? := by
  cases sender with
  | sns externalId callerArn region =>
      cases done
      exact .none
  | custom sender =>
      simp only [settleSmsSender, Catalogue.run_bind_eq_ok blueprint.listed,
        Catalogue.run_pure] at done
      rcases done with ⟨custom, _, settling, ended⟩
      cases ended
      exact .some (settledSender_of_run regular settling)

/-! ## Settings -/

/-- What the properties of the construct have to do with the settings. -/
structure SettledAuth (blueprint : Blueprint) (settings : AuthSettings Reference)
    (container : BackendContainer) (properties : AuthProperties Nat) : Prop where
  federation : properties.federation =
    settings.login.external.map (·.federation blueprint.identifier)
  emailSender : blueprint.SettledSenders container
    (settings.emailSender.bind (·.custom?)) (properties.emailSender.bind (·.custom?))
  smsSender : blueprint.SettledSenders container
    (settings.smsSender.bind (·.custom?)) (properties.smsSender.bind (·.custom?))

variable {settings : AuthSettings Reference} {properties : AuthProperties Nat}

theorem SettledAuth.of_extends (settled : blueprint.SettledAuth settings before properties)
    (extends_before : after.Extends before) :
    blueprint.SettledAuth settings after properties where
  federation := settled.federation
  emailSender := settledSenders_of_extends settled.emailSender extends_before
  smsSender := settledSenders_of_extends settled.smsSender extends_before

theorem settledAuth_of_run (regular : blueprint.Regular before) {name : String}
    (done : blueprint.catalogue.run (blueprint.settleAuth name settings) before =
      (.ok properties, after)) : blueprint.SettledAuth settings after properties := by
  simp only [settleAuth, Catalogue.run_bind_eq_ok blueprint.listed, Catalogue.run_pure] at done
  rcases done with ⟨email, between, settlesEmail, sms, _, settlesSms, ended⟩
  cases ended
  have regularBetween := regular.of_asks (Asks.mapM_option asks_settleEmailSender _) settlesEmail
  have extended := Catalogue.extends_of_run blueprint.listed settlesSms
  have emailSettled := settledSenders_of_run_mapM (settledSenders_of_email regular) settlesEmail
  exact ⟨rfl, settledSenders_of_extends emailSettled extended,
    settledSenders_of_run_mapM (settledSenders_of_sms regularBetween) settlesSms⟩

/-- The handlers of events, each resolved. -/
def ResolvedTriggers (blueprint : Blueprint) (settings : AuthSettings Reference)
    (container : BackendContainer) (triggers : List (TriggerEvent × Nat)) : Prop :=
  List.Forall₂ (fun given resolved => resolved.1 = given.1 ∧
    blueprint.StandsFor container given.2 resolved.2) settings.triggers.toList triggers

theorem ResolvedTriggers.of_extends {triggers : List (TriggerEvent × Nat)}
    (resolved : blueprint.ResolvedTriggers settings before triggers)
    (extends_before : after.Extends before) :
    blueprint.ResolvedTriggers settings after triggers :=
  List.Forall₂.imp (fun _ _ same => ⟨same.1, same.2.of_extends extends_before⟩) resolved

theorem ResolvedTriggers.events {triggers : List (TriggerEvent × Nat)}
    (resolved : blueprint.ResolvedTriggers settings container triggers) :
    triggers.map (·.1) = settings.triggers.toList.map (·.1) := by
  rw [← List.forall₂_eq_eq_eq, List.forall₂_map_left_iff, List.forall₂_map_right_iff]
  exact resolved.flip.imp fun _ _ same => same.1

theorem resolvedTriggers_of_run (regular : blueprint.Regular before)
    {triggers : List (TriggerEvent × Nat)}
    (done : blueprint.catalogue.run (blueprint.resolveTriggers settings) before =
      (.ok triggers, after)) : blueprint.ResolvedTriggers settings after triggers := by
  unfold resolveTriggers at done
  refine forall₂_of_run_mapM (fun container given resolved => resolved.1 = given.1 ∧
    blueprint.StandsFor container given.2 resolved.2) ?_ ?_ ?_ regular done
  · intro first second given resolved extended same
    exact ⟨same.1, same.2.of_extends extended⟩
  · intro trigger
    exact (asks_resolveHandler trigger.2).bind fun _ => .finish _
  · intro trigger first second resolved regular answered
    simp only [Catalogue.run_bind_eq_ok blueprint.listed, Catalogue.run_pure] at answered
    rcases answered with ⟨number, _, answered, ended⟩
    cases ended
    exact ⟨rfl, standsFor_of_run regular answered⟩

end CloudSynth.Blueprint
