import Mathlib.Data.List.Nodup
import CloudSynth.Backend.Auth
import CloudSynth.Proofs.Auth.Consistency

/-!
# Handlers of user pools

Handlers are attached one at a time, and each is refused if its event has a handler. So events that
are distinct, and new to the pool, are all attached (`UserPool.exists_addTriggers`), and the pool
has their handlers and those it had before. The functions that send messages come first, with the
key that codes are encrypted with (`AuthProperties.exists_userPool_spec`). The handlers of events
follow, and since no event is named like a sender, none is refused (`Blueprint.wireAuth_spec`).
-/

namespace CloudSynth

variable {φ : Type}

namespace UserPool

variable {pool attached : UserPool φ} {event name : String} {handler : φ}

theorem addTrigger_of_free (free : pool.trigger? event = none) (handler : φ) :
    pool.addTrigger event handler =
      .ok { pool with triggers := pool.triggers.insert event handler } := by
  have absent : pool.triggers.contains event = false := by
    simpa [SortedMap.contains, trigger?] using free
  simp [addTrigger, absent]

/-- The handlers of the pool, together with those of a list. -/
structure Gains (pool attached : UserPool φ) (added : List (String × φ)) : Prop where
  id : attached.id = pool.id
  trigger? : ∀ name handler, attached.trigger? name = some handler ↔
    (name, handler) ∈ added ∨ pool.trigger? name = some handler

theorem Gains.refl (pool : UserPool φ) : Gains pool pool [] := by
  constructor
  · rfl
  · simp

theorem Gains.trans {later : UserPool φ} {added more : List (String × φ)}
    (gains : Gains pool attached added) (gainsMore : Gains attached later more) :
    Gains pool later (added ++ more) := by
  constructor
  · exact gainsMore.id.trans gains.id
  · intro name handler
    rw [gainsMore.trigger?, gains.trigger?, List.mem_append, or_left_comm, or_assoc]

theorem gains_addTrigger (free : pool.trigger? event = none)
    (added : pool.addTrigger event handler = .ok attached) :
    Gains pool attached [(event, handler)] := by
  rw [addTrigger_of_free free] at added
  cases added
  refine ⟨rfl, ?_⟩
  intro name other
  simp only [trigger?, SortedMap.find?_insert, List.mem_singleton, Prod.mk.injEq]
  split
  · next same =>
    subst same
    change pool.triggers.find? event = none at free
    simp [free, eq_comm]
  · next different => simp [Ne.symm different]

/-- What the pool has not gained stays free. -/
theorem Gains.free {added : List (String × φ)} (gains : Gains pool attached added)
    (free : pool.trigger? name = none) (absent : name ∉ added.map (·.1)) :
    attached.trigger? name = none := by
  cases found : attached.trigger? name with
  | none => rfl
  | some handler =>
      rcases (gains.trigger? name handler).mp found with there | before
      · exact absurd (List.mem_map.mpr ⟨_, there, rfl⟩) absent
      · rw [free] at before
        cases before

/-- Distinct events that are new to the pool can all be attached. -/
theorem exists_addTriggers {added : List (String × φ)} (distinct : (added.map (·.1)).Nodup)
    (free : ∀ name ∈ added.map (·.1), pool.trigger? name = none) :
    ∃ attached, added.foldlM (fun pool entry => pool.addTrigger entry.1 entry.2) pool =
        (.ok attached : Except ConstructError (UserPool φ)) ∧
      Gains pool attached added ∧ attached.keyArn = pool.keyArn := by
  induction added generalizing pool with
  | nil => exact ⟨pool, rfl, .refl pool, rfl⟩
  | cons entry rest ih =>
      rw [List.map_cons, List.nodup_cons] at distinct
      rw [List.map_cons, List.forall_mem_cons] at free
      have first := addTrigger_of_free free.1 entry.2
      have gains := gains_addTrigger free.1 first
      have freeRest : ∀ name ∈ rest.map (·.1),
          ({ pool with triggers := pool.triggers.insert entry.1 entry.2 } :
            UserPool φ).trigger? name = none := by
        intro name there
        apply gains.free (free.2 name there)
        intro isEntry
        rw [List.map_singleton, List.mem_singleton] at isEntry
        exact distinct.1 (isEntry ▸ there)
      rcases ih distinct.2 freeRest with ⟨attached, added, gainsRest, key⟩
      refine ⟨attached, ?_, gains.trans gainsRest, key⟩
      rw [List.foldlM_cons, first]
      exact added

end UserPool

/-! ## Senders -/

/-- The functions that send messages, with the names that the user pool has for them. -/
def customSenders (emailSender : Option (EmailSender φ)) (smsSender : Option (SmsSender φ)) :
    List (String × CustomSender φ) :=
  ((emailSender.bind (·.custom?)).map fun sender => ("customEmailSender", sender)).toList ++
  ((smsSender.bind (·.custom?)).map fun sender => ("customSmsSender", sender)).toList

namespace AuthProperties

variable {properties : AuthProperties φ}

theorem attachSender_spec {event : String} {pool : UserPool φ} (free : pool.trigger? event = none)
    (sender : Option (CustomSender φ)) :
    ∃ attached, attachSender event sender pool = .ok attached ∧
      pool.Gains attached (sender.map fun sender => (event, sender.handler)).toList ∧
      attached.keyArn = (sender.bind (·.keyArn)).or pool.keyArn := by
  cases sender with
  | none => exact ⟨pool, rfl, .refl pool, rfl⟩
  | some sender =>
      have added := UserPool.addTrigger_of_free free sender.handler
      have gains := UserPool.gains_addTrigger free added
      rw [attachSender, added]
      refine ⟨_, rfl, ?_⟩
      cases key : sender.keyArn with
      | none => exact ⟨gains, by simp [UserPool.withKey, key]⟩
      | some arn => exact ⟨⟨gains.id, gains.trigger?⟩, by simp [UserPool.withKey, key]⟩

/-- The pool has the functions that send messages and the key of the last that names one. -/
theorem exists_userPool_spec (properties : AuthProperties φ) (stack : Stack) :
    ∃ pool, properties.userPool stack = .ok pool ∧
      (∀ name handler, pool.trigger? name = some handler ↔ (name, handler) ∈
        (customSenders properties.emailSender properties.smsSender).map fun sender =>
          (sender.1, sender.2.handler)) ∧
      pool.keyArn = properties.smsKey?.or properties.emailKey? := by
  let poolId := stack.region ++ "_" ++ properties.shortSuffix
  let empty : UserPool φ := UserPool.new poolId (stack.arn "cognito-idp" ("userpool/" ++ poolId))
  have free : ∀ name, empty.trigger? name = none := fun name => rfl
  rcases attachSender_spec (free "customEmailSender")
    (properties.emailSender.bind (·.custom?)) with ⟨mailing, first, gains, key⟩
  have freeSms : mailing.trigger? "customSmsSender" = none := by
    apply gains.free (free _)
    cases properties.emailSender.bind (·.custom?) <;> simp
  rcases attachSender_spec freeSms (properties.smsSender.bind (·.custom?)) with
    ⟨pool, second, gainsSms, keySms⟩
  refine ⟨pool, ?_, ?_, ?_⟩
  · change (attachSender _ _ empty).bind _ = _
    rw [first]
    exact second
  · intro name handler
    rw [(gains.trans gainsSms).trigger?, free]
    simp only [customSenders, reduceCtorEq, or_false]
    cases properties.emailSender.bind (·.custom?) <;>
      cases properties.smsSender.bind (·.custom?) <;> simp
  · rw [keySms, key]
    exact congrArg _ (Option.or_none)

/-- The key of the pool is the key of every sender that names one. -/
theorem key_iff_of_check (consistent : properties.check = .ok ()) {key : String} :
    properties.smsKey?.or properties.emailKey? = some key ↔
      ∃ sender ∈ customSenders properties.emailSender properties.smsSender,
        sender.2.keyArn = some key := by
  have named : (∃ sender ∈ customSenders properties.emailSender properties.smsSender,
      sender.2.keyArn = some key) ↔
        properties.emailKey? = some key ∨ properties.smsKey? = some key := by
    simp only [customSenders, emailKey?, smsKey?]
    cases properties.emailSender.bind (·.custom?) <;>
      cases properties.smsSender.bind (·.custom?) <;> simp
  have same := properties.avoids_keysDiffer_iff.mp
    (properties.check_eq_ok_iff.mp consistent .keysDiffer)
  rw [named]
  cases mail : properties.emailKey? with
  | none => simp
  | some mailKey =>
      cases sms : properties.smsKey? with
      | none => simp
      | some textKey => simp [same mailKey mail textKey sms]

end AuthProperties

namespace AuthConstruct

variable {stack after : Stack} {id : String} {properties : AuthProperties φ}
  {construct : AuthConstruct φ}

/-- A construct is built from consistent properties; its outputs are theirs, and its pool has the
functions that send messages. -/
theorem assembled_of_create (built : create stack id properties = (.ok construct, after)) :
    properties.check = .ok () ∧
      construct.output = properties.output after construct.resources ∧
      (∀ name handler, construct.resources.userPool.trigger? name = some handler ↔
        (name, handler) ∈ (customSenders properties.emailSender properties.smsSender).map
          fun sender => (sender.1, sender.2.handler)) ∧
      construct.resources.userPool.keyArn = properties.smsKey?.or properties.emailKey? := by
  unfold create at built
  split at built
  · cases built
  · next consistent =>
    rcases registered : stack.addAll (properties.registrations id) with ⟨failure | _, later⟩
    · rw [registered] at built
      cases built
    · rcases properties.exists_userPool_spec later with ⟨pool, pooled, triggers, key⟩
      simp only [registered, assemble, pooled] at built
      cases built
      exact ⟨consistent, rfl, triggers, key⟩

end AuthConstruct

/-! ## Events -/

namespace TriggerEvent

theorem ofName?_name (event : TriggerEvent) : ofName? event.name = some event := by
  cases event <;> decide

theorem name_injective : Function.Injective name := by
  intro event other same
  have found := ofName?_name event
  rw [same, ofName?_name other] at found
  exact (Option.some.inj found).symm

end TriggerEvent

theorem nodup_events {ρ : Type} (triggers : Triggers ρ) : (triggers.toList.map (·.1)).Nodup := by
  have events : triggers.toList.map (·.1) =
      TriggerEvent.every.filter fun event => (triggers.handler? event).isSome := by
    simp only [Triggers.toList, List.map_filterMap, Option.map_map]
    rw [← List.filterMap_eq_filter]
    refine List.filterMap_congr ?_
    intro event _
    cases handled : triggers.handler? event <;> simp [Option.guard, handled]
  rw [events]
  exact List.Nodup.filter _ (by decide)

theorem event_ne_of_mem_customSenders {emailSender : Option (EmailSender φ)}
    {smsSender : Option (SmsSender φ)} {sender : String × CustomSender φ}
    (sends : sender ∈ customSenders emailSender smsSender) (event : TriggerEvent) :
    sender.1 ≠ event.name := by
  have named : sender.1 ∈ ["customEmailSender", "customSmsSender"] := by
    simp only [customSenders, List.mem_append, Option.mem_toList, Option.map_eq_some_iff] at sends
    rcases sends with ⟨_, _, rfl⟩ | ⟨_, _, rfl⟩ <;> simp
  have apart : ∀ name ∈ ["customEmailSender", "customSmsSender"], name ≠ event.name := by
    cases event <;> decide
  exact apart sender.1 named

/-- A pool that is created has a handler for none of the events. -/
theorem AuthConstruct.trigger?_event_of_create {stack after : Stack} {id : String}
    {properties : AuthProperties φ} {construct : AuthConstruct φ}
    (built : create stack id properties = (.ok construct, after)) (event : TriggerEvent) :
    construct.resources.userPool.trigger? event.name = none := by
  rcases assembled_of_create built with ⟨_, _, triggers, _⟩
  cases attached : construct.resources.userPool.trigger? event.name with
  | none => rfl
  | some handler =>
      rcases List.mem_map.mp ((triggers _ _).mp attached) with ⟨sender, sends, same⟩
      exact absurd (Prod.mk.inj same).1 (event_ne_of_mem_customSenders sends event)

namespace Blueprint

/-- Handlers of distinct events that are new to the pool can all be attached. -/
theorem wireAuth_spec {construct : AuthConstruct Nat} {triggers : List (TriggerEvent × Nat)}
    (distinct : (triggers.map (·.1)).Nodup)
    (free : ∀ event : TriggerEvent, construct.resources.userPool.trigger? event.name = none)
    (name : String) :
    ∃ wired, wireAuth name triggers construct = .ok wired ∧
      construct.resources.userPool.Gains wired.resources.userPool
        (triggers.map fun trigger => (trigger.1.name, trigger.2)) ∧
      wired.resources.userPool.keyArn = construct.resources.userPool.keyArn ∧
      wired.output = construct.output := by
  have names : ((triggers.map fun trigger => (trigger.1.name, trigger.2)).map (·.1)).Nodup := by
    simpa only [List.map_map, Function.comp_def] using distinct.map TriggerEvent.name_injective
  have freeNames : ∀ name ∈ (triggers.map fun trigger => (trigger.1.name, trigger.2)).map (·.1),
      construct.resources.userPool.trigger? name = none := by
    simp only [List.map_map, List.mem_map]
    rintro _ ⟨trigger, _, rfl⟩
    exact free trigger.1
  rcases UserPool.exists_addTriggers names freeNames with ⟨pool, added, gains, key⟩
  rw [List.foldlM_map] at added
  let wired : AuthConstruct Nat :=
    { construct with
      resources := { construct.resources with userPool := pool }
      tags := Tags.withFriendlyName construct.tags name }
  refine ⟨wired, ?_, gains, key, rfl⟩
  rw [wireAuth, added]
  rfl

end Blueprint

end CloudSynth
