import CloudSynth.Proofs.Backend.Functions

/-!
# Programs that only ask

What resolves references and settles settings does nothing but ask for instances, one after another
(`Blueprint.Asks`). Whatever is kept by every request is therefore kept by it.
-/

namespace CloudSynth.Blueprint

variable {blueprint : Blueprint} {α β : Type}

/-- The program does nothing but ask for instances. -/
inductive Asks : {α : Type} → blueprint.Build α → Prop
  | finish {α : Type} (outcome : Except BackendError α) : Asks (.finish outcome)
  | instanceOf (factory : blueprint.Factory) : Asks (blueprint.instanceOf factory)
  | bind {α β : Type} {program : blueprint.Build α} {next : α → blueprint.Build β}
    (head : Asks program) (rest : ∀ result, Asks (next result)) : Asks (program >>= next)

namespace Asks

theorem map (change : α → β) {program : blueprint.Build α} (asks : Asks program) :
    Asks (change <$> program) := asks.bind fun _ => .finish _

theorem discard {program : blueprint.Build α} (asks : Asks program) : Asks (discard program) :=
  asks.bind fun _ => .finish _

theorem forM_list {act : α → blueprint.Build PUnit} (every : ∀ item, Asks (act item))
    (items : List α) : Asks (items.forM act) := by
  induction items with
  | nil => exact .finish _
  | cons item rest ih => exact (every item).bind fun _ => ih

theorem mapM_list {act : α → blueprint.Build β} (every : ∀ item, Asks (act item))
    (items : List α) : Asks (items.mapM act) := by
  induction items with
  | nil => exact .finish _
  | cons item rest ih =>
      rw [List.mapM_cons]
      exact (every item).bind fun _ => ih.bind fun _ => .finish _

theorem mapM_option {act : α → blueprint.Build β} (every : ∀ item, Asks (act item))
    (item : Option α) : Asks (item.mapM act) := by
  cases item with
  | none => exact .finish _
  | some item => exact (every item).map some

end Asks

/-! ## References -/

theorem asks_named (name : String) : Asks (blueprint.named name) := by
  unfold named
  split <;> exact .finish _

theorem asks_required (names : List String) :
    Asks (names.forM fun name => do
      let factory ← blueprint.named name
      discard (blueprint.instanceOf factory)) := by
  apply Asks.forM_list
  intro name
  exact (asks_named name).bind fun factory => (Asks.instanceOf factory).discard

theorem asks_resolveReference (reference : Reference) (admits : ResourceKind → Bool) :
    Asks (blueprint.resolveReference reference admits) := by
  refine (asks_required reference.requires).bind fun _ => ?_
  refine (asks_named reference.name).bind fun factory => ?_
  split
  · exact .instanceOf factory
  · exact .finish _

theorem asks_resolveHandler (reference : Reference) :
    Asks (blueprint.resolveHandler reference) :=
  (asks_resolveReference reference handles).bind fun _ => .finish _

/-! ## Settings -/

theorem asks_settleSender (sender : CustomSender Reference) :
    Asks (blueprint.settleSender sender) :=
  (asks_resolveHandler sender.handler).bind fun _ => .finish _

theorem asks_settleEmailSender (sender : EmailSender Reference) :
    Asks (blueprint.settleEmailSender sender) := by
  cases sender with
  | ses fromEmail fromName replyTo => exact .finish _
  | custom sender => exact (asks_settleSender sender).bind fun _ => .finish _

theorem asks_settleSmsSender (sender : SmsSender Reference) :
    Asks (blueprint.settleSmsSender sender) := by
  cases sender with
  | sns externalId callerArn region => exact .finish _
  | custom sender => exact (asks_settleSender sender).bind fun _ => .finish _

theorem asks_settleAuth (name : String) (settings : AuthSettings Reference) :
    Asks (blueprint.settleAuth name settings) := by
  refine (Asks.mapM_option asks_settleEmailSender _).bind fun _ => ?_
  exact (Asks.mapM_option asks_settleSmsSender _).bind fun _ => .finish _

theorem asks_resolveTriggers (settings : AuthSettings Reference) :
    Asks (blueprint.resolveTriggers settings) := by
  apply Asks.mapM_list
  intro trigger
  exact (asks_resolveHandler trigger.2).bind fun _ => .finish _

theorem asks_settleAuthorizer (authorizer : Authorizer Reference) :
    Asks (blueprint.settleAuthorizer authorizer) :=
  (asks_resolveHandler authorizer.function).bind fun _ => .finish _

theorem asks_resolveFunctions (functions : SortedMap Reference) :
    Asks (blueprint.resolveFunctions functions) := by
  refine Asks.bind ?_ fun _ => .finish _
  apply Asks.mapM_list
  intro entry
  exact (asks_resolveHandler entry.2).bind fun _ => .finish _

theorem asks_settleDataWith (auth : Option BuiltAuth) (name : String)
    (settings : DataSettings Reference) :
    Asks (blueprint.settleDataWith auth name settings) := by
  refine (Asks.finish _).bind fun _ => ?_
  refine (Asks.mapM_option asks_settleAuthorizer _).bind fun _ => ?_
  refine (Asks.finish _).bind fun _ => ?_
  refine (asks_resolveFunctions _).bind fun _ => ?_
  exact (Asks.finish _).bind fun _ => .finish _

end CloudSynth.Blueprint
