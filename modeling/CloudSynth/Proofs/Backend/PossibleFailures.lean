import CloudSynth.Proofs.Auth.Federation
import CloudSynth.Proofs.Auth.UserPools
import CloudSynth.Proofs.Backend.Footprints
import CloudSynth.Proofs.Container.Failing

/-!
# Failures that never occur

The auth construct can be refused because an event has two handlers, and because there are external
providers but no domain for them. Neither happens in a backend, whatever is defined in it
(`Blueprint.possible_of_run`): handlers are attached to a pool that has none for their events
(`Blueprint.failsOnly_createAuth`), and external providers are translated before the construct is
made from them (`Blueprint.failsOnly_settleAuth`).
-/

namespace CloudSynth

/-- The failure is neither that an event has two handlers nor that a domain is missing. -/
def BackendError.Possible : BackendError → Prop
  | .constructInitialization _ _ _ (.duplicateTrigger _ _) => False
  | .constructInitialization _ _ _ (.invalidProps message) =>
    message ≠ AuthFault.domainMissing.message
  | _ => True

theorem AuthFault.eq_domainMissing_of_message {fault : AuthFault}
    (same : fault.message = domainMissing.message) : fault = domainMissing := by
  unfold message at same
  cases fault with
  | domainMissing => rfl
  | _ => simp at same

theorem DataConstructFault.message_ne_domainMissing (fault : DataConstructFault) :
    fault.message ≠ AuthFault.domainMissing.message := by
  intro same
  have first := congrArg (fun text => text.toList.take 1) same
  unfold message AuthFault.message at first
  cases fault <;> simp at first

namespace Blueprint

open BackendError (Possible)
open Program

variable {blueprint : Blueprint} {α : Type}

/-! ## Requests -/

theorem confined_checkDefinition (definition : Definition) :
    Confined Possible (blueprint.checkDefinition definition) := by
  have ofSite : ∀ site expected message, Confined Possible
      (Program.act (blueprint.checkSite site expected message) : blueprint.Build Unit) := by
    intro site expected message
    apply confined_act
    intro assembly failure
    unfold checkSite SiteCheck.verify DefinitionSite.verify
    cases blueprint.siteCheck with
    | none => rintro ⟨⟩
    | some check =>
        cases check with
        | recording => rintro ⟨⟩
        | conventional =>
            dsimp only
            split <;> rintro ⟨⟩
            trivial
  have ofName : ∀ name, Confined Possible
      (Program.act (blueprint.checkName name) : blueprint.Build Unit) := by
    intro name
    apply confined_act
    intro assembly failure
    unfold checkName NameCheck.validate ResourceName.validate
    cases blueprint.nameCheck with
    | none => rintro ⟨⟩
    | some check =>
        cases name with
        | none => rintro ⟨⟩
        | some name =>
            cases check with
            | recording => rintro ⟨⟩
            | rejecting =>
                rintro ⟨⟩
                trivial
            | standard =>
                dsimp only
                split <;> rintro ⟨⟩
                trivial
  cases definition with
  | function settings site =>
      simp only [checkDefinition]
      cases settings.resolve site with
      | error fault => cases fault <;> trivial
      | ok resolved => exact ofName _
  | stub name => trivial
  | auth settings site => exact (ofSite _ _ _).bind fun _ _ => ofName _
  | data settings site => exact (ofSite _ _ _).bind fun _ _ => ofName _

theorem confined_instanceOf (factory : blueprint.Factory) :
    Confined Possible (blueprint.instanceOf factory) :=
  (confined_checkDefinition _).bind fun _ _ => confined_entryOf factory

theorem confined_named (name : String) : Confined Possible (blueprint.named name) := by
  unfold named
  split <;> trivial

theorem confined_resolveReference (reference : Reference) (admits : ResourceKind → Bool) :
    Confined Possible (blueprint.resolveReference reference admits) := by
  have required : Confined Possible (reference.requires.forM fun name => do
      let factory ← blueprint.named name
      discard (blueprint.instanceOf factory)) := by
    apply confined_forM_list
    intro name
    exact (confined_named name).bind fun factory _ => (confined_instanceOf factory).discard
  refine required.bind fun _ _ => (confined_named _).bind fun factory _ => ?_
  split
  · exact confined_instanceOf factory
  · trivial

theorem confined_resolveHandler (reference : Reference) :
    Confined Possible (blueprint.resolveHandler reference) :=
  (confined_resolveReference reference handles).bind fun _ _ => trivial

theorem confined_builtFunction (number : Nat) :
    Confined Possible (blueprint.builtFunction number) := by
  refine FailsOnly.bind confined_get fun assembly _ => ?_
  split <;> trivial

theorem confined_builtAuth (number : Nat) : Confined Possible (blueprint.builtAuth number) := by
  refine FailsOnly.bind confined_get fun assembly _ => ?_
  split <;> trivial

/-! ## Policies -/

/-- Nothing fails when policies are accepted. -/
theorem failsOnly_acceptorOf (holder : Instance) (role : Option String) :
    (blueprint.acceptorOf holder role).FailsOnly Possible
      fun acceptor => ∀ issued entries, Confined Possible (acceptor.accept issued entries) := by
  have ofFunction : ∀ factory, (blueprint.functionAcceptor factory role).FailsOnly Possible
      fun acceptor => ∀ issued entries, Confined Possible (acceptor.accept issued entries) := by
    intro factory
    refine (confined_builtFunction factory).bind fun built _ => ?_
    cases role with
    | none => exact fun issued entries => confined_modify _
    | some role =>
        dsimp only
        unfold noFunctionRole
        cases built.origin <;> trivial
  have ofAuth : ∀ factory, (blueprint.authAcceptor factory role).FailsOnly Possible
      fun acceptor => ∀ issued entries, Confined Possible (acceptor.accept issued entries) := by
    intro factory
    refine (confined_builtAuth factory).bind fun built _ => ?_
    cases role with
    | none => trivial
    | some identifier =>
        dsimp only
        cases built.construct.resources.roleNamed? identifier with
        | none => trivial
        | some named => exact fun issued entries => confined_modify _
  unfold acceptorOf
  cases holder.kind with
  | function | stub => exact ofFunction _
  | auth => exact ofAuth _
  | data => trivial

section Grants

variable {resource : String} {entries : List ParameterEntry} {statementsFor : α → List Statement}

theorem confined_arbitrateOne (index : Nat) (grant : Grant Reference α) :
    Confined Possible
      ((blueprint.arbiter resource entries statementsFor).arbitrateOne index grant) := by
  have accepts : (blueprint.granteeAcceptor grant.grantee).FailsOnly Possible
      fun acceptor => ∀ issued entries, Confined Possible (acceptor.accept issued entries) :=
    (confined_resolveReference grant.grantee isGrantee).bind
      fun grantee _ => failsOnly_acceptorOf grantee none
  refine accepts.bind fun acceptor accepts => ?_
  refine (confined_modifyGet _).bind fun issued _ => ?_
  exact (accepts issued entries).bind fun _ _ => trivial

theorem confined_arbitrateFrom (index : Nat) (grants : List (Grant Reference α)) :
    Confined Possible
      ((blueprint.arbiter resource entries statementsFor).arbitrateFrom index grants) := by
  induction grants generalizing index with
  | nil => trivial
  | cons grant rest ih =>
      refine (confined_arbitrateOne index grant).bind fun issued _ => ?_
      exact (ih (index + 1)).bind fun others _ => trivial

theorem confined_grant (named : List (String × String)) (grants : List (Grant Reference α)) :
    Confined Possible (do
      let entries ← modifyGet fun assembly : Assembly => assembly.publish named
      (blueprint.arbiter resource entries statementsFor).arbitrate grants) :=
  FailsOnly.bind (confined_modifyGet _) fun _ _ => confined_arbitrateFrom 0 grants

end Grants

/-! ## Functions -/

theorem possible_of_addAll {stack after : Stack} {resources : List StackResource}
    {failure : ConstructError} (refused : stack.addAll resources = (.error failure, after))
    (kind : ConstructKind) : Possible (.ofConstruct kind failure) := by
  rcases Stack.exists_stopsAt refused with ⟨_, _, _, _, _, rfl, _⟩
  trivial

theorem confined_buildFunction (factory : Nat) (resolved : ResolvedFunction) :
    Confined Possible
      (Program.act (·.buildFunction factory resolved) : blueprint.Build Instance) := by
  apply confined_act
  intro assembly failure
  unfold Assembly.buildFunction
  dsimp only
  split
  · next refused =>
    rintro ⟨⟩
    exact possible_of_addAll refused .function
  · rintro ⟨⟩

/-! ## The auth resource -/

theorem confined_settleSender (sender : CustomSender Reference) :
    Confined Possible (blueprint.settleSender sender) :=
  (confined_resolveHandler sender.handler).bind fun _ _ => trivial

/-- The federation is that of the settings. -/
theorem failsOnly_settleAuth (name : String) (settings : AuthSettings Reference) :
    (blueprint.settleAuth name settings).FailsOnly Possible fun properties =>
      properties.federation = settings.login.external.map (·.federation blueprint.identifier) := by
  have email : Confined Possible (settings.emailSender.mapM blueprint.settleEmailSender) := by
    apply confined_mapM_option
    rintro (_ | sender)
    · trivial
    · exact (confined_settleSender sender).bind fun _ _ => trivial
  have sms : Confined Possible (settings.smsSender.mapM blueprint.settleSmsSender) := by
    apply confined_mapM_option
    rintro (_ | sender)
    · trivial
    · exact (confined_settleSender sender).bind fun _ _ => trivial
  exact email.bind fun _ _ => sms.bind fun _ _ => rfl

/-- The events are those of the settings. -/
theorem failsOnly_resolveTriggers (settings : AuthSettings Reference) :
    (blueprint.resolveTriggers settings).FailsOnly Possible fun triggers =>
      triggers.map (·.1) = settings.triggers.toList.map (·.1) := by
  apply failsOnly_mapM_list
  intro trigger
  exact (confined_resolveHandler trigger.2).bind fun _ _ => rfl

theorem possible_of_createAuth {properties : AuthProperties Nat}
    {external : Option ExternalProviders} {identifier : BackendIdentifier}
    (translated : properties.federation = external.map (·.federation identifier))
    {stack after : Stack} {name : String} {failure : ConstructError}
    (refused : AuthConstruct.create stack name properties = (.error failure, after)) :
    Possible (.ofConstruct .auth failure) := by
  cases checked : properties.check with
  | ok =>
      rcases AuthConstruct.stopsAt_of_create checked refused with ⟨_, _, _, _, _, rfl, _⟩
      trivial
  | error fault =>
      rw [(AuthConstruct.creation stack name properties).inconsistent fault checked] at refused
      cases refused
      intro same
      rw [AuthFault.eq_domainMissing_of_message same] at checked
      exact AuthProperties.check_ne_domainMissing translated checked

/-- A pool that is created has a handler for none of the events. -/
theorem failsOnly_createAuth {properties : AuthProperties Nat} {external : Option ExternalProviders}
    (translated : properties.federation = external.map (·.federation blueprint.identifier))
    (name : String) :
    (Program.act (createAuth name properties) : blueprint.Build (AuthConstruct Nat)).FailsOnly
      Possible fun created => ∀ event : TriggerEvent,
        created.resources.userPool.trigger? event.name = none := by
  apply FailsOnly.act
  · intro assembly failure
    change (AuthConstruct.create _ name properties).1.mapError _ = _ → _
    rcases made : AuthConstruct.create (assembly.stackSet.stackFor ResourceKind.auth.group) name
      properties with ⟨refused | created, after⟩
    · rintro ⟨⟩
      exact possible_of_createAuth translated made
    · rintro ⟨⟩
  · intro assembly created outcome
    rcases made : AuthConstruct.create (assembly.stackSet.stackFor ResourceKind.auth.group) name
      properties with ⟨refused | other, after⟩
    · simp only [createAuth, made] at outcome
      cases outcome
    · simp only [createAuth, made] at outcome
      cases outcome
      exact AuthConstruct.trigger?_event_of_create made

theorem confined_finishAuth (factory : Nat) (settings : AuthSettings Reference)
    {triggers : List (TriggerEvent × Nat)} (distinct : (triggers.map (·.1)).Nodup)
    {created : AuthConstruct Nat}
    (free : ∀ event : TriggerEvent, created.resources.userPool.trigger? event.name = none) :
    Confined Possible (blueprint.finishAuth factory settings triggers created) := by
  rcases wireAuth_spec distinct free settings.resolvedName with ⟨wired, wiring, _⟩
  have wires : Confined Possible (Program.ofExcept
      (wireAuth settings.resolvedName triggers created) : blueprint.Build (AuthConstruct Nat)) := by
    rw [wiring]
    trivial
  refine wires.bind fun wired _ => ?_
  refine FailsOnly.bind (confined_modify _) fun _ _ => ?_
  refine (confined_forM_option fun grants => (confined_grant _ grants).discard).bind fun _ _ => ?_
  exact FailsOnly.bind (confined_modify _) fun _ _ => trivial

theorem confined_buildAuth (factory : Nat) (settings : AuthSettings Reference) :
    Confined Possible (blueprint.buildAuth factory settings) := by
  rw [buildAuth_eq]
  -- What the first steps promise is what rules the two failures out in the last.
  refine (failsOnly_settleAuth _ settings).bind fun properties translated => ?_
  refine (failsOnly_resolveTriggers settings).bind fun triggers events => ?_
  have distinct : (triggers.map (·.1)).Nodup := events ▸ nodup_events settings.triggers
  exact (failsOnly_createAuth translated _).bind fun created free =>
    confined_finishAuth factory settings distinct free

/-! ## The data resource -/

theorem confined_providedAuth (token : String) :
    Confined Possible (blueprint.providedAuth token) := by
  refine FailsOnly.bind confined_get fun assembly _ => ?_
  split
  · trivial
  · refine (confined_instanceOf _).bind fun found _ => ?_
    exact (confined_builtAuth _).bind fun built _ => trivial

theorem confined_ofData (outcome : Except DataFault α) :
    Confined Possible (blueprint.ofData outcome) := by
  cases outcome <;> trivial

theorem confined_settleDataWith (auth : Option BuiltAuth) (name : String)
    (settings : DataSettings Reference) :
    Confined Possible (blueprint.settleDataWith auth name settings) := by
  have authorizer : ∀ authorizer, Confined Possible (blueprint.settleAuthorizer authorizer) :=
    fun authorizer => (confined_resolveHandler authorizer.function).bind fun _ _ => trivial
  have functions : Confined Possible (blueprint.resolveFunctions settings.functions) := by
    have resolved : ∀ entry : String × Reference, (do
        return (entry.1, ← blueprint.resolveHandler entry.2) :
          blueprint.Build (String × Nat)).FailsOnly Possible fun result => result.1 = entry.1 :=
      fun entry => (confined_resolveHandler entry.2).bind fun _ _ => rfl
    exact (failsOnly_mapM_list resolved _).bind fun _ _ => trivial
  refine (confined_ofData _).bind fun modes _ => ?_
  refine (confined_mapM_option authorizer).bind fun authorizer _ => ?_
  refine (confined_ofData _).bind fun _ _ => functions.bind fun functions _ => ?_
  exact (confined_ofData _).bind fun _ _ => trivial

theorem confined_createData (auth : Option Nat) (name : String) (properties : DataProperties Nat) :
    Confined Possible
      (Program.act (createData auth name properties) : blueprint.Build (DataConstruct Nat)) := by
  apply confined_act
  intro assembly failure
  change (DataConstruct.create _ name properties).1.mapError _ = _ → _
  unfold DataConstruct.create
  split
  · next fault _ =>
    rintro ⟨⟩
    exact fault.message_ne_domainMissing
  · split
    · next refused =>
      rintro ⟨⟩
      exact possible_of_addAll refused .data
    · rintro ⟨⟩

theorem confined_buildData (factory : Nat) (settings : DataSettings Reference) :
    Confined Possible (blueprint.buildData factory settings) := by
  rw [buildData_eq]
  refine (confined_providedAuth _).bind fun auth _ => ?_
  rw [completeData_eq]
  refine (confined_settleDataWith _ _ settings).bind fun properties _ => ?_
  refine (confined_createData _ _ properties).bind fun created _ => ?_
  refine FailsOnly.bind (confined_modify _) fun _ _ => ?_
  refine (confined_forM_option fun grants => (confined_grant _ grants).discard).bind fun _ _ => ?_
  exact FailsOnly.bind (confined_modify _) fun _ _ => trivial

/-! ## Every request -/

theorem confined_body (factory : blueprint.Factory) :
    Confined Possible (blueprint.catalogue.generator factory).body := by
  refine FailsOnly.bind (confined_modify _) fun _ _ => ?_
  cases defined : blueprint.definition factory with
  | function settings site =>
      simp only [build]
      cases settings.resolve site with
      | error fault => cases fault <;> trivial
      | ok resolved => exact confined_buildFunction factory resolved
  | stub name =>
      apply confined_act
      rintro assembly failure ⟨⟩
  | auth settings site => exact confined_buildAuth factory settings
  | data settings site => exact confined_buildData factory settings

/-- Neither failure occurs, in whatever container an instance is requested. -/
theorem possible_of_run {factory : blueprint.Factory} {container : BackendContainer}
    {failure : BackendError}
    (failed : (blueprint.catalogue.run (blueprint.instanceOf factory) container).1 =
      .error failure) : Possible failure :=
  Catalogue.failsOnly_run blueprint.listed (fun _ => trivial) (fun _ => trivial) confined_body
    (confined_instanceOf factory) failed

end Blueprint

end CloudSynth
