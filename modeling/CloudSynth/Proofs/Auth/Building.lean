import CloudSynth.Proofs.Auth.Settling
import CloudSynth.Proofs.Backend.FunctionNames

/-!
# Requests that build the auth resource

A request for an auth resource that is not there settles the properties, resolves the handlers of
events, builds the construct in the auth stack, attaches the handlers and finishes the resource, or
it fails (`Blueprint.exists_madeAuth`). What is said about a built resource is read off these steps.
If the resource is the only one of its kind, nothing else registers resources in its stack
meanwhile or writes its outputs (`Blueprint.MadeAuth.sole`).
-/

namespace CloudSynth.Blueprint

variable {blueprint : Blueprint} {own : blueprint.Factory} {settings : AuthSettings Reference}
  {site : DefinitionSite} {container after : BackendContainer}

/-- The stack that auth resources are built in. -/
def authStack (assembly : Assembly) : Stack := assembly.stackSet.stackFor ResourceKind.auth.group

/-- An auth resource has been built: from what properties and handlers, in what stack, and what is
there now. -/
structure MadeAuth (own : blueprint.Factory) (settings : AuthSettings Reference)
    (before after : BackendContainer) (properties : AuthProperties Nat)
    (triggers : List (TriggerEvent × Nat)) (created wired : AuthConstruct Nat)
    (stack later : Stack) : Prop where
  settled : blueprint.SettledAuth settings after properties
  resolved : blueprint.ResolvedTriggers settings after triggers
  creation : AuthConstruct.create stack settings.resolvedName properties = (.ok created, later)
  wiring : wireAuth settings.resolvedName triggers created = .ok wired
  stored : ∃ stackName, after.state.auths.find? own = some ⟨wired, stackName⟩
  regular : blueprint.Regular after
  sole : Sole own → stack = authStack before.state ∧ authStack after.state = later ∧
    after.state.outputs.find? authOutputKey = some wired.output

theorem kindOf_eq_auth (defined : blueprint.definition own = .auth settings site) :
    blueprint.kindOf own = .auth := by
  rw [kindOf, defined]
  rfl

theorem sameOwn_of_asks (defined : blueprint.definition own = .auth settings site)
    (sole : Sole own) {α : Type} {program : blueprint.Build α} (asks : Asks program)
    (running : Cyclic container own) {outcome : Except BackendError α}
    (done : blueprint.catalogue.run program container = (outcome, after)) :
    authStack after.state = authStack container.state := by
  have isAuth := kindOf_eq_auth defined
  have kept := sameOwn_of_composed (not_isHandler_of_auth isAuth) sole asks.composed running done
  have same := kept.stack
  rwa [isAuth] at same

theorem create_of_createAuth {name : String} {properties : AuthProperties Nat} {assembly : Assembly}
    {created : AuthConstruct Nat} (made : (createAuth name properties assembly).1 = .ok created) :
    AuthConstruct.create (authStack assembly) name properties =
      (.ok created, authStack (createAuth name properties assembly).2) := by
  have put : authStack (createAuth name properties assembly).2 =
      (AuthConstruct.create (authStack assembly) name properties).2 :=
    StackSet.stackFor_put_self _ _ _
  have outcome : (AuthConstruct.create (authStack assembly) name properties).1.mapError
      (BackendError.ofConstruct .auth) = .ok created := made
  rcases built : AuthConstruct.create (authStack assembly) name properties with
    ⟨failure | other, later⟩
  · rw [built] at outcome
    cases outcome
  · rw [built] at outcome put
    cases outcome
    rw [put]

/-- What finishing the resource does when its handlers are attached. -/
theorem finished_of_run_finishAuth (defined : blueprint.definition own = .auth settings site)
    {triggers : List (TriggerEvent × Nat)} {created : AuthConstruct Nat} {found : Instance}
    (running : Cyclic container own)
    (done : blueprint.catalogue.run (blueprint.finishAuth own settings triggers created) container =
      (.ok found, after)) :
    ∃ wired, wireAuth settings.resolvedName triggers created = .ok wired ∧
      (∃ stackName, after.state.auths.find? own = some ⟨wired, stackName⟩) ∧
      (Sole own → authStack after.state = authStack container.state ∧
        after.state.outputs.find? authOutputKey = some wired.output) := by
  have isAuth := kindOf_eq_auth defined
  simp only [finishAuth, Catalogue.run_bind_eq_ok blueprint.listed, Catalogue.run_ofExcept,
    Catalogue.run_modify, Catalogue.run_pure] at done
  rcases done with ⟨wired, _, wiring, _, _, storing, _, granted, granting, _, _, inserting, ended⟩
  rcases Prod.mk.inj wiring with ⟨wires, rfl⟩
  cases storing
  cases inserting
  cases ended
  refine ⟨wired, wires, ⟨_, OrderedMap.find?_insert_self _ _ _⟩, ?_⟩
  intro sole
  have stored : Cyclic { container with state := { container.state with
      outputs := container.state.outputs.store authOutputKey wired.output } } own := running
  have granting_composed : Composed .stub 0 (settings.access.forM fun grants =>
      discard (blueprint.grantAuth settings.resolvedName wired.resources grants)) :=
    Composed.forM_option (fun grants => composed_grant _ grants) settings.access
  rcases sameOwn_of_composed (not_isHandler_of_auth isAuth) sole granting_composed stored
    granting with ⟨stack, output⟩
  rw [isAuth] at stack output
  exact ⟨stack, output.trans (by rw [OutputStorage.find?_store]; exact if_pos rfl)⟩

/-- A request that succeeds has built the resource, if it was not there. -/
theorem exists_madeAuth (regular : blueprint.Regular container)
    (defined : blueprint.definition own = .auth settings site)
    (absent : container.contains (blueprint.idOf own) = false) {found : Instance}
    (done : blueprint.catalogue.run (blueprint.instanceOf own) container = (.ok found, after)) :
    ∃ properties triggers created wired stack later,
      MadeAuth own settings container after properties triggers created wired stack later := by
  have isAuth := kindOf_eq_auth defined
  have notHandler := not_isHandler_of_auth isAuth
  have missing := lookup?_eq_none_of_contains absent
  have idle : container.isResolving (blueprint.idOf own) = false := by
    rw [Bool.eq_false_iff]
    exact fun running => Cyclic.not_ok ⟨missing, running⟩ done
  have regularAfter : blueprint.Regular after := by
    have ended := regular_instanceOf own container regular
    rwa [done] at ended
  rw [run_instanceOf_eq_ok_of_absent missing idle, defined] at done
  rcases done with ⟨_, _, journal, inner, _, built, rfl⟩
  simp only [build, buildAuth_eq, Catalogue.run_bind_eq_ok blueprint.listed,
    Catalogue.run_act] at built
  rcases built with ⟨properties, first, settling, triggers, second, resolving, created, third,
    creating, finishing⟩
  rcases Prod.mk.inj creating with ⟨created_eq, rfl⟩
  have regularOpened := lasting_regular.opened regular regular.quiet notHandler journal
  have regularFirst := regularOpened.of_asks (asks_settleAuth _ settings) settling
  -- The resource is being resolved while its body runs, so no step of the body builds it.
  have running : Cyclic (opened container own journal) own := cyclic_opened missing journal
  have runningFirst : Cyclic first own := running.of_run settling
  have runningSecond : Cyclic second own := runningFirst.of_run resolving
  have runningThird : Cyclic { second with state :=
      (createAuth settings.resolvedName properties second.state).2 } own := runningSecond
  rcases finished_of_run_finishAuth defined runningThird finishing with
    ⟨wired, wiring, stored, finished⟩
  have extendedThird : (kept inner own).Extends { second with state :=
      (createAuth settings.resolvedName properties second.state).2 } :=
    (extends_kept inner own).trans (Catalogue.extends_of_run blueprint.listed finishing)
  have extendedSecond : (kept inner own).Extends second := extendedThird
  have extendedFirst : (kept inner own).Extends first :=
    extendedSecond.trans (Catalogue.extends_of_run blueprint.listed resolving)
  exact ⟨properties, triggers, created, wired, authStack second.state, _, {
    settled := (settledAuth_of_run regularOpened settling).of_extends extendedFirst
    resolved := (resolvedTriggers_of_run regularFirst resolving).of_extends extendedSecond
    creation := create_of_createAuth created_eq
    wiring
    stored
    regular := regularAfter
    sole := by
      intro sole
      rcases finished sole with ⟨stack, output⟩
      have settledStack :=
        sameOwn_of_asks defined sole (asks_settleAuth _ settings) running settling
      have resolvedStack :=
        sameOwn_of_asks defined sole (asks_resolveTriggers settings) runningFirst resolving
      have opening : authStack (opened container own journal).state = authStack container.state :=
        StackSet.stackFor_touch _ _ _
      exact ⟨resolvedStack.trans (settledStack.trans opening), stack, output⟩ }⟩

/-! ## What has been built -/

namespace MadeAuth

variable {properties : AuthProperties Nat} {triggers : List (TriggerEvent × Nat)}
  {created wired : AuthConstruct Nat} {stack later : Stack}
  (made : MadeAuth own settings container after properties triggers created wired stack later)

include made

theorem consistent : properties.check = .ok () :=
  (AuthConstruct.assembled_of_create made.creation).1

/-- The pool has the functions that send messages and the handlers of events, and the rest is as it
was created. -/
theorem wired_spec :
    (∀ name number, wired.resources.userPool.trigger? name = some number ↔
      (name, number) ∈ triggers.map (fun trigger => (trigger.1.name, trigger.2)) ∨
        (name, number) ∈ (customSenders properties.emailSender properties.smsSender).map
          fun sender => (sender.1, sender.2.handler)) ∧
      wired.resources.userPool.keyArn = properties.smsKey?.or properties.emailKey? ∧
      wired.output = properties.output later created.resources := by
  rcases AuthConstruct.assembled_of_create made.creation with ⟨_, output, senders, key⟩
  have distinct : (triggers.map (·.1)).Nodup := made.resolved.events ▸ nodup_events _
  have free := AuthConstruct.trigger?_event_of_create made.creation
  rcases wireAuth_spec distinct free settings.resolvedName with
    ⟨other, wiring, gains, keyKept, outputKept⟩
  rw [made.wiring] at wiring
  cases wiring
  refine ⟨?_, keyKept.trans key, outputKept.trans output⟩
  intro name number
  rw [gains.trigger?, senders]

end MadeAuth

/-! ## A portal -/

/-- A social provider and one that the user has named. -/
def portalProviders : ExternalProviders where
  google := some ⟨⟨"googleId"⟩, ⟨"googleSecret"⟩, []⟩
  facebook := none
  amazon := none
  apple := none
  oidc := [⟨"Work", ⟨"workId"⟩, ⟨"workSecret"⟩, "work"⟩]
  saml := none
  callbackUrls := ["home"]
  logoutUrls := ["home"]
  scopes := []

/-- One function greets users, and sends them mail and text messages. -/
def portalSettings : AuthSettings Reference where
  name := some "portal"
  login := ⟨some .default, none, some portalProviders⟩
  multifactor := none
  emailSender := some (.custom ⟨⟨"greeter", []⟩, some "key"⟩)
  smsSender := some (.custom ⟨⟨"greeter", []⟩, none⟩)
  groups := []
  triggers := Triggers.empty.set .postConfirmation ⟨"greeter", []⟩
  access := none

/-- A backend of users. -/
def portal : Blueprint where
  configuration := .default
  siteCheck := none
  nameCheck := none
  definitions :=
    [.function { FunctionSettings.default with name := some "greeter" } ⟨"greeter.rs", 1, 1⟩,
     .auth portalSettings ⟨"auth.rs", 1, 1⟩]
  names := OrderedMap.ofList [("greeter", 0), ("portal", 1)]

/-- Its auth resource. -/
def portalAuth : portal.Factory := ⟨1, Nat.one_lt_two⟩

/-- What comes of a request for it. -/
def requestedPortal : Except BackendError Instance × BackendContainer :=
  portal.catalogue.run (portal.instanceOf portalAuth)
    (Backend.holding portal .empty []).container

theorem sole_portal : Sole portalAuth := by
  have only : ∀ other : portal.Factory,
      portal.kindOf other = portal.kindOf portalAuth → other = portalAuth := by
    decide
  exact only

theorem requested_portal : requestedPortal = (.ok ⟨.auth, 1⟩, requestedPortal.2) := by
  have answered : requestedPortal.1 = .ok ⟨.auth, 1⟩ := by decide +kernel
  rw [← answered]

end CloudSynth.Blueprint
