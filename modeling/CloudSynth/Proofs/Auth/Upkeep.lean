import CloudSynth.Backend.Workspace
import CloudSynth.Proofs.Auth.Roles
import CloudSynth.Proofs.Container.Maintenance

/-!
# What becomes of auth resources

An auth resource is built once, and afterwards only its roles change: policies are attached to them,
by whoever was given an acceptor, and the data resource replaces those of logged-in users and guests
by the same roles with a policy more. These are all the changes (`Blueprint.AuthChange`) that are
made to the auth resources of a backend, by generators as well as by those who use the backend, so
what every change keeps is kept all the time (`Blueprint.Reached.keeps`).
-/

namespace CloudSynth

namespace DataScope

theorem names_allowCallers (scope : DataScope) (id apiArn : String) :
    (scope.allowCallers id apiArn).roles.map (·.name) = scope.roles.map (·.name) := by
  simp only [allowCallers, List.map_map]
  calc scope.roles.zipIdx.map _
      = scope.roles.zipIdx.map ((·.name) ∘ Prod.fst) :=
        List.map_congr_left fun pair _ => Role.name_attach _ _
    _ = (scope.roles.zipIdx.map Prod.fst).map (·.name) := List.map_map.symm
    _ = scope.roles.map (·.name) := by rw [List.zipIdx_map_fst]

end DataScope

theorem DataConstruct.names_create (scope : DataScope) (id : String)
    (properties : DataProperties Nat) :
    (create scope id properties).2.roles.map (·.name) = scope.roles.map (·.name) := by
  unfold create
  split
  · rfl
  · split
    · rfl
    · dsimp only
      split
      · exact DataScope.names_allowCallers _ _ _
      · rfl

namespace Blueprint

variable {blueprint : Blueprint} {α : Type}

/-! ## Changes -/

/-- What happens to the auth resources of a backend at once. -/
inductive AuthChange (blueprint : Blueprint) (before after : Assembly) : Prop
  | none (same : after.auths = before.auths)
  | build {own : blueprint.Factory} {settings : AuthSettings Reference} {site : DefinitionSite}
    (defined : blueprint.definition own = .auth settings site)
    {properties : AuthProperties Nat} (declared : properties.groups = settings.groups)
    {stack later : Stack} {created wired : AuthConstruct Nat}
    (creation : AuthConstruct.create stack settings.resolvedName properties = (.ok created, later))
    {triggers : List (TriggerEvent × Nat)}
    (wiring : wireAuth settings.resolvedName triggers created = .ok wired) {stackName : String}
    (built : after.auths = before.auths.insert own ⟨wired, stackName⟩)
  | attach {number : Nat} {role : AuthRole} {issued : IssuedPolicy}
    (attached : after = before.changeAuth number (·.attach role issued))
  | callers {number : Nat} {roles : List Role}
    (same : ∀ built, before.auths.find? number = some built →
      roles.map (·.name) = built.construct.resources.identityRoles.map (·.name))
    (replaced : after.auths = (before.changeAuth number (·.withIdentityRoles roles)).auths)

/-- Whatever happens to auth resources keeps the property. -/
def Lasts (blueprint : Blueprint) (holds : Assembly → Prop) : Prop :=
  ∀ before after, blueprint.AuthChange before after → holds before → holds after

section Upholds

variable {holds : Assembly → Prop} (lasts : blueprint.Lasts holds)

include lasts

theorem upholds_act {change : Assembly → Except BackendError α × Assembly}
    (changes : ∀ assembly, blueprint.AuthChange assembly (change assembly).2) :
    Program.Upholds holds (Program.act change : blueprint.Build α) :=
  Program.upholds_act fun assembly => lasts _ _ (changes assembly)

theorem upholds_modify {change : Assembly → Assembly}
    (changes : ∀ assembly, blueprint.AuthChange assembly (change assembly)) :
    Program.Upholds holds (modify change : blueprint.Build PUnit) :=
  Program.upholds_modify fun assembly => lasts _ _ (changes assembly)

theorem upholds_modifyGet {change : Assembly → α × Assembly}
    (changes : ∀ assembly, blueprint.AuthChange assembly (change assembly).2) :
    Program.Upholds holds (modifyGet change : blueprint.Build α) :=
  Program.upholds_modifyGet fun assembly => lasts _ _ (changes assembly)

/-! ## Requests -/

theorem upholds_checkDefinition (definition : Definition) :
    Program.Upholds holds (blueprint.checkDefinition definition) := by
  have ofSite : ∀ site expected message, Program.Upholds holds
      (Program.act (blueprint.checkSite site expected message) : blueprint.Build Unit) := by
    intro site expected message
    refine upholds_act lasts fun assembly => .none ?_
    unfold checkSite
    split <;> rfl
  have ofName : ∀ name, Program.Upholds holds
      (Program.act (blueprint.checkName name) : blueprint.Build Unit) := by
    intro name
    refine upholds_act lasts fun assembly => .none ?_
    unfold checkName
    split <;> rfl
  cases definition with
  | function settings site =>
      simp only [checkDefinition]
      cases settings.resolve site with
      | error fault => trivial
      | ok resolved => exact ofName _
  | stub name => trivial
  | auth settings site => exact (ofSite _ _ _).bind fun _ _ => ofName _
  | data settings site => exact (ofSite _ _ _).bind fun _ _ => ofName _

theorem Asks.upholds {program : blueprint.Build α} (asks : Asks program) :
    Program.Upholds holds program := by
  induction asks with
  | finish outcome => exact Program.upholds_finish outcome
  | instanceOf factory =>
      exact (upholds_checkDefinition lasts _).bind fun _ _ => Program.upholds_entryOf factory
  | bind head rest ihHead ihRest => exact ihHead.bind fun result _ => ihRest result

omit lasts in
theorem upholds_builtFunction (factory : Nat) :
    Program.Upholds holds (blueprint.builtFunction factory) := by
  refine Program.upholds_get.bind fun assembly _ => ?_
  split <;> trivial

omit lasts in
theorem upholds_builtAuth (factory : Nat) :
    Program.Upholds holds (blueprint.builtAuth factory) := by
  refine Program.upholds_get.bind fun assembly _ => ?_
  split <;> trivial

/-! ## Policies -/

/-- Whoever accepts policies attaches them to a role at most. -/
theorem maintains_acceptorOf (holder : Instance) (role : Option String) :
    (blueprint.acceptorOf holder role).Maintains holds
      fun acceptor => ∀ issued entries, Program.Upholds holds (acceptor.accept issued entries) := by
  have ofFunction : ∀ factory, (blueprint.functionAcceptor factory role).Maintains holds
      fun acceptor => ∀ issued entries,
        Program.Upholds holds (acceptor.accept issued entries) := by
    intro factory
    refine (upholds_builtFunction factory).bind fun built _ => ?_
    cases role with
    | none => exact fun issued entries => upholds_modify lasts fun assembly => .none rfl
    | some role => trivial
  have ofAuth : ∀ factory, (blueprint.authAcceptor factory role).Maintains holds
      fun acceptor => ∀ issued entries,
        Program.Upholds holds (acceptor.accept issued entries) := by
    intro factory
    refine (upholds_builtAuth factory).bind fun built _ => ?_
    cases role with
    | none => trivial
    | some identifier =>
        dsimp only
        cases built.construct.resources.roleNamed? identifier with
        | none => trivial
        | some named => exact fun issued entries => upholds_modify lasts fun assembly => .attach rfl
  unfold acceptorOf
  cases holder.kind with
  | function | stub => exact ofFunction _
  | auth => exact ofAuth _
  | data => trivial

section Grants

variable {resource : String} {entries : List ParameterEntry} {statementsFor : α → List Statement}

theorem upholds_arbitrateOne (index : Nat) (grant : Grant Reference α) :
    Program.Upholds holds
      ((blueprint.arbiter resource entries statementsFor).arbitrateOne index grant) := by
  have accepts := ((asks_resolveReference grant.grantee isGrantee).upholds lasts).bind
    fun grantee _ => maintains_acceptorOf lasts grantee none
  refine accepts.bind fun acceptor accepts => ?_
  refine (upholds_modifyGet lasts fun assembly => .none rfl).bind fun issued _ => ?_
  exact (accepts issued entries).bind fun _ _ => trivial

theorem upholds_arbitrateFrom (index : Nat) (grants : List (Grant Reference α)) :
    Program.Upholds holds
      ((blueprint.arbiter resource entries statementsFor).arbitrateFrom index grants) := by
  induction grants generalizing index with
  | nil => trivial
  | cons grant rest ih =>
      refine (upholds_arbitrateOne lasts index grant).bind fun issued _ => ?_
      exact (ih (index + 1)).bind fun others _ => trivial

theorem upholds_grant (named : List (String × String)) (grants : List (Grant Reference α)) :
    Program.Upholds holds (do
      let entries ← modifyGet fun assembly : Assembly => assembly.publish named
      (blueprint.arbiter resource entries statementsFor).arbitrate grants) :=
  Program.Maintains.bind (upholds_modifyGet lasts fun _ => .none rfl) fun _ _ =>
    upholds_arbitrateFrom lasts 0 grants

end Grants

/-! ## Generators -/

theorem upholds_buildFunction (factory : Nat) (resolved : ResolvedFunction) :
    Program.Upholds holds
      (Program.act (·.buildFunction factory resolved) : blueprint.Build Instance) := by
  refine upholds_act lasts fun assembly => .none ?_
  unfold Assembly.buildFunction
  dsimp only
  split <;> rfl

theorem maintains_settleAuth (name : String) (settings : AuthSettings Reference) :
    (blueprint.settleAuth name settings).Maintains holds
      fun properties => properties.groups = settings.groups := by
  refine ((Asks.mapM_option asks_settleEmailSender _).upholds lasts).bind fun _ _ => ?_
  exact ((Asks.mapM_option asks_settleSmsSender _).upholds lasts).bind fun _ _ => rfl

theorem maintains_createAuth (name : String) (properties : AuthProperties Nat) :
    (Program.act (createAuth name properties) : blueprint.Build (AuthConstruct Nat)).Maintains holds
      fun created => ∃ stack later,
        AuthConstruct.create stack name properties = (.ok created, later) := by
  refine .act (fun assembly => lasts _ _ (.none rfl)) fun assembly created _ outcome => ?_
  rcases made : AuthConstruct.create (assembly.stackSet.stackFor ResourceKind.auth.group) name
    properties with ⟨failure | other, later⟩
  · simp only [createAuth, made] at outcome
    cases outcome
  · simp only [createAuth, made] at outcome
    cases outcome
    exact ⟨_, later, made⟩

theorem upholds_finishAuth {own : blueprint.Factory} {settings : AuthSettings Reference}
    {site : DefinitionSite} (defined : blueprint.definition own = .auth settings site)
    {properties : AuthProperties Nat} (declared : properties.groups = settings.groups)
    {stack later : Stack} {created : AuthConstruct Nat}
    (creation : AuthConstruct.create stack settings.resolvedName properties = (.ok created, later))
    (triggers : List (TriggerEvent × Nat)) :
    Program.Upholds holds (blueprint.finishAuth own settings triggers created) := by
  refine (Program.Maintains.ofExcept fun wired wiring => wiring).bind fun wired wiring => ?_
  refine Program.Maintains.bind (upholds_modify lasts fun assembly => .none rfl) fun _ _ => ?_
  refine (Program.upholds_forM_option fun grants _ =>
    (upholds_grant lasts _ grants).discard).bind fun _ _ => ?_
  refine Program.Maintains.bind (upholds_modify lasts fun assembly => ?_) fun _ _ => trivial
  exact .build defined declared creation wiring rfl

theorem upholds_buildAuth {own : blueprint.Factory} {settings : AuthSettings Reference}
    {site : DefinitionSite} (defined : blueprint.definition own = .auth settings site) :
    Program.Upholds holds (blueprint.buildAuth own settings) := by
  rw [buildAuth_eq]
  refine (maintains_settleAuth lasts _ settings).bind fun properties declared => ?_
  refine ((asks_resolveTriggers settings).upholds lasts).bind fun triggers _ => ?_
  refine (maintains_createAuth lasts _ properties).bind ?_
  rintro created ⟨stack, later, creation⟩
  exact upholds_finishAuth lasts defined declared creation triggers

theorem upholds_providedAuth (token : String) :
    Program.Upholds holds (blueprint.providedAuth token) := by
  refine Program.upholds_get.bind fun assembly _ => ?_
  split
  · trivial
  · refine ((Asks.instanceOf _).upholds lasts).bind fun found _ => ?_
    exact (upholds_builtAuth _).bind fun built _ => trivial

theorem upholds_settleData (name : String) (settings : DataSettings Reference) :
    Program.Upholds holds (blueprint.settleData name settings) :=
  (upholds_providedAuth lasts _).bind fun _ _ =>
    ((asks_settleDataWith _ name settings).upholds lasts).bind fun _ _ => trivial

omit lasts in
theorem authChange_createData (auth : Option Nat) (name : String)
    (properties : DataProperties Nat) (assembly : Assembly) :
    blueprint.AuthChange assembly (createData auth name properties assembly).2 := by
  cases auth with
  | none => exact .none rfl
  | some number =>
      have replaced : (createData (some number) name properties assembly).2.auths =
          (assembly.changeAuth number (·.withIdentityRoles
            (DataConstruct.create (dataScope assembly (some number)) name
              properties).2.roles)).auths := rfl
      refine .callers (fun built stored => ?_) replaced
      have roles : (dataScope assembly (some number)).roles =
          built.construct.resources.identityRoles := by
        simp [dataScope, identityRoles, stored]
      rw [DataConstruct.names_create, roles]

theorem upholds_buildData (factory : Nat) (settings : DataSettings Reference) :
    Program.Upholds holds (blueprint.buildData factory settings) := by
  rw [buildData_eq]
  refine (upholds_providedAuth lasts _).bind fun auth _ => ?_
  rw [completeData_eq]
  refine ((asks_settleDataWith _ _ settings).upholds lasts).bind fun properties _ => ?_
  refine (upholds_act lasts fun assembly => authChange_createData _ _ _ assembly).bind
    fun created _ => ?_
  refine Program.Maintains.bind (upholds_modify lasts fun assembly => .none rfl) fun _ _ => ?_
  refine (Program.upholds_forM_option fun grants _ =>
    (upholds_grant lasts _ grants).discard).bind fun _ _ => ?_
  exact Program.Maintains.bind (upholds_modify lasts fun assembly => .none rfl) fun _ _ => trivial

/-- Whatever a generator does, it does no more to auth resources. -/
theorem upholds_body (factory : blueprint.Factory) :
    Program.Upholds holds (blueprint.catalogue.generator factory).body := by
  refine Program.Maintains.bind (upholds_modify lasts fun assembly => .none rfl) fun _ _ => ?_
  cases defined : blueprint.definition factory with
  | function settings site =>
      simp only [build]
      cases settings.resolve site with
      | error fault => trivial
      | ok resolved => exact upholds_buildFunction lasts factory resolved
  | stub name => exact upholds_act lasts fun assembly => .none rfl
  | auth settings site => exact upholds_buildAuth lasts defined
  | data settings site => exact upholds_buildData lasts factory settings

end Upholds

/-! ## Use -/

/-- What a backend is used for: instances are requested, resources are resolved, policies are handed
to acceptors, and so on. -/
inductive Usage : {α : Type} → blueprint.Build α → Prop
  | asks {α : Type} {program : blueprint.Build α} (asks : Asks program) : Usage program
  | handOverTo (name : String) (role : Option String) (policy : Policy)
    (entries : List ParameterEntry) (times : Nat) :
    Usage (blueprint.handOverTo name role policy entries times)
  /-- An acceptor is used that an auth resource has given out before. -/
  | attach (factory : Nat) (role : AuthRole) (issued : IssuedPolicy) :
    Usage (modify fun assembly => assembly.changeAuth factory (·.attach role issued))
  | setVariable (name key value : String) : Usage (blueprint.setVariable name key value)
  | callsHandler (name event function : String) :
    Usage (blueprint.callsHandler name event function)
  | discover (token : String) : Usage (blueprint.discover token)
  | arbitrateGrants {α : Type} (resource : String) (entries : List ParameterEntry)
    (statementsFor : α → List Statement) (grants : List (Grant Reference α)) :
    Usage (blueprint.arbitrateGrants resource entries statementsFor grants)
  | authPropertiesIn (group name : String) (settings : AuthSettings Reference) :
    Usage (blueprint.authPropertiesIn group name settings)
  | dataPropertiesIn (group name : String) (settings : DataSettings Reference) :
    Usage (blueprint.dataPropertiesIn group name settings)

/-- The containers that use leads to, also in the middle of it. -/
inductive Reached (blueprint : Blueprint) : BackendContainer → Prop
  | new (journal : Journal) :
    Reached blueprint (Backend.new blueprint.configuration journal).container
  | aside {container : BackendContainer} (reached : Reached blueprint container) {state : Assembly}
    (same : state.auths = container.state.auths) : Reached blueprint { container with state }
  | use {container through : BackendContainer} (reached : Reached blueprint container) {α : Type}
    {program : blueprint.Build α} (usage : Usage program)
    (passes : blueprint.catalogue.Passes through program container) : Reached blueprint through

theorem asks_instanceNamed (name : String) : Asks (blueprint.instanceNamed name) :=
  (asks_named name).bind fun factory => .instanceOf factory

section Reached

variable {holds : Assembly → Prop} (lasts : blueprint.Lasts holds)

include lasts

theorem upholds_handOverTo (name : String) (role : Option String) (policy : Policy)
    (entries : List ParameterEntry) (times : Nat) :
    Program.Upholds holds (blueprint.handOverTo name role policy entries times) := by
  have accepts : (blueprint.acceptorNamed name role).Maintains holds fun acceptor =>
      ∀ some ∈ acceptor, ∀ issued entries, Program.Upholds holds (some.accept issued entries) := by
    refine ((asks_instanceNamed name).upholds lasts).bind fun holder _ => ?_
    split
    · rintro _ ⟨⟩
    · refine (maintains_acceptorOf lasts holder role).bind fun acceptor accepts => ?_
      rintro _ ⟨⟩
      exact accepts
  refine accepts.bind fun acceptor accepts => ?_
  refine Program.Maintains.bind (Program.upholds_forM_option fun some there => ?_)
    fun _ _ => trivial
  refine Program.Maintains.bind (upholds_modifyGet lasts fun _ => .none rfl) fun issued _ => ?_
  exact Program.upholds_forM_list fun _ _ => accepts some there issued entries

theorem upholds_setVariable (name key value : String) :
    Program.Upholds holds (blueprint.setVariable name key value) := by
  refine ((asks_instanceNamed name).upholds lasts).bind fun holder _ => ?_
  split
  · trivial
  · refine Program.Maintains.bind (upholds_modify lasts fun _ => .none rfl) fun _ _ => ?_
    exact Program.upholds_get.bind fun _ _ => trivial

theorem upholds_callsHandler (name event function : String) :
    Program.Upholds holds (blueprint.callsHandler name event function) := by
  refine ((asks_instanceNamed name).upholds lasts).bind fun holder _ => ?_
  refine ((asks_instanceNamed function).upholds lasts).bind fun called _ => ?_
  split
  · exact Program.upholds_get.bind fun _ _ => trivial
  · trivial

theorem Usage.upholds {program : blueprint.Build α} (usage : Usage program) :
    Program.Upholds holds program := by
  cases usage with
  | asks asks => exact asks.upholds lasts
  | handOverTo name role policy entries times =>
      exact upholds_handOverTo lasts name role policy entries times
  | attach factory role issued => exact upholds_modify lasts fun _ => .attach rfl
  | setVariable name key value => exact upholds_setVariable lasts name key value
  | callsHandler name event function => exact upholds_callsHandler lasts name event function
  | discover token => exact (upholds_providedAuth lasts token).bind fun _ _ => trivial
  | arbitrateGrants resource entries statementsFor grants =>
      exact (upholds_arbitrateFrom lasts 0 grants).bind fun _ _ => trivial
  | authPropertiesIn group name settings =>
      refine Program.Maintains.bind (upholds_modify lasts fun _ => .none rfl) fun _ _ => ?_
      exact (asks_settleAuth name settings).upholds lasts
  | dataPropertiesIn group name settings =>
      refine Program.Maintains.bind (upholds_modify lasts fun _ => .none rfl) fun _ _ => ?_
      refine (upholds_settleData lasts name settings).bind fun settled _ => ?_
      exact Program.upholds_get.bind fun _ _ => trivial

/-- What is kept by every change holds all the time. -/
theorem Reached.keeps {container : BackendContainer} (reached : blueprint.Reached container)
    (initial : ∀ assembly : Assembly, assembly.auths = {} → holds assembly) :
    holds container.state := by
  induction reached with
  | new journal => exact initial _ rfl
  | aside reached same ih => exact lasts _ _ (.none same) ih
  | use reached usage passes ih =>
      exact passes.maintains blueprint.listed (upholds_body lasts) (usage.upholds lasts) ih

end Reached

end Blueprint

end CloudSynth
