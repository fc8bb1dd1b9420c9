import CloudSynth.Proofs.Backend.Retry
import CloudSynth.Proofs.Data.Registration

/-!
# The stages of auth and data

An auth or data resource is built in three stages: what it refers to is resolved, its resources are
registered, and it is wired and granted access to. Of these only the first can be repeated, and the
second refuses what it has registered before. So what a body that fails has left behind depends on
how far it got (`Blueprint.Staged.fails`).
-/

namespace CloudSynth.Blueprint

variable {blueprint : Blueprint} {α β : Type} {level : List (GeneratorId × String)}

/-! ## The auth resource of the backend -/

/-- The same factory has built the auth resources, with the same user pool. -/
def SamePool (first second : Option (Nat × BuiltAuth)) : Prop :=
  first.map (fun auth => (auth.1, auth.2.poolId)) = second.map fun auth => (auth.1, auth.2.poolId)

theorem provider_congr {before after : Assembly} (same : after.providers = before.providers) :
    blueprint.provider after = blueprint.provider before := by
  simp only [provider, same]

theorem run_providedAuth_of_stores {factory : blueprint.Factory} {container : BackendContainer}
    (provided : blueprint.provider container.state = some factory)
    (valid : blueprint.verdict (blueprint.definition factory) = .ok ())
    (stored : Stores container factory) :
    ∃ journal, blueprint.catalogue.run (blueprint.providedAuth authResourcesToken) container =
      (match container.state.auths.find? factory with
        | some built => .ok (some (factory.val, built))
        | none => .error (.entryTypeMismatch ResourceKind.auth.group),
        withJournal container journal) := by
  rcases run_instanceOf_of_stores valid stored with ⟨journal, ran⟩
  exact ⟨journal, by rw [run_providedAuth_of_some provided, ran]; rfl⟩

/-- Asking for the auth resource fails if the provider's request does, or if it has built something
else; the second time it fails in the same way. -/
theorem fails_providedAuth (known : blueprint.FailsAt level) {before after : BackendContainer}
    {failure : BackendError} (resolving : before.resolving = level)
    (regular : blueprint.Regular before)
    (failed : blueprint.catalogue.run (blueprint.providedAuth authResourcesToken) before =
      (.error failure, after)) :
    Fails (blueprint.providedAuth authResourcesToken) failure before after := by
  cases provided : blueprint.provider before.state with
  | none =>
      rw [run_providedAuth_of_none provided] at failed
      cases failed
  | some factory =>
      rw [run_providedAuth_of_some provided] at failed
      have advances := advances_instanceOf factory before
      have providedAgain : ∀ {between again : BackendContainer},
          blueprint.Advances before between → Still between again →
            blueprint.provider again.state = some factory := by
        intro between again advances still
        rw [provider_congr still.steady.providers, provider_congr advances.providers, provided]
      rcases asked : blueprint.catalogue.run (blueprint.instanceOf factory) before with
        ⟨refusal | found, between⟩
      · simp only [asked] at failed
        cases failed
        rw [asked] at advances
        refine (known factory _ _ _ resolving regular asked).of_recurs ?_
        intro failure recurs again still same
        rcases recurs again still same with ⟨ended, repeated, stillEnded⟩
        exact ⟨ended, by rw [run_providedAuth_of_some (providedAgain advances still), repeated],
          stillEnded⟩
      · rw [asked] at advances
        cases kept : between.state.auths.find? found.factory with
        | some built =>
            simp only [asked, kept] at failed
            cases failed
        | none =>
            simp only [asked, kept] at failed
            cases failed
            rcases stores_of_instanceOf regular asked with ⟨rfl, stored⟩
            refine Or.inl ⟨.single (.inr ⟨factory, _, regular, asked⟩), fun again still _ => ?_⟩
            rcases run_providedAuth_of_stores (providedAgain advances still)
              (blueprint.run_instanceOf_eq_ok.mp asked).1 (still.extends_first _ _ stored) with
                ⟨journal, repeated⟩
            rw [still.steady.auths, show after.state.auths.find? factory = none from kept]
              at repeated
            exact ⟨_, repeated, still_withJournal again journal⟩

theorem retryable_providedAuth (known : blueprint.FailsAt level) :
    Retryable level SamePool (blueprint.providedAuth authResourcesToken) where
  kept := by
    intro spared rel keeps container cyclic
    rw [run_providedAuth_snd]
    cases blueprint.provider container.state with
    | none => exact keeps.light (.refl _) (.refl _)
    | some factory => exact keeps.instanceOf factory container cyclic
  regular := by
    intro container regular
    rw [run_providedAuth_snd]
    cases blueprint.provider container.state with
    | none => exact regular
    | some factory => exact regular_instanceOf factory container regular
  succeeds := by
    intro before after auth regular done
    rcases run_providedAuth_eq_ok.mp done with
      ⟨unprovided, rfl, rfl⟩ | ⟨factory, found, built, provided, asked, kept, rfl⟩
    · refine ⟨.refl, fun later isLater => ⟨none, later, ?_, rfl, .refl later⟩⟩
      exact run_providedAuth_of_none ((provider_congr isLater.advances.providers).trans unprovided)
    · refine ⟨.single (.inr ⟨factory, found, regular, asked⟩), fun later isLater => ?_⟩
      have advances := advances_instanceOf factory before
      rw [asked] at advances
      rcases stores_of_instanceOf regular asked with ⟨rfl, stored⟩
      rcases run_providedAuth_of_stores
        (((provider_congr isLater.advances.providers).trans
          (provider_congr advances.providers)).trans provided)
        (blueprint.run_instanceOf_eq_ok.mp asked).1 (isLater.entries _ _ stored) with
          ⟨journal, repeated⟩
      have pool := isLater.advances.pools factory stored
      rw [show after.state.auths.find? factory = some built from kept] at pool
      rcases Option.map_eq_some_iff.mp pool with ⟨other, found, samePool⟩
      rw [found] at repeated
      refine ⟨_, _, repeated, ?_, still_withJournal later journal⟩
      simp only [SamePool, Option.map_some, samePool]
      rfl
  fails resolving regular failed := fails_providedAuth known resolving regular failed

/-! ## The first stage -/

/-- What an auth resource refers to. -/
def prepareAuth (blueprint : Blueprint) (settings : AuthSettings Reference) :
    blueprint.Build (AuthProperties Nat × List (TriggerEvent × Nat)) := do
  let properties ← blueprint.settleAuth settings.resolvedName settings
  let triggers ← blueprint.resolveTriggers settings
  return (properties, triggers)

/-- What a data resource refers to, the auth resource of the backend included. -/
def prepareData (blueprint : Blueprint) (settings : DataSettings Reference) :
    blueprint.Build (Option Nat × DataProperties Nat) := do
  let auth ← blueprint.providedAuth authResourcesToken
  let properties ← blueprint.settleDataWith (auth.map (·.2)) settings.resolvedName settings
  return (auth.map (·.1), properties)

theorem asks_prepareAuth (settings : AuthSettings Reference) :
    Asks (blueprint.prepareAuth settings) :=
  (asks_settleAuth _ settings).bind fun _ => (asks_resolveTriggers settings).bind fun _ => .finish _

theorem settleDataWith_congr {first second : Option (Nat × BuiltAuth)}
    (same : SamePool first second) (name : String) (settings : DataSettings Reference) :
    blueprint.settleDataWith (first.map (·.2)) name settings =
      blueprint.settleDataWith (second.map (·.2)) name settings := by
  cases first with
  | none =>
      cases second with
      | none => rfl
      | some auth => cases same
  | some auth =>
      cases second with
      | none => cases same
      | some other =>
          have pool : auth.2.poolId = other.2.poolId := congrArg Prod.snd (Option.some.inj same)
          simp only [BuiltAuth.poolId] at pool
          simp only [settleDataWith, Option.map_some, pool, Option.isSome_some]

theorem retryable_prepareData (known : blueprint.FailsAt level)
    (settings : DataSettings Reference) :
    Retryable level Eq (blueprint.prepareData settings) := by
  refine (retryable_providedAuth known).bind (fun auth => ?_) ?_
  · have asks : Asks (do
        let properties ←
          blueprint.settleDataWith (auth.map (·.2)) settings.resolvedName settings
        return (auth.map (·.1), properties)) :=
    (asks_settleDataWith _ _ settings).bind fun _ => .finish _
    exact asks.retryable known
  · intro first second same
    have number : first.map (·.1) = second.map (·.1) := by
      have numbers := congrArg (Option.map Prod.fst) same
      rwa [Option.map_map, Option.map_map] at numbers
    rw [settleDataWith_congr same, number]

/-! ## The second stage -/

/-- The states differ in nothing that requests rely on but the stack of the kind. -/
structure SteadyBesides (kind : ResourceKind) (before after : Assembly) : Prop where
  stackFor : ∀ group, group ≠ kind.group →
    after.stackSet.stackFor group = before.stackSet.stackFor group
  parameters : after.parameters = before.parameters
  outputs : after.outputs = before.outputs
  providers : after.providers = before.providers
  functions : after.functions = before.functions
  auths : after.auths = before.auths
  datas : after.datas = before.datas
  nextPolicy : after.nextPolicy = before.nextPolicy

theorem steadyBesides_put (kind : ResourceKind) (assembly : Assembly) (stack : Stack) :
    SteadyBesides kind assembly
      { assembly with stackSet := assembly.stackSet.put kind.group stack } where
  stackFor group other := by rw [StackSet.stackFor_put, if_neg other.symm]
  parameters := rfl
  outputs := rfl
  providers := rfl
  functions := rfl
  auths := rfl
  datas := rfl
  nextPolicy := rfl

/-- The logical id of the first registration. Properties that are refused have none. -/
def firstId {ε : Type} (checked : Except ε Unit) (logicalId : String) : Option String :=
  match checked with
  | .ok () => some logicalId
  | .error _ => none

theorem firstId_eq_some {ε : Type} {checked : Except ε Unit} {logicalId other : String} :
    firstId checked logicalId = some other ↔ checked = .ok () ∧ logicalId = other := by
  cases checked <;> simp [firstId]

theorem firstId_eq_none {ε : Type} {checked : Except ε Unit} {logicalId : String} :
    firstId checked logicalId = none ↔ checked ≠ .ok () := by
  cases checked <;> simp [firstId]

/-- The step creates a resource. Without a logical id to begin with it refuses the resource;
otherwise that id is in the stack afterwards, and if it was there before, nothing is registered. -/
structure Creates (kind : ResourceKind) (first? : Option String)
    (step : Assembly → Except BackendError α × Assembly) : Prop where
  refuses : first? = none → ∃ failure, ∀ assembly, ∃ state,
    step assembly = (.error failure, state) ∧ Steady assembly state
  registers : ∀ logicalId, first? = some logicalId → ∀ assembly,
    ((step assembly).2.stackSet.stackFor kind.group).has logicalId = true
  collides : ∀ logicalId, first? = some logicalId → ∀ assembly,
    (assembly.stackSet.stackFor kind.group).has logicalId = true → ∃ state,
      step assembly = (.error (collision kind logicalId assembly), state) ∧ Steady assembly state
  /-- If a later registration is refused, those before it are all that has happened. -/
  halts : ∀ assembly failure state, step assembly = (.error failure, state) →
    SteadyBesides kind assembly state

section Creates

variable {ε : Type} {kind : ResourceKind} {checked : Except ε Unit} {logicalId : String}
  {step : Assembly → Except BackendError α × Assembly}

theorem creates_of_refused (refused : checked ≠ .ok ())
    (refuses : ∃ failure, ∀ assembly, ∃ state,
      step assembly = (.error failure, state) ∧ Steady assembly state)
    (halts : ∀ assembly failure state, step assembly = (.error failure, state) →
      SteadyBesides kind assembly state) :
    Creates kind (firstId checked logicalId) step := by
  rw [firstId_eq_none.mpr refused]
  exact ⟨fun _ => refuses, nofun, nofun, halts⟩

theorem creates_of_consistent (consistent : checked = .ok ())
    (registers : ∀ assembly,
      ((step assembly).2.stackSet.stackFor kind.group).has logicalId = true)
    (collides : ∀ assembly, (assembly.stackSet.stackFor kind.group).has logicalId = true →
      ∃ state, step assembly = (.error (collision kind logicalId assembly), state) ∧
        Steady assembly state)
    (halts : ∀ assembly failure state, step assembly = (.error failure, state) →
      SteadyBesides kind assembly state) :
    Creates kind (firstId checked logicalId) step := by
  rw [firstId_eq_some.mpr ⟨consistent, rfl⟩]
  refine ⟨nofun, ?_, ?_, halts⟩
  · rintro _ ⟨⟩
    exact registers
  · rintro _ ⟨⟩
    exact collides

end Creates

theorem creates_auth (name : String) (properties : AuthProperties Nat) :
    Creates .auth (firstId properties.check (name ++ "UserPool")) (createAuth name properties) := by
  have unchanged : ∀ (assembly : Assembly) (failure : ConstructError),
      AuthConstruct.create (assembly.stackSet.stackFor ResourceKind.auth.group) name properties =
        (.error failure, assembly.stackSet.stackFor ResourceKind.auth.group) →
      ∃ state, createAuth name properties assembly =
        (.error (.ofConstruct .auth failure), state) ∧ Steady assembly state := by
    intro assembly failure refused
    simp only [createAuth, refused]
    exact ⟨_, rfl, .put_self assembly ResourceKind.auth.group⟩
  have halts : ∀ assembly failure state,
      createAuth name properties assembly = (.error failure, state) →
        SteadyBesides .auth assembly state := by
    intro assembly failure state failed
    have ended : (createAuth name properties assembly).2 = state := by rw [failed]
    rw [← ended]
    exact steadyBesides_put .auth assembly _
  rcases AuthConstruct.create_cases name properties with
    ⟨refused, fault, fails⟩ | ⟨consistent, registers⟩
  · exact creates_of_refused refused ⟨_, fun assembly => unchanged assembly fault (fails _)⟩ halts
  · refine creates_of_consistent consistent (fun assembly => ?_) (fun assembly taken => ?_) halts
    · change ((assembly.stackSet.put ResourceKind.auth.group (AuthConstruct.create
        (assembly.stackSet.stackFor ResourceKind.auth.group) name properties).2).stackFor
          ResourceKind.auth.group).has _ = true
      rw [StackSet.stackFor_put_self, (registers _).1]
      exact Stack.has_first_addAll _ _ _
    · exact unchanged assembly _ ((registers _).2 _ _ (Stack.addAll_of_has taken _))

theorem changeAuth_of_same {assembly : Assembly} {factory : Nat}
    {change : AuthResources Nat → AuthResources Nat}
    (same : ∀ built, assembly.auths.find? factory = some built →
      change built.construct.resources = built.construct.resources) :
    assembly.changeAuth factory change = assembly := by
  have auths : (assembly.changeAuth factory change).auths = assembly.auths :=
    OrderedMap.modify_of_find? fun built stored => by rw [same built stored]
  exact congrArg (fun auths => { assembly with auths }) auths

/-- A data resource that is refused leaves the roles of the auth resource as they are. -/
theorem createData_of_error {auth : Option Nat} {name : String} {properties : DataProperties Nat}
    {assembly : Assembly} {failure : ConstructError} {stack : Stack}
    (failed : DataConstruct.create ⟨assembly.stackSet.stackFor ResourceKind.data.group,
        identityRoles assembly auth, assembly.nextPolicy⟩ name properties =
      (.error failure, ⟨stack, identityRoles assembly auth, assembly.nextPolicy⟩)) :
    createData auth name properties assembly = (.error (.ofConstruct .data failure),
      { assembly with stackSet := assembly.stackSet.put ResourceKind.data.group stack }) := by
  simp only [createData, failed]
  cases auth with
  | none => rfl
  | some factory =>
      dsimp only
      rw [changeAuth_of_same]
      · rfl
      · intro built stored
        have found : assembly.auths.find? factory = some built := stored
        simp only [identityRoles, Option.bind_some, found]
        rfl

theorem creates_data (auth : Option Nat) (name : String) (properties : DataProperties Nat) :
    Creates .data (firstId properties.check (name ++ "GraphQLAPI"))
      (createData auth name properties) := by
  have unchanged : ∀ (assembly : Assembly) (failure : ConstructError),
      DataConstruct.create ⟨assembly.stackSet.stackFor ResourceKind.data.group,
          identityRoles assembly auth, assembly.nextPolicy⟩ name properties =
        (.error failure, ⟨assembly.stackSet.stackFor ResourceKind.data.group,
          identityRoles assembly auth, assembly.nextPolicy⟩) →
      ∃ state, createData auth name properties assembly =
        (.error (.ofConstruct .data failure), state) ∧ Steady assembly state :=
    fun assembly _ refused =>
      ⟨_, createData_of_error refused, .put_self assembly ResourceKind.data.group⟩
  have halts : ∀ assembly failure state,
      createData auth name properties assembly = (.error failure, state) →
        SteadyBesides .data assembly state := by
    intro assembly failure state failed
    rcases created : DataConstruct.create ⟨assembly.stackSet.stackFor ResourceKind.data.group,
      identityRoles assembly auth, assembly.nextPolicy⟩ name properties with ⟨refusal | made, scope⟩
    · rcases (DataConstruct.create_eq_error created).1 with ⟨stack, rfl⟩
      rw [createData_of_error created] at failed
      cases failed
      exact steadyBesides_put .data assembly stack
    · simp only [createData, created] at failed
      cases failed
  rcases DataConstruct.create_cases name properties with
    ⟨refused, fault, fails⟩ | ⟨consistent, registers⟩
  · exact creates_of_refused refused ⟨_, fun assembly => unchanged assembly fault (fails _)⟩ halts
  · refine creates_of_consistent consistent (fun assembly => ?_) (fun assembly taken => ?_) halts
    · have put : (createData auth name properties assembly).2.stackSet = assembly.stackSet.put
          ResourceKind.data.group (DataConstruct.create
            ⟨assembly.stackSet.stackFor ResourceKind.data.group, identityRoles assembly auth,
              assembly.nextPolicy⟩ name properties).2.stack := by
        cases auth <;> rfl
      rw [put, StackSet.stackFor_put_self, (registers _).1]
      exact Stack.has_first_addAll _ _ _
    · exact unchanged assembly _ ((registers _).2 _ _ (Stack.addAll_of_has taken _))

/-! ## All three stages -/

section Prepared

variable {own : blueprint.Factory} {site : DefinitionSite} {logicalId : String} {created : Bool}
  {before between : BackendContainer}

theorem prepared_iff_of_auth {settings : AuthSettings Reference}
    (defined : blueprint.definition own = .auth settings site) :
    Prepared own logicalId created before between ↔ ∃ settled,
      blueprint.catalogue.run (blueprint.prepareAuth settings) before = (.ok settled, between) ∧
        firstId settled.1.check (settings.resolvedName ++ "UserPool") = some logicalId ∧
        created = (createAuth settings.resolvedName settled.1 between.state).1.isOk := by
  simp only [prepareAuth, Catalogue.run_bind_eq_ok blueprint.listed, Catalogue.run_pure,
    firstId_eq_some]
  constructor
  · rintro (⟨same, settles, handlers, consistent⟩ | ⟨other, _, _⟩)
    · rw [defined] at same
      cases same
      exact ⟨_, ⟨_, _, settles, _, _, handlers, rfl⟩, ⟨consistent, rfl⟩, rfl⟩
    · rw [defined] at other
      cases other
  · rintro ⟨_, ⟨properties, settled, settles, triggers, _, handlers, ended⟩, ⟨consistent, rfl⟩, rfl⟩
    cases ended
    exact .auth defined settles handlers consistent

theorem prepared_iff_of_data {settings : DataSettings Reference}
    (defined : blueprint.definition own = .data settings site) :
    Prepared own logicalId created before between ↔ ∃ settled,
      blueprint.catalogue.run (blueprint.prepareData settings) before = (.ok settled, between) ∧
        firstId settled.2.check (settings.resolvedName ++ "GraphQLAPI") = some logicalId ∧
        created =
          (createData settled.1 settings.resolvedName settled.2 between.state).1.isOk := by
  have prepares : blueprint.prepareData settings = (do
      let settled ← blueprint.settleData settings.resolvedName settings
      return (settled.1.map (·.1), settled.2)) := by
    simp only [prepareData, settleData, bind_assoc, pure_bind]
  simp only [prepares, Catalogue.run_bind_eq_ok blueprint.listed, Catalogue.run_pure,
    firstId_eq_some]
  constructor
  · rintro (⟨other, _, _, _⟩ | ⟨same, settles, consistent⟩)
    · rw [defined] at other
      cases other
    · rw [defined] at same
      cases same
      exact ⟨_, ⟨_, _, settles, rfl⟩, ⟨consistent, rfl⟩, rfl⟩
  · rintro ⟨_, ⟨⟨auth, properties⟩, _, settles, ended⟩, ⟨consistent, rfl⟩, rfl⟩
    cases ended
    exact .data defined settles consistent

end Prepared

/-- The resource resolves what it refers to, is created, and is finished. -/
inductive Staged (own : blueprint.Factory) : blueprint.Build Instance → Prop
  | stages {σ γ : Type} {prepare : blueprint.Build σ} {first? : σ → Option String}
    {step : σ → Assembly → Except BackendError γ × Assembly}
    {rest : σ → γ → blueprint.Build Instance}
    (prepares : ∀ level, blueprint.FailsAt level → Retryable level Eq prepare)
    (prepared_iff : ∀ logicalId created before between,
      Prepared own logicalId created before between ↔ ∃ settled,
        blueprint.catalogue.run prepare before = (.ok settled, between) ∧
          first? settled = some logicalId ∧ created = (step settled between.state).1.isOk)
    (creates : ∀ settled, Creates (blueprint.kindOf own) (first? settled) (step settled))
    (keeps : ∀ settled, Composed (blueprint.kindOf own) own
      (Program.act (step settled) : blueprint.Build γ))
    (finishes : ∀ settled created, Composed (blueprint.kindOf own) own (rest settled created)) :
    Staged own (prepare >>= fun settled => Program.act (step settled) >>= rest settled)

theorem staged_build {own : blueprint.Factory} (notHandler : ¬ blueprint.IsHandler own) :
    Staged own (blueprint.build own (blueprint.definition own)) := by
  cases defined : blueprint.definition own with
  | function settings site =>
      simp [IsHandler, kindOf, defined, Definition.kind, handles] at notHandler
  | stub name => simp [IsHandler, kindOf, defined, Definition.kind, handles] at notHandler
  | auth settings site =>
      have kind : blueprint.kindOf own = .auth := by rw [kindOf, defined]; rfl
      have stages : blueprint.build own (.auth settings site) =
          blueprint.prepareAuth settings >>= fun settled =>
            Program.act (createAuth settings.resolvedName settled.1) >>= fun created =>
              blueprint.finishAuth own settings settled.2 created := by
        simp only [build, buildAuth_eq, prepareAuth, bind_assoc, pure_bind]
      rw [stages]
      refine .stages (fun level known => (asks_prepareAuth settings).retryable known)
        (fun _ _ _ _ => prepared_iff_of_auth defined) ?_ ?_ ?_ <;> rw [kind]
      · exact fun settled => creates_auth _ settled.1
      · exact fun settled => composed_createAuth _ settled.1
      · exact fun settled created => composed_finishAuth settings settled.2 created
  | data settings site =>
      have kind : blueprint.kindOf own = .data := by rw [kindOf, defined]; rfl
      have stages : blueprint.build own (.data settings site) =
          blueprint.prepareData settings >>= fun settled =>
            Program.act (createData settled.1 settings.resolvedName settled.2) >>= fun created =>
              blueprint.finishData own settings created := by
        simp only [build, buildData_eq, prepareData, bind_assoc, pure_bind]
        rfl
      rw [stages]
      refine .stages (fun level known => retryable_prepareData known settings)
        (fun _ _ _ _ => prepared_iff_of_data defined) ?_ ?_ ?_ <;> rw [kind]
      · exact fun settled => creates_data settled.1 _ settled.2
      · exact fun settled => composed_createData settled.1 (resourceName_of_data defined) settled.2
      · exact fun settled created => composed_finishData settings created

/-- Up to `between` nothing has happened but that requests were answered, and since then nothing but
that the resource was registered. -/
structure Halted (factory : blueprint.Factory) (before between after : BackendContainer) : Prop where
  trace : blueprint.Trace before between
  own : Sole factory → SameOwn factory before between
  entries : after.entries = between.entries
  besides : SteadyBesides (blueprint.kindOf factory) between.state after.state

section Stages

variable {own : blueprint.Factory} {before after : BackendContainer} {failure : BackendError}

theorem recurs_of_step {step : Assembly → Except BackendError α × Assembly}
    {rest : α → blueprint.Build β}
    (fails : ∀ again : BackendContainer, Still after again → ∃ state,
      step again.state = (.error failure, state) ∧ Steady again.state state) :
    Recurs (Program.act step >>= rest : blueprint.Build β) failure after := by
  intro again still _
  rcases fails again still with ⟨state, failed, steady⟩
  refine ⟨{ again with state }, ?_, rfl, steady⟩
  rw [Catalogue.run_bind blueprint.listed, Catalogue.run_act, failed]

theorem collision_congr {kind : ResourceKind} {logicalId : String} {first second : Assembly}
    (steady : Steady first second) :
    collision kind logicalId second = collision kind logicalId first := by
  rw [collision, collision, steady.stackFor]

section Creation

variable {step : Assembly → Except BackendError α × Assembly} {rest : α → blueprint.Build Instance}
  {first? : Option String} {logicalId : String}

/-- A step that is refused ends the body. -/
theorem eq_of_refused {refusal : BackendError} {state : Assembly}
    (refused : step before.state = (.error refusal, state))
    (failed : blueprint.catalogue.run (Program.act step >>= rest) before =
      (.error failure, after)) : failure = refusal ∧ after = { before with state } := by
  rw [Catalogue.run_bind blueprint.listed, Catalogue.run_act, refused] at failed
  cases failed
  exact ⟨rfl, rfl⟩

theorem Creates.collides_again (creates : Creates (blueprint.kindOf own) first? step)
    (first : first? = some logicalId)
    (taken : (after.state.stackSet.stackFor (blueprint.kindOf own).group).has logicalId = true) :
    Recurs (Program.act step >>= rest)
      (collision (blueprint.kindOf own) logicalId after.state) after := by
  refine recurs_of_step fun again still => ?_
  rw [← still.steady.stackFor] at taken
  rw [← collision_congr still.steady]
  exact creates.collides logicalId first again.state taken

/-- If the resource is refused, or the logical id of its first registration is taken, then nothing
is registered. -/
theorem Creates.still (creates : Creates (blueprint.kindOf own) first? step)
    (unregistered : ∀ logicalId, first? = some logicalId →
      (before.state.stackSet.stackFor (blueprint.kindOf own).group).has logicalId = true)
    (failed : blueprint.catalogue.run (Program.act step >>= rest) before =
      (.error failure, after)) :
    Still before after ∧ Recurs (Program.act step >>= rest) failure after := by
  cases first : first? with
  | none =>
      rcases creates.refuses first with ⟨refusal, refuses⟩
      rcases refuses before.state with ⟨state, refused, steady⟩
      rcases eq_of_refused refused failed with ⟨rfl, rfl⟩
      exact ⟨⟨rfl, steady⟩, recurs_of_step fun again _ => refuses again.state⟩
  | some logicalId =>
      have taken := unregistered logicalId first
      rcases creates.collides logicalId first before.state taken with ⟨state, refused, steady⟩
      rcases eq_of_refused refused failed with ⟨rfl, rfl⟩
      refine ⟨⟨rfl, steady⟩, ?_⟩
      rw [← collision_congr steady]
      apply creates.collides_again first
      rw [steady.stackFor]
      exact taken

/-- If the logical id was free, then whatever failed, the resource is registered by now: nothing
that comes after the step takes it out of the stack. -/
theorem Creates.abandoned (creates : Creates (blueprint.kindOf own) first? step)
    (first : first? = some logicalId) (notHandler : ¬ blueprint.IsHandler own)
    (finishes : ∀ created, Composed (blueprint.kindOf own) own (rest created))
    (running : Cyclic before own)
    (free : (before.state.stackSet.stackFor (blueprint.kindOf own).group).has logicalId = false)
    (failed : blueprint.catalogue.run (Program.act step >>= rest) before =
      (.error failure, after)) : Abandoned own logicalId before after where
  other := notHandler
  missing := (running.of_run failed).1
  free := free
  taken := by
    have registered := creates.registers logicalId first before.state
    rw [Catalogue.run_bind_eq_error blueprint.listed] at failed
    rcases failed with refused | ⟨created, between, done, last⟩
    · rwa [← (Prod.mk.inj refused).2]
    · have advances := advances_of_composed (finishes created) (running.of_run done)
      rw [last] at advances
      apply advances.registered
      rwa [← (Prod.mk.inj done).2]

theorem Creates.steadyBesides (creates : Creates (blueprint.kindOf own) first? step)
    (refused : (step before.state).1.isOk = false)
    (failed : blueprint.catalogue.run (Program.act step >>= rest) before =
      (.error failure, after)) :
    after.entries = before.entries ∧
      SteadyBesides (blueprint.kindOf own) before.state after.state := by
  rcases ended : step before.state with ⟨refusal | made, state⟩
  · rcases eq_of_refused ended failed with ⟨rfl, rfl⟩
    exact ⟨rfl, creates.halts before.state _ state ended⟩
  · rw [ended] at refused
    cases refused

end Creation

/-- A body that fails before its resource is registered leaves behind what the requests that it made
have left behind; one that fails later leaves its own resource half built. -/
theorem Staged.fails {body : blueprint.Build Instance} (staged : Staged own body)
    (notHandler : ¬ blueprint.IsHandler own) (known : blueprint.FailsAt level)
    (resolving : before.resolving = level) (regular : blueprint.Regular before)
    (running : Cyclic before own)
    (failed : blueprint.catalogue.run body before = (.error failure, after)) :
    (∀ logicalId created between, Prepared own logicalId created before between →
        (between.state.stackSet.stackFor (blueprint.kindOf own).group).has logicalId = true) ∧
      Fails body failure before after ∧ (Sole own → SameOwn own before after) ∨
    ∃ logicalId created between, Prepared own logicalId created before between ∧
      (between.state.stackSet.stackFor (blueprint.kindOf own).group).has logicalId = false ∧
      Abandoned own logicalId before after ∧
      Recurs body (collision (blueprint.kindOf own) logicalId after.state) after ∧
      (created = false → Halted own before between after) := by
  cases staged with
  | @stages _ _ prepare first? step rest prepares prepared_iff creates keeps finishes =>
      have retryable := prepares level known
      have untouched : Sole own → SameOwn own before (blueprint.catalogue.run prepare before).2 :=
        fun sole => retryable.kept (keeps_sameOwn notHandler sole) before
          fun other same => same ▸ running
      simp only [prepared_iff]
      rw [Catalogue.run_bind_eq_error blueprint.listed] at failed
      rcases failed with unprepared | ⟨settled, between, done, last⟩
      · rw [unprepared] at untouched
        refine Or.inl ⟨?_, (retryable.fails resolving regular unprepared).bind _, untouched⟩
        rintro logicalId created between ⟨settled, prepared, _⟩
        rw [unprepared] at prepared
        cases prepared
      · rw [done] at untouched
        have composed : Composed (blueprint.kindOf own) own
            (Program.act (step settled) >>= rest settled) :=
          (keeps settled).bind (finishes settled)
        have runningBetween : Cyclic between own := running.of_run done
        have advances := advances_of_composed composed runningBetween
        rw [last] at advances
        have later : blueprint.Later between after :=
          ⟨Catalogue.extends_of_run blueprint.listed last, advances⟩
        have alike : ∀ result other, result = other →
            (Program.act (step result) >>= rest result : blueprint.Build Instance) =
              Program.act (step other) >>= rest other := by
          rintro result _ rfl
          rfl
        by_cases registers : ∃ logicalId, first? settled = some logicalId ∧
          (between.state.stackSet.stackFor (blueprint.kindOf own).group).has logicalId = false
        · rcases registers with ⟨logicalId, first, free⟩
          have abandoned := (creates settled).abandoned first notHandler (finishes settled)
            runningBetween free last
          refine Or.inr ⟨logicalId, _, between, ⟨settled, done, first, rfl⟩, free,
            abandoned.of_advances (retryable.later done).advances,
            retryable.recurs alike regular done later
              ((creates settled).collides_again first abandoned.taken), fun refused => ?_⟩
          rcases (creates settled).steadyBesides refused last with ⟨entries, besides⟩
          exact ⟨(retryable.succeeds regular done).1, untouched, entries, besides⟩
        · have unregistered : ∀ logicalId, first? settled = some logicalId →
              (between.state.stackSet.stackFor (blueprint.kindOf own).group).has logicalId =
                true := by
            intro logicalId first
            by_contra free
            exact registers ⟨logicalId, first, Bool.eq_false_iff.mpr free⟩
          rcases (creates settled).still unregistered last with ⟨still, recurs⟩
          refine Or.inl ⟨?_, retryable.fails_next alike regular done later
            (Or.inl (clean_of_still still recurs)), fun sole => ?_⟩
          · rintro logicalId created _ ⟨_, prepared, first, _⟩
            rw [done] at prepared
            cases prepared
            exact unregistered logicalId first
          · exact (untouched sole).trans (sameOwn_of_steady still.steady)

end Stages

end CloudSynth.Blueprint
