import CloudSynth.Proofs.Backend.Mirroring
import CloudSynth.Proofs.Iam.Allowances

/-!
# Grants become policies

Arbitration succeeds only on grants to functions. Each grant becomes one policy, attached to the
role of the function it names, after the policies that the role has already
(`Blueprint.Hands`): the number of a new policy is greater than those of all policies that were
attached before, so a policy is never taken for one that is there.
-/

namespace CloudSynth

/-- The state after a new policy has been handed to a function. -/
def Assembly.hand (assembly : Assembly) (factory : Nat) (policy : Policy)
    (entries : List ParameterEntry) : Assembly :=
  (assembly.issue policy).2.changeFunction factory (·.accept (assembly.issue policy).1 entries)

/-! ## Attaching policies -/

theorem Role.attached_attach {role : Role} {issued : IssuedPolicy}
    (new : ∀ other ∈ role.attached, other.serial ≠ issued.serial) :
    (role.attach issued).attached = role.attached ++ [issued] := by
  have absent : role.holds issued = false := by simpa [holds] using new
  rw [attach, absent]
  rfl

/-- The name of the function. -/
def BuiltFunction.name (built : BuiltFunction) : String := built.lambda.name

/-- Setting variables changes nothing but the environment. -/
theorem Lambda.exists_foldl_setVariable {β : Type} (name value : β → String) (items : List β)
    (function : Lambda) : ∃ environment, items.foldl (fun function item =>
      function.setVariable (name item) (value item)) function = { function with environment } := by
  induction items generalizing function with
  | nil => exact ⟨_, rfl⟩
  | cons item rest ih => exact ih (function.setVariable (name item) (value item))

theorem BuiltFunction.exists_exposeParameters (built : BuiltFunction)
    (entries : List ParameterEntry) : ∃ environment,
      (built.exposeParameters entries).lambda = { built.lambda with environment } := by
  rcases built with ⟨lambda, stackName, ⟨resolved, parameters⟩ | accepted⟩
  · rcases entries with _ | ⟨entry, rest⟩
    · exact ⟨_, rfl⟩
    · rcases Lambda.exists_foldl_setVariable ParameterEntry.name (fun _ => runTimePlaceholder)
        (entry :: rest) lambda with ⟨environment, same⟩
      simp only [exposeParameters, Lambda.withParameters, same]
      exact ⟨_, rfl⟩
  · exact ⟨_, rfl⟩

theorem BuiltFunction.name_exposeParameters (built : BuiltFunction)
    (entries : List ParameterEntry) : (built.exposeParameters entries).name = built.name := by
  rcases built.exists_exposeParameters entries with ⟨environment, same⟩
  simp only [name, same]

theorem BuiltFunction.role_exposeParameters (built : BuiltFunction)
    (entries : List ParameterEntry) :
    (built.exposeParameters entries).lambda.role = built.lambda.role := by
  rcases built.exists_exposeParameters entries with ⟨environment, same⟩
  simp only [same]

/-- Accepting a policy attaches it to the role, whatever parameters come along. -/
theorem BuiltFunction.role_accept (built : BuiltFunction) (issued : IssuedPolicy)
    (entries : List ParameterEntry) :
    (built.accept issued entries).lambda.role = built.lambda.role.attach issued := by
  unfold accept
  cases built.origin with
  | defined resolved parameters => exact role_exposeParameters _ _
  | stub accepted => rfl

theorem BuiltFunction.name_accept (built : BuiltFunction) (issued : IssuedPolicy)
    (entries : List ParameterEntry) : (built.accept issued entries).name = built.name := by
  unfold accept
  cases built.origin with
  | defined resolved parameters => exact name_exposeParameters _ _
  | stub accepted => rfl

/-- The function after it has accepted several policies with the same parameters. -/
def BuiltFunction.acceptAll (built : BuiltFunction) (accepted : List IssuedPolicy)
    (entries : List ParameterEntry) : BuiltFunction :=
  accepted.foldl (fun built issued => built.accept issued entries) built

theorem BuiltFunction.acceptorId_acceptAll (built : BuiltFunction) (accepted : List IssuedPolicy)
    (entries : List ParameterEntry) :
    (built.acceptAll accepted entries).acceptorId = built.acceptorId := by
  have named : (built.acceptAll accepted entries).name = built.name := by
    induction accepted generalizing built with
    | nil => rfl
    | cons issued rest ih => exact (ih (built.accept issued entries)).trans (name_accept _ _ _)
  exact congrArg (· ++ "LambdaResourceAccessAcceptor") named

section Fresh

variable (stack : Stack) (identifier : BackendIdentifier) (resolved : ResolvedFunction)

theorem BuiltFunction.exists_ofResolved : ∃ environment tags,
    (ofResolved stack identifier resolved).lambda =
      { stack.newLambda resolved.name resolved.roleName with environment, tags } := by
  rcases Lambda.exists_foldl_setVariable Prod.fst Prod.snd resolved.plainVariables
    { stack.newLambda resolved.name resolved.roleName with
      tags := Tags.withFriendlyName (stack.newLambda resolved.name resolved.roleName).tags
        resolved.name } with ⟨plain, set⟩
  unfold ofResolved
  simp only [set]
  rcases exists_exposeParameters ⟨_, stack.name, .defined resolved {}⟩
    (resolved.secretEntries identifier) with ⟨environment, same⟩
  rw [same]
  exact ⟨_, _, rfl⟩

theorem BuiltFunction.attached_ofResolved :
    (ofResolved stack identifier resolved).lambda.role.attached = [] := by
  rcases exists_ofResolved stack identifier resolved with ⟨environment, tags, same⟩
  rw [same]
  rfl

theorem BuiltFunction.name_ofResolved :
    (ofResolved stack identifier resolved).name = resolved.name := by
  rcases exists_ofResolved stack identifier resolved with ⟨environment, tags, same⟩
  rw [name, same]
  rfl

end Fresh

namespace Blueprint

variable {blueprint : Blueprint} {allowed : blueprint.Factory → Prop} {α : Type}
  {resource : String} {entries : List ParameterEntry} {statementsFor : α → List Statement}

/-! ## One grant -/

theorem run_functionAcceptor_eq_ok {number : Nat} {before after : BackendContainer}
    {acceptor : Acceptor blueprint.Build} :
    blueprint.catalogue.run (blueprint.functionAcceptor number none) before =
        (.ok acceptor, after) ↔
      after = before ∧ ∃ built, before.state.functions.find? number = some built ∧
        acceptor = {
          identifier := built.acceptorId
          accept := fun issued entries => modify fun assembly =>
            assembly.changeFunction number (·.accept issued entries) } := by
  rw [functionAcceptor, Catalogue.run_bind blueprint.listed, run_builtFunction]
  cases before.state.functions.find? number with
  | none => simp
  | some built => simp [eq_comm, and_comm]

/-- Only functions accept policies without a role being named. -/
theorem run_acceptorOf_eq_ok {holder : Instance} {before after : BackendContainer}
    {acceptor : Acceptor blueprint.Build} :
    blueprint.catalogue.run (blueprint.acceptorOf holder none) before = (.ok acceptor, after) ↔
      handles holder.kind = true ∧ after = before ∧
        ∃ built, before.state.functions.find? holder.factory = some built ∧
          acceptor = {
            identifier := built.acceptorId
            accept := fun issued entries => modify fun assembly =>
              assembly.changeFunction holder.factory (·.accept issued entries) } := by
  have accepted := @run_functionAcceptor_eq_ok blueprint holder.factory before after acceptor
  cases kind : holder.kind with
  | function => simpa [acceptorOf, kind, handles] using accepted
  | stub => simpa [acceptorOf, kind, handles] using accepted
  | data => simp [acceptorOf, kind, handles]
  | auth =>
      simp only [acceptorOf, kind, authAcceptor, Catalogue.run_bind_eq_ok blueprint.listed,
        Catalogue.run_throw]
      simp [handles]

/-- A grant becomes a policy exactly if its grantee is resolved and is a function. -/
theorem run_arbitrateOne_eq_ok {index : Nat} {grant : Grant Reference α}
    {before after : BackendContainer} {issued : IssuedPolicy} :
    blueprint.catalogue.run
        ((blueprint.arbiter resource entries statementsFor).arbitrateOne index grant) before =
      (.ok issued, after) ↔
    ∃ found between built policy,
      blueprint.catalogue.run (blueprint.resolveReference grant.grantee isGrantee) before =
        (.ok found, between) ∧
      handles found.kind = true ∧ between.state.functions.find? found.factory = some built ∧
      policy = (blueprint.arbiter resource entries statementsFor).policyFor index built.acceptorId
        grant.actions ∧
      issued = ⟨between.state.nextPolicy, policy⟩ ∧
      after = { between with state := between.state.hand found.factory policy entries } := by
  simp only [Arbiter.arbitrateOne, arbiter, granteeAcceptor,
    Catalogue.run_bind_eq_ok blueprint.listed, run_acceptorOf_eq_ok]
  constructor
  · rintro ⟨acceptor, between, ⟨found, asked, resolved, handler, rfl, built, stored, rfl⟩,
      made, issuing, minted, _, handed, handing, ended⟩
    cases minted
    cases handing
    cases ended
    exact ⟨found, between, built, _, resolved, handler, stored, rfl, rfl, rfl⟩
  · rintro ⟨found, between, built, policy, resolved, handler, stored, rfl, rfl, rfl⟩
    exact ⟨_, between, ⟨found, between, resolved, handler, rfl, built, stored, rfl⟩, _, _, rfl,
      _, _, rfl, rfl⟩

theorem stores_of_resolveReference {before after : BackendContainer}
    (holds : ∃ built, blueprint.Built before built) (closed : blueprint.Closed before)
    {reference : Reference} {admits : ResourceKind → Bool} {found : Instance}
    (done : blueprint.catalogue.run (blueprint.resolveReference reference admits) before =
      (.ok found, after)) :
    ∃ factory, blueprint.factoryNamed? reference.name = some factory ∧
      admits (blueprint.kindOf factory) = true ∧ found = blueprint.instanceFor factory ∧
      Stores after factory := by
  rw [resolveReference, Catalogue.run_bind_eq_ok blueprint.listed] at done
  rcases done with ⟨_, between, required, rest⟩
  rcases (asks_required reference.requires).mirrors.alone holds closed required with
    ⟨_, ⟨built, holdsBetween⟩, closedBetween, _⟩
  rw [named] at rest
  cases named : blueprint.factoryNamed? reference.name with
  | none =>
      simp only [named, Catalogue.run_bind blueprint.listed, Catalogue.run_throw] at rest
      cases rest
  | some factory =>
      simp only [named, Catalogue.run_bind blueprint.listed, Catalogue.run_pure] at rest
      split at rest
      · next admitted =>
          rcases holdsBetween.of_instanceOf (closedBetween factory) rest with ⟨same, obtains⟩
          exact ⟨factory, rfl, admitted, same, obtains.stored⟩
      · rw [Catalogue.run_throw] at rest
        cases rest

/-! ## Functions that are changed -/

theorem functionIn_changeFunction {assembly : Assembly} {factory : blueprint.Factory}
    {built : BuiltFunction} (stored : assembly.functions.find? factory = some built)
    (change : BuiltFunction → BuiltFunction) (other : blueprint.Factory) :
    blueprint.functionIn (assembly.changeFunction factory change) other =
      if factory = other then some (change built) else blueprint.functionIn assembly other := by
  simp only [functionIn, Assembly.changeFunction, OrderedMap.find?_modify, Fin.val_inj]
  split
  · next same => rw [← same, stored, Option.map_some, Option.some_or]
  · rfl

theorem functionIn_hand {assembly : Assembly} {factory : blueprint.Factory}
    {built : BuiltFunction} (stored : assembly.functions.find? factory = some built)
    (policy : Policy) (entries : List ParameterEntry) (other : blueprint.Factory) :
    blueprint.functionIn (assembly.hand factory policy entries) other =
      if factory = other then some (built.accept ⟨assembly.nextPolicy, policy⟩ entries)
      else blueprint.functionIn assembly other := by
  have there : (assembly.issue policy).2.functions.find? factory = some built := stored
  exact functionIn_changeFunction there _ other

theorem Built.exists_find? {container : BackendContainer} {built : List blueprint.Factory}
    (self : blueprint.Built container built) {factory : blueprint.Factory}
    (handler : blueprint.IsHandler factory) (stored : Stores container factory) :
    ∃ function, container.state.functions.find? factory = some function := by
  have key := self.mem_keys_iff.mpr ((self.stored factory handler).mpr stored)
  rw [← OrderedMap.find?_isSome_iff] at key
  exact Option.isSome_iff_exists.mp key

theorem functionIn_of_find? {assembly : Assembly} {factory : blueprint.Factory}
    {built : BuiltFunction} (stored : assembly.functions.find? factory = some built) :
    blueprint.functionIn assembly factory = some built := by
  simp [functionIn, stored]

theorem sameAssets_hand (assembly : Assembly) (number : Nat) (policy : Policy)
    (entries : List ParameterEntry) :
    SameAssets assembly (assembly.hand number policy entries) :=
  ⟨fun _ _ => rfl, rfl, fun _ _ => rfl, rfl, rfl, rfl⟩

theorem aside_hand (assembly : Assembly) (number : Nat) (policy : Policy)
    (entries : List ParameterEntry) : Aside assembly (assembly.hand number policy entries) where
  keys := OrderedMap.keys_modify _ _ _
  stack := rfl
  listed := rfl
  identifier := rfl
  providers := rfl

theorem Agrees.hand {first second : Assembly} (agrees : blueprint.Agrees first second)
    {factory : blueprint.Factory} {built : BuiltFunction}
    (storedFirst : first.functions.find? factory = some built)
    (storedSecond : second.functions.find? factory = some built) (policy : Policy)
    (entries : List ParameterEntry) :
    blueprint.Agrees (first.hand factory policy entries) (second.hand factory policy entries) := by
  have assets := (sameAssets_hand first factory policy entries).symm.trans
    (agrees.toSameAssets.trans (sameAssets_hand second factory policy entries))
  refine ⟨assets, ?_, congrArg (· + 1) agrees.nextPolicy⟩
  intro other
  rw [functionIn_hand storedFirst, functionIn_hand storedSecond, agrees.nextPolicy,
    agrees.functions other]

/-! ## Arbitration on other backends -/

/-- Nothing may be done but build functions and hand policies to them. -/
def Frame.granting : Frame := ⟨SameAssets, .refl, .trans⟩

theorem mirrors_arbitrateOne (index : Nat) (grant : Grant Reference α) :
    Mirrors allowed .granting
      ((blueprint.arbiter resource entries statementsFor).arbitrateOne index grant) := by
  intro first second paired joint closedFirst closedSecond issued firstAfter done within
  rw [run_arbitrateOne_eq_ok] at done
  rcases done with
    ⟨found, firstBetween, built, policy, resolved, handler, stored, made, rfl, rfl⟩
  have withinBetween : Within allowed firstBetween := within
  rcases (asks_resolveReference grant.grantee isGrantee).mirrors first second paired joint
    closedFirst closedSecond found firstBetween resolved withinBetween with
      ⟨agrees, secondBetween, resolvedSecond, reflects⟩
  -- The reference stands for the same function, which is there on both sides by now.
  rcases paired.right with ⟨_, holdsSecond, _⟩
  rcases reflects.paired.right with ⟨_, holdsSecondBetween, _⟩
  rcases stores_of_resolveReference ⟨_, holdsSecond⟩ closedSecond resolvedSecond with
    ⟨factory, _, _, rfl, storedSecond⟩
  rcases holdsSecondBetween.exists_find? handler storedSecond with ⟨other, storedThere⟩
  have same : some built = some other := by
    rw [← functionIn_of_find? stored, ← functionIn_of_find? storedThere]
    exact reflects.paired.agrees.functions factory
  cases same
  have changed := reflects_change reflects.paired reflects.closedFirst reflects.closedSecond
    (aside_hand firstBetween.state factory policy entries)
    (aside_hand secondBetween.state factory policy entries)
    (reflects.paired.agrees.hand stored storedThere policy entries)
  refine ⟨agrees.toSameAssets.trans (sameAssets_hand _ _ _ _), _, ?_,
    reflects.trans changed (fun _ _ kept => kept)⟩
  rw [run_arbitrateOne_eq_ok]
  refine ⟨blueprint.instanceFor factory, secondBetween, built, policy, resolvedSecond, handler,
    storedThere, made, ?_, rfl⟩
  rw [reflects.paired.agrees.nextPolicy]

theorem mirrors_arbitrateFrom (index : Nat) (grants : List (Grant Reference α)) :
    Mirrors allowed .granting
      ((blueprint.arbiter resource entries statementsFor).arbitrateFrom index grants) := by
  induction grants generalizing index with
  | nil => exact mirrors_pure _
  | cons grant rest ih =>
      refine (mirrors_arbitrateOne index grant).bind fun issued => ?_
      exact (ih (index + 1)).bind fun others => mirrors_pure _

/-! ## The policies of functions -/

/-- The policies attached to the role of a function. -/
def attachedTo (blueprint : Blueprint) (assembly : Assembly) (factory : blueprint.Factory) :
    List IssuedPolicy :=
  ((blueprint.functionIn assembly factory).map (·.lambda.role.attached)).getD []

/-- Policies have smaller numbers than the next one. -/
def Numbered (blueprint : Blueprint) (assembly : Assembly) : Prop :=
  ∀ factory, ∀ issued ∈ blueprint.attachedTo assembly factory, issued.serial < assembly.nextPolicy

/-- The grants that name a function. -/
def grantsTo (blueprint : Blueprint) (factory : blueprint.Factory)
    (grants : List (Grant Reference α)) : List (Grant Reference α) :=
  grants.filter fun grant => decide (blueprint.factoryNamed? grant.grantee.name = some factory)

/-- The policy is the one that the arbiter makes for the grant. -/
def Makes (arbiter : Arbiter blueprint.Build Reference α) (grant : Grant Reference α)
    (issued : IssuedPolicy) : Prop :=
  ∃ index acceptor, issued.policy = arbiter.policyFor index acceptor grant.actions

/-- Who accepts policies for a function. -/
def acceptorIn (blueprint : Blueprint) (assembly : Assembly) (factory : blueprint.Factory) :
    String :=
  ((blueprint.functionIn assembly factory).map (·.acceptorId)).getD ""

/-- The grants that name a function, with their places among all grants. -/
def placedGrants (blueprint : Blueprint) (factory : blueprint.Factory) (start : Nat)
    (grants : List (Grant Reference α)) : List (Grant Reference α × Nat) :=
  (grants.zipIdx start).filter fun placed =>
    decide (blueprint.factoryNamed? placed.1.grantee.name = some factory)

/-- The grants have become policies: every function has accepted one for each grant that names it,
in the order of the grants. -/
structure Hands (arbiter : Arbiter blueprint.Build Reference α) (start : Nat)
    (grants : List (Grant Reference α)) (before after : Assembly) : Prop where
  assets : SameAssets before after
  numbered : blueprint.Numbered after
  accepts : ∀ factory, ∃ accepted,
    blueprint.functionIn after factory =
        (blueprint.functionIn before factory).map (·.acceptAll accepted arbiter.entries) ∧
      blueprint.attachedTo after factory = blueprint.attachedTo before factory ++ accepted ∧
      accepted.map (·.policy) = (blueprint.placedGrants factory start grants).map fun placed =>
        arbiter.policyFor placed.2 (blueprint.acceptorIn before factory) placed.1.actions

theorem Agrees.attachedTo {first second : Assembly} (agrees : blueprint.Agrees first second)
    (factory : blueprint.Factory) :
    blueprint.attachedTo first factory = blueprint.attachedTo second factory := by
  simp only [Blueprint.attachedTo, agrees.functions]

theorem Agrees.numbered {first second : Assembly} (agrees : blueprint.Agrees first second)
    (numbered : blueprint.Numbered first) : blueprint.Numbered second := by
  intro factory issued issued_mem
  rw [← agrees.attachedTo] at issued_mem
  rw [← agrees.nextPolicy]
  exact numbered factory issued issued_mem

/-- A new policy stands after those that a function had. -/
theorem attachedTo_hand {assembly : Assembly} (numbered : blueprint.Numbered assembly)
    {factory : blueprint.Factory} {built : BuiltFunction}
    (stored : assembly.functions.find? factory = some built) (policy : Policy)
    (entries : List ParameterEntry) (other : blueprint.Factory) :
    blueprint.attachedTo (assembly.hand factory policy entries) other =
      blueprint.attachedTo assembly other ++
        if factory = other then [⟨assembly.nextPolicy, policy⟩] else [] := by
  unfold Blueprint.attachedTo
  rw [functionIn_hand stored]
  by_cases same : factory = other
  · subst same
    have attached : blueprint.attachedTo assembly factory = built.lambda.role.attached := by
      simp [Blueprint.attachedTo, functionIn_of_find? stored]
    have new : ∀ earlier ∈ built.lambda.role.attached, earlier.serial ≠ assembly.nextPolicy := by
      intro earlier earlier_mem
      rw [← attached] at earlier_mem
      have smaller := numbered factory earlier earlier_mem
      omega
    rw [if_pos rfl, if_pos rfl, functionIn_of_find? stored]
    simp only [Option.map_some, Option.getD_some, BuiltFunction.role_accept]
    exact Role.attached_attach new
  · rw [if_neg same, if_neg same, List.append_nil]

theorem numbered_hand {assembly : Assembly} (numbered : blueprint.Numbered assembly)
    {factory : blueprint.Factory} {built : BuiltFunction}
    (stored : assembly.functions.find? factory = some built) (policy : Policy)
    (entries : List ParameterEntry) :
    blueprint.Numbered (assembly.hand factory policy entries) := by
  intro other issued issued_mem
  change issued.serial < assembly.nextPolicy + 1
  rw [attachedTo_hand numbered stored, List.mem_append] at issued_mem
  rcases issued_mem with earlier | new
  · have smaller := numbered other issued earlier
    omega
  · split at new
    · rw [List.mem_singleton.mp new]
      exact Nat.lt_succ_self _
    · cases new

theorem placedGrants_cons (factory : blueprint.Factory) (start : Nat) (grant : Grant Reference α)
    (rest : List (Grant Reference α)) :
    blueprint.placedGrants factory start (grant :: rest) =
      blueprint.placedGrants factory start [grant] ++
        blueprint.placedGrants factory (start + 1) rest := by
  simp only [placedGrants, List.zipIdx_cons, List.zipIdx_nil, ← List.filter_append]
  rfl

theorem grantsTo_eq_placedGrants (factory : blueprint.Factory) (start : Nat)
    (grants : List (Grant Reference α)) :
    blueprint.grantsTo factory grants =
      (blueprint.placedGrants factory start grants).map (·.1) := by
  unfold grantsTo
  conv_lhs => rw [← List.zipIdx_map_fst start grants, List.filter_map]
  rfl

theorem hands_nil (arbiter : Arbiter blueprint.Build Reference α) (start : Nat)
    {assembly : Assembly} (numbered : blueprint.Numbered assembly) :
    Hands arbiter start [] assembly assembly where
  assets := .refl assembly
  numbered := numbered
  accepts factory := ⟨[], by simp [BuiltFunction.acceptAll], by simp, rfl⟩

theorem Hands.cons {arbiter : Arbiter blueprint.Build Reference α} {start : Nat}
    {grant : Grant Reference α} {rest : List (Grant Reference α)}
    {before between after : Assembly} (first : Hands arbiter start [grant] before between)
    (later : Hands arbiter (start + 1) rest between after) :
    Hands arbiter start (grant :: rest) before after where
  assets := first.assets.trans later.assets
  numbered := later.numbered
  accepts factory := by
    rcases first.accepts factory with ⟨accepted, changed, attached, policies⟩
    rcases later.accepts factory with ⟨others, changedLater, attachedLater, policiesLater⟩
    have acceptor : blueprint.acceptorIn between factory = blueprint.acceptorIn before factory := by
      rw [acceptorIn, acceptorIn, changed, Option.map_map]
      exact congrArg (Option.getD · "") (congrArg (Option.map · _)
        (funext fun built => built.acceptorId_acceptAll accepted arbiter.entries))
    refine ⟨accepted ++ others, ?_, ?_, ?_⟩
    · rw [changedLater, changed, Option.map_map]
      exact congrArg (Option.map · _) (funext fun built => (List.foldl_append).symm)
    · rw [attachedLater, attached, List.append_assoc]
    · rw [placedGrants_cons, List.map_append, List.map_append, policies, policiesLater, acceptor]

theorem hands_of_arbitrateOne {before after : BackendContainer}
    (holds : ∃ built, blueprint.Built before built) (closed : blueprint.Closed before)
    (numbered : blueprint.Numbered before.state) {index : Nat} {grant : Grant Reference α}
    {issued : IssuedPolicy}
    (done : blueprint.catalogue.run
      ((blueprint.arbiter resource entries statementsFor).arbitrateOne index grant) before =
        (.ok issued, after)) :
    Hands (blueprint.arbiter resource entries statementsFor) index [grant] before.state
      after.state := by
  rcases (mirrors_arbitrateOne index grant).alone holds closed done with ⟨assets, _⟩
  rw [run_arbitrateOne_eq_ok] at done
  rcases done with ⟨found, between, built, policy, resolved, handler, stored, made, rfl, rfl⟩
  rcases stores_of_resolveReference holds closed resolved with ⟨factory, named, _, rfl, _⟩
  rcases (asks_resolveReference grant.grantee isGrantee).mirrors.alone holds closed resolved with
    ⟨agrees, _⟩
  have numberedBetween := Agrees.numbered agrees numbered
  have there : blueprint.functionIn before.state factory = some built := by
    rw [Agrees.functions agrees, functionIn_of_find? stored]
  refine ⟨assets, numbered_hand numberedBetween stored policy entries, ?_⟩
  intro other
  refine ⟨if factory = other then [⟨between.state.nextPolicy, policy⟩] else [], ?_, ?_, ?_⟩
  · have handed : blueprint.functionIn (between.state.hand factory policy entries) other = _ :=
      functionIn_hand stored policy entries other
    refine handed.trans ?_
    split
    · next same =>
        rw [← same, there]
        rfl
    · rw [Agrees.functions agrees]
      simp [BuiltFunction.acceptAll]
  · rw [Agrees.attachedTo agrees]
    exact attachedTo_hand numberedBetween stored policy entries other
  · by_cases same : factory = other
    · subst same
      simp [placedGrants, named, made, acceptorIn, there]
    · simp [placedGrants, named, same]

theorem hands_of_run {before after : BackendContainer}
    (holds : ∃ built, blueprint.Built before built) (closed : blueprint.Closed before)
    (numbered : blueprint.Numbered before.state) {index : Nat}
    {grants : List (Grant Reference α)} {policies : List IssuedPolicy}
    (done : blueprint.catalogue.run
      ((blueprint.arbiter resource entries statementsFor).arbitrateFrom index grants) before =
        (.ok policies, after)) :
    Hands (blueprint.arbiter resource entries statementsFor) index grants before.state
      after.state := by
  induction grants generalizing before index policies with
  | nil =>
      simp only [Arbiter.arbitrateFrom, Catalogue.run_pure] at done
      cases done
      exact hands_nil _ _ numbered
  | cons grant rest ih =>
      rw [Arbiter.arbitrateFrom, Catalogue.run_bind_eq_ok blueprint.listed] at done
      rcases done with ⟨issued, between, made, continued⟩
      rw [Catalogue.run_bind_eq_ok blueprint.listed] at continued
      rcases continued with ⟨others, ended, continued, same⟩
      cases same
      rcases (mirrors_arbitrateOne index grant).alone holds closed made with
        ⟨_, holdsBetween, closedBetween, _⟩
      have first := hands_of_arbitrateOne holds closed numbered made
      exact first.cons (ih holdsBetween closedBetween first.numbered continued)

/-- Each policy is the one that is made for its grant. -/
theorem forall₂_makes {arbiter : Arbiter blueprint.Build Reference α} {start : Nat}
    {grants : List (Grant Reference α)} {factory : blueprint.Factory} {acceptor : String}
    {accepted : List IssuedPolicy}
    (policies : accepted.map (·.policy) = (blueprint.placedGrants factory start grants).map
      fun placed => arbiter.policyFor placed.2 acceptor placed.1.actions) :
    List.Forall₂ (Makes arbiter) (blueprint.grantsTo factory grants) accepted := by
  rw [grantsTo_eq_placedGrants factory start, List.forall₂_map_left_iff]
  have aligned : List.Forall₂ (· = ·) _ _ := List.forall₂_eq_eq_eq ▸ policies.symm
  rw [List.forall₂_map_left_iff, List.forall₂_map_right_iff] at aligned
  exact aligned.imp fun placed issued same => ⟨placed.2, acceptor, same.symm⟩

end Blueprint

end CloudSynth
