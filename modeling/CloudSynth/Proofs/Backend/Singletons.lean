import CloudSynth.Proofs.Backend.Grants

/-!
# Building auth and data on other backends

What builds the auth resource, and what builds the data resource once the auth resource is there,
are made of parts that are mirrored: requests, changes of the state that touch no functions, and
arbitration. So the auth and the data resource come out the same on backends that differ in nothing
but their functions, however the functions got there (`Blueprint.mirrors_buildAuth`,
`Blueprint.mirrors_completeData`).
-/

namespace CloudSynth.Blueprint

variable {blueprint : Blueprint} {allowed : blueprint.Factory → Prop} {α β : Type}

/-! ## Changes of the state -/

section Changes

variable {first second : Assembly}

theorem Agrees.put (agrees : blueprint.Agrees first second) (group : String) (stack : Stack) :
    blueprint.Agrees { first with stackSet := first.stackSet.put group stack }
      { second with stackSet := second.stackSet.put group stack } := by
  refine ⟨⟨?_, agrees.parameters, agrees.outputs, agrees.providers, agrees.auths, agrees.datas⟩,
    agrees.functions, agrees.nextPolicy⟩
  intro other different
  rw [StackSet.stackFor_put, StackSet.stackFor_put, agrees.stackFor other different]

theorem aside_put (assembly : Assembly) {group : String}
    (different : group ≠ ResourceKind.function.group) (stack : Stack) :
    Aside assembly { assembly with stackSet := assembly.stackSet.put group stack } := by
  refine ⟨rfl, ?_, rfl, rfl, rfl⟩
  rw [StackSet.stackFor_put, if_neg different]

theorem mirrors_store {key : String} (different : key ≠ functionOutputKey) (entry : OutputEntry) :
    Mirrors allowed .loose (modify fun assembly : Assembly =>
      { assembly with outputs := assembly.outputs.store key entry } : blueprint.Build PUnit) := by
  refine mirrors_modify (fun _ => rfl) ?_ ?_
  · intro assembly
    exact ⟨rfl, rfl, OutputStorage.list_store_of_ne _ _ _ _ different _, rfl, rfl⟩
  · intro first second agrees
    refine ⟨⟨agrees.stackFor, agrees.parameters, ?_, agrees.providers, agrees.auths,
      agrees.datas⟩, agrees.functions, agrees.nextPolicy⟩
    intro other notFunctions
    rw [OutputStorage.find?_store, OutputStorage.find?_store, agrees.outputs other notFunctions]

theorem mirrors_publish (named : List (String × String)) :
    Mirrors allowed .loose
      (modifyGet fun assembly : Assembly => assembly.publish named :
        blueprint.Build (List ParameterEntry)) := by
  refine mirrors_step (fun assembly => (.ok (assembly.publish named).1, (assembly.publish named).2))
    (fun _ => rfl) (fun _ => rfl) ?_ ?_
  · intro assembly
    exact ⟨rfl, rfl, rfl, rfl, rfl⟩
  · intro first second agrees
    have parameters := agrees.parameters
    refine ⟨by simp only [Assembly.publish, parameters], ⟨⟨agrees.stackFor, ?_, agrees.outputs,
      agrees.providers, agrees.auths, agrees.datas⟩, agrees.functions, agrees.nextPolicy⟩⟩
    simp only [Assembly.publish, parameters]

theorem mirrors_arbitrate {resource : String} {entries : List ParameterEntry}
    {statementsFor : α → List Statement}
    (grants : List (Grant Reference α)) :
    Mirrors allowed .loose
      ((blueprint.arbiter resource entries statementsFor).arbitrate grants) :=
  (mirrors_arbitrateFrom 0 grants).loose fun _ _ same => same.providers.symm

end Changes

/-! ## The auth resource -/

theorem mirrors_createAuth (name : String) (properties : AuthProperties Nat) :
    Mirrors allowed .loose
      (Program.act (createAuth name properties) : blueprint.Build (AuthConstruct Nat)) := by
  refine mirrors_step (createAuth name properties) (fun _ => rfl) (fun _ => rfl) ?_ ?_
  · intro assembly
    exact aside_put assembly (by decide) _
  · intro first second agrees
    have stack := agrees.stackFor ResourceKind.auth.group (by decide)
    simp only [createAuth, stack]
    exact ⟨trivial, agrees.put _ _⟩

theorem mirrors_buildAuth (factory : Nat)
    (settings : AuthSettings Reference) :
    Mirrors allowed .loose (blueprint.buildAuth factory settings) := by
  have grant : ∀ (resources : AuthResources Nat) grants, Mirrors allowed .loose
      (discard (blueprint.grantAuth settings.resolvedName resources grants)) := by
    intro resources grants
    exact ((mirrors_publish _).bind fun _ => mirrors_arbitrate grants).discard
  refine (asks_settleAuth _ settings).mirrors.ofSteady.bind fun properties => ?_
  refine (asks_resolveTriggers settings).mirrors.ofSteady.bind fun triggers => ?_
  refine (mirrors_createAuth _ properties).bind fun created => ?_
  refine (mirrors_ofExcept _).bind fun construct => ?_
  refine (mirrors_store (by decide) _).bind fun _ => ?_
  refine (Mirrors.forM_option (grant _) settings.access).bind fun _ => ?_
  refine Mirrors.bind ?_ fun _ => mirrors_pure _
  refine mirrors_modify (fun _ => rfl) ?_ ?_
  · intro assembly
    exact ⟨rfl, rfl, rfl, rfl, rfl⟩
  · intro first second agrees
    refine ⟨⟨agrees.stackFor, agrees.parameters, agrees.outputs, agrees.providers, ?_,
      agrees.datas⟩, agrees.functions, agrees.nextPolicy⟩
    simp only [agrees.auths, agrees.stackFor ResourceKind.auth.group (by decide)]

/-! ## The data resource -/

/-- What remains to be done for the data resource when the auth resource is there. -/
def completeData (blueprint : Blueprint) (factory : Nat) (settings : DataSettings Reference)
    (auth : Option (Nat × BuiltAuth)) : blueprint.Build Instance := do
  let name := settings.resolvedName
  let properties ← blueprint.settleDataWith (auth.map (·.2)) name settings
  let construct ← Program.act (createData (auth.map (·.1)) name properties)
  let construct := { construct with tags := Tags.withFriendlyName construct.tags name }
  modify fun assembly =>
    { assembly with outputs := assembly.outputs.store graphqlOutputKey construct.output }
  settings.access.forM fun grants =>
    discard (blueprint.grantData name construct.resources grants)
  modify fun assembly =>
    let stackName := (assembly.stackSet.stackFor ResourceKind.data.group).name
    { assembly with datas := assembly.datas.insert factory { construct, stackName } }
  return ⟨.data, factory⟩

theorem buildData_eq (factory : Nat) (settings : DataSettings Reference) :
    blueprint.buildData factory settings =
      blueprint.providedAuth authResourcesToken >>= blueprint.completeData factory settings := by
  simp only [buildData, settleData, bind_assoc, pure_bind]
  rfl

theorem mirrors_createData (auth : Option Nat) (name : String) (properties : DataProperties Nat) :
    Mirrors allowed .loose
      (Program.act (createData auth name properties) : blueprint.Build (DataConstruct Nat)) := by
  refine mirrors_step (createData auth name properties) (fun _ => rfl) ?_ ?_ ?_
  · intro assembly
    cases auth <;> rfl
  · intro assembly
    have different : ResourceKind.data.group ≠ ResourceKind.function.group := by decide
    cases auth with
    | none => exact ⟨rfl, (aside_put assembly different _).stack, rfl, rfl, rfl⟩
    | some auth => exact ⟨rfl, (aside_put assembly different _).stack, rfl, rfl, rfl⟩
  · intro first second agrees
    have stack := agrees.stackFor ResourceKind.data.group (by decide)
    have roles : identityRoles first auth = identityRoles second auth := by
      simp only [identityRoles, agrees.auths]
    simp only [createData, stack, roles, agrees.nextPolicy]
    refine ⟨trivial, ?_⟩
    cases auth with
    | none =>
        exact ⟨⟨(agrees.put _ _).stackFor, agrees.parameters, agrees.outputs, agrees.providers,
          agrees.auths, agrees.datas⟩, agrees.functions, rfl⟩
    | some auth =>
        refine ⟨⟨(agrees.put _ _).stackFor, agrees.parameters, agrees.outputs, agrees.providers,
          ?_, agrees.datas⟩, agrees.functions, rfl⟩
        simp only [Assembly.changeAuth, agrees.auths]

theorem mirrors_completeData (factory : Nat)
    (settings : DataSettings Reference) (auth : Option (Nat × BuiltAuth)) :
    Mirrors allowed .loose (blueprint.completeData factory settings auth) := by
  have grant : ∀ (resources : DataResources Nat) grants, Mirrors allowed .loose
      (discard (blueprint.grantData settings.resolvedName resources grants)) := by
    intro resources grants
    exact ((mirrors_publish _).bind fun _ => mirrors_arbitrate grants).discard
  refine (asks_settleDataWith _ _ settings).mirrors.ofSteady.bind fun properties => ?_
  refine (mirrors_createData _ _ properties).bind fun created => ?_
  refine (mirrors_store (by decide) _).bind fun _ => ?_
  refine (Mirrors.forM_option (grant _) settings.access).bind fun _ => ?_
  refine Mirrors.bind ?_ fun _ => mirrors_pure _
  refine mirrors_modify (fun _ => rfl) ?_ ?_
  · intro assembly
    exact ⟨rfl, rfl, rfl, rfl, rfl⟩
  · intro first second agrees
    refine ⟨⟨agrees.stackFor, agrees.parameters, agrees.outputs, agrees.providers,
      agrees.auths, ?_⟩, agrees.functions, agrees.nextPolicy⟩
    simp only [agrees.datas, agrees.stackFor ResourceKind.data.group (by decide)]

end CloudSynth.Blueprint
