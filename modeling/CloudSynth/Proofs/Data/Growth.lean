import CloudSynth.Proofs.Backend.FunctionNames
import CloudSynth.Proofs.Data.Registration

/-!
# How the data stack grows

Nothing but data constructs is registered in the data stack, so a property of stacks that every such
registration keeps is kept by whatever is requested (`Blueprint.Hereditary`).

A construct may fail to register all of its resources, and several constructs may meet in the stack.
Still, a construct registers its API first, so a key, a bucket, a permission or a log retention of
its id is there only if the API is (`Stack.Rooted`). Once the API is registered no construct gains
any of them, since whoever registers one of that id begins with the API (`Stack.Outgrows`).
-/

namespace CloudSynth

variable {φ : Type}

/-! ## Registration of a construct -/

theorem Stack.exists_addAll (stack : Stack) (resources : List StackResource) :
    ∃ added, added <+: resources ∧ (added.map (·.logicalId)).Nodup ∧
      (stack.resources.map (·.logicalId)).Disjoint (added.map (·.logicalId)) ∧
      (stack.addAll resources).2 = { stack with resources := stack.resources ++ added } := by
  rcases registered : stack.addAll resources with ⟨failure | _, after⟩
  · rcases exists_stopsAt registered with ⟨before, next, rest, split, stops, _, rfl⟩
    exact ⟨before, ⟨next :: rest, split.symm⟩, stops.distinct, stops.free, rfl⟩
  · rcases addAll_eq_ok.mp registered with ⟨rfl, distinct, free⟩
    exact ⟨resources, List.prefix_refl _, distinct, free, rfl⟩

namespace DataProperties

/-- What the logical ids of a construct end in that it may have besides its API, one at most of
each. -/
def companionEndings : List String :=
  ["GraphQLAPIDefaultApiKey", "ModelIntrospectionSchemaBucket", "LambdaAuthorizerPermission",
   "LogRetention"]

theorem companionEndings_subset : companionEndings ⊆ idEndings := by decide

/-- The logical id of the API of a construct. -/
def apiLogicalId (id : String) : String := id ++ "GraphQLAPI"

theorem registrations_eq_cons (properties : DataProperties φ) (id : String) :
    ∃ rest, properties.registrations id =
      ⟨apiLogicalId id, "AWS::AppSync::GraphQLApi"⟩ :: rest := by
  simp [registrations, apiLogicalId]

/-- Companions have the id of the construct. -/
theorem stem_eq_of_companion {properties : DataProperties φ} {id stem ending : String}
    (companion : ending ∈ companionEndings)
    (registered : stem ++ ending ∈ (properties.registrations id).map (·.logicalId)) :
    stem = id ∧ (id, ending) ∈ properties.labels id := by
  rw [logicalIds_eq, List.mem_map] at registered
  rcases registered with ⟨label, label_mem, same⟩
  have isLabel : label = (stem, ending) :=
    label_inj (ending_mem_of_mem_labels label_mem) (companionEndings_subset companion) same
  subst isLabel
  have stem_eq : stem = id := by
    have notTable : ending ≠ "Table" := by rintro rfl; revert companion; decide
    have notSource : ending ≠ "LambdaDataSource" := by rintro rfl; revert companion; decide
    simp only [labels, List.mem_append, List.mem_singleton, List.mem_map, List.mem_ite_nil_right,
      Prod.mk.injEq] at label_mem
    rcases label_mem with (((((⟨same, _⟩ | ⟨_, same, _⟩) | ⟨same, _⟩) | ⟨_, _, _, same⟩) |
      ⟨_, _, _, same⟩) | ⟨_, same, _⟩) | ⟨_, same, _⟩
    all_goals first | exact same | exact absurd same.symm notTable | exact absurd same.symm notSource
  subst stem_eq
  exact ⟨rfl, label_mem⟩

end DataProperties

namespace Stack

open DataProperties

variable {stack before after : Stack}

theorem has_apiLogicalId_addAll (stack : Stack) (properties : DataProperties φ) (id : String) :
    (stack.addAll (properties.registrations id)).2.has (apiLogicalId id) = true := by
  rcases properties.registrations_eq_cons id with ⟨rest, split⟩
  rw [split]
  exact has_first_addAll stack _ rest

theorem addAll_of_has_api {properties : DataProperties φ} {id : String}
    (taken : stack.has (apiLogicalId id) = true) :
    (stack.addAll (properties.registrations id)).2 = stack := by
  rcases properties.registrations_eq_cons id with ⟨rest, split⟩
  rw [split, addAll_of_has taken]

/-- Registration of a construct adds no companion but those of its id. -/
theorem has_companion_addAll {properties : DataProperties φ} {id stem ending : String}
    (companion : ending ∈ companionEndings)
    (there : (stack.addAll (properties.registrations id)).2.has (stem ++ ending) = true) :
    stack.has (stem ++ ending) = true ∨ stem = id := by
  rcases stack.exists_addAll (properties.registrations id) with ⟨added, isPrefix, _, _, grown⟩
  rw [grown, has_iff, List.map_append, List.mem_append] at there
  rcases there with old | new
  · exact Or.inl ((has_iff _ _).mpr old)
  · have registered : stem ++ ending ∈ (properties.registrations id).map (·.logicalId) :=
      (isPrefix.map _).subset new
    exact Or.inr (stem_eq_of_companion companion registered).1

/-- The logical ids are distinct, and companions are there only together with their API. -/
structure Rooted (stack : Stack) : Prop where
  distinct : (stack.resources.map (·.logicalId)).Nodup
  api : ∀ stem, ∀ ending ∈ companionEndings, stack.has (stem ++ ending) = true →
    stack.has (apiLogicalId stem) = true

theorem rooted_new (name region account : String) : Rooted (.new name region account) :=
  ⟨List.nodup_nil, fun _ _ _ there => by simp [has, new] at there⟩

theorem Rooted.addAll (rooted : stack.Rooted) (properties : DataProperties φ) (id : String) :
    (stack.addAll (properties.registrations id)).2.Rooted := by
  constructor
  · rcases stack.exists_addAll (properties.registrations id) with
      ⟨added, _, distinct, free, grown⟩
    rw [grown, List.map_append, List.nodup_append']
    exact ⟨rooted.distinct, distinct, free⟩
  · intro stem ending companion there
    rcases has_companion_addAll companion there with old | rfl
    · exact has_addAll (rooted.api stem ending companion old) _
    · exact has_apiLogicalId_addAll _ _ _

/-- No two resources have one logical id. -/
theorem Rooted.filter_logicalId (rooted : stack.Rooted)
    {resource : StackResource} (there : resource ∈ stack.resources) :
    stack.resources.filter (·.logicalId = resource.logicalId) = [resource] := by
  have distinct : (stack.resources.filter (·.logicalId = resource.logicalId)).Nodup :=
    (List.Nodup.of_map _ rooted.distinct).filter _
  rw [← List.perm_singleton, List.perm_ext_iff_of_nodup distinct (List.nodup_singleton _)]
  intro other
  rw [List.mem_filter, List.mem_singleton, decide_eq_true_iff]
  constructor
  · rintro ⟨alsoThere, same⟩
    exact List.inj_on_of_nodup_map rooted.distinct alsoThere there same
  · rintro rfl
    exact ⟨there, rfl⟩

/-- The resources stand at the beginning of the stack, and APIs have gained no companions. -/
structure Outgrows (before after : Stack) : Prop where
  appended : ∃ added, after = { before with resources := before.resources ++ added }
  companion : ∀ stem, before.has (apiLogicalId stem) = true → ∀ ending ∈ companionEndings,
    after.has (stem ++ ending) = true → before.has (stem ++ ending) = true

theorem Outgrows.refl (stack : Stack) : Outgrows stack stack :=
  ⟨⟨[], by simp⟩, fun _ _ _ _ there => there⟩

theorem Outgrows.addAll (outgrows : Outgrows before after) (properties : DataProperties φ)
    (id : String) : Outgrows before (after.addAll (properties.registrations id)).2 := by
  rcases outgrows.appended with ⟨earlier, rfl⟩
  constructor
  · rcases Stack.exists_addAll _ (properties.registrations id) with ⟨added, _, _, _, grown⟩
    exact ⟨earlier ++ added, by rw [grown, List.append_assoc]⟩
  · intro stem rooted ending companion there
    apply outgrows.companion stem rooted ending companion
    rcases has_companion_addAll companion there with old | rfl
    · exact old
    · rwa [addAll_of_has_api (has_append rooted earlier)] at there

theorem Outgrows.mem (outgrows : Outgrows before after) {resource : StackResource}
    (there : resource ∈ before.resources) : resource ∈ after.resources := by
  rcases outgrows.appended with ⟨added, rfl⟩
  exact List.mem_append_left added there

end Stack

namespace Blueprint

variable {blueprint : Blueprint} {α : Type}

/-- The stack of data resources. -/
def dataStack (assembly : Assembly) : Stack :=
  assembly.stackSet.stackFor ResourceKind.data.group

/-- A property of stacks that data constructs keep when they register their resources. -/
def Hereditary (blueprint : Blueprint) (holds : Stack → Prop) : Prop :=
  ∀ own : blueprint.Factory, blueprint.kindOf own = .data → ∀ stack, holds stack →
    ∀ properties : DataProperties Nat,
      holds (stack.addAll (properties.registrations (blueprint.resourceName own))).2

theorem hereditary_rooted : blueprint.Hereditary Stack.Rooted :=
  fun _ _ _ rooted properties => rooted.addAll properties _

theorem hereditary_outgrows (before : Stack) : blueprint.Hereditary before.Outgrows :=
  fun _ _ _ outgrows properties => outgrows.addAll properties _

/-- The stack is empty or has the API of the factory. -/
def Begun (factory : blueprint.Factory) (stack : Stack) : Prop :=
  stack.resources = [] ∨
    stack.has (DataProperties.apiLogicalId (blueprint.resourceName factory)) = true

/-- The only data factory begins with its API, whatever becomes of the rest. -/
theorem hereditary_begun {factory : blueprint.Factory} (isData : blueprint.kindOf factory = .data)
    (sole : Sole factory) : blueprint.Hereditary (Begun factory) := by
  intro own ownData stack _ properties
  rw [sole own (ownData.trans isData.symm)]
  exact Or.inr (stack.has_apiLogicalId_addAll properties _)

namespace Hereditary

variable {holds : Stack → Prop} (hereditary : blueprint.Hereditary holds)
  {container : BackendContainer}

include hereditary

theorem step {own : blueprint.Factory} {before after : Assembly}
    (footprint : blueprint.Footprint (blueprint.kindOf own) own before after)
    (known : holds (dataStack before)) : holds (dataStack after) := by
  by_cases isData : blueprint.kindOf own = .data
  · have registers := footprint.registers isData
    rw [isData] at registers
    rcases registers with same | ⟨properties, grown⟩
    · rw [dataStack, same]
      exact known
    · rw [dataStack, grown]
      exact hereditary own isData _ known properties
  · have otherGroup : ResourceKind.data.group ≠ (blueprint.kindOf own).group := by
      cases kind : blueprint.kindOf own with
      | data => exact absurd kind isData
      | function | stub | auth => decide
    rw [dataStack, footprint.stackFor _ otherGroup]
    exact known

theorem keeps : Keeps (fun _ : blueprint.Factory => False) fun before after =>
    holds (dataStack before.state) → holds (dataStack after.state) where
  light _ steady known := by
    rw [dataStack, steady.stackFor]
    exact known
  trans _ _ first second known := second (first known)
  step _ _ footprint := hereditary.step footprint

theorem instanceOf (factory : blueprint.Factory) (known : holds (dataStack container.state)) :
    holds (dataStack (blueprint.catalogue.run (blueprint.instanceOf factory) container).2.state) :=
  hereditary.keeps.instanceOf factory container (fun _ none => none.elim) known

theorem of_composed {own : blueprint.Factory} {program : blueprint.Build α}
    (composed : Composed (blueprint.kindOf own) own program) (running : Cyclic container own)
    (known : holds (dataStack container.state)) :
    holds (dataStack (blueprint.catalogue.run program container).2.state) :=
  composed.kept (fun _ known => known) hereditary.keeps.trans (hereditary.keeps.step id)
    (fun factory _ _ _ known => hereditary.instanceOf factory known) rfl running
    (fun _ (none : False) => none.elim) known

theorem lasting : blueprint.Lasting fun container => holds (dataStack container.state) where
  light known _ _ steady := by
    rw [dataStack, steady.stackFor]
    exact known
  handler known _ := hereditary.instanceOf _ known
  step known _ footprint := hereditary.step footprint known
  keep known _ := known

/-- What holds of the empty stack holds of the data stack of every backend. -/
theorem of_occurs (initial : ∀ name region account, holds (.new name region account))
    (occurs : blueprint.Occurs container) : holds (dataStack container.state) :=
  hereditary.lasting.of_occurs (fun _ => initial _ _ _) (fun known _ => known) occurs

end Hereditary

theorem Occurs.rooted {container : BackendContainer} (occurs : blueprint.Occurs container) :
    (dataStack container.state).Rooted :=
  hereditary_rooted.of_occurs Stack.rooted_new occurs

theorem Occurs.begun {container : BackendContainer} (occurs : blueprint.Occurs container)
    {factory : blueprint.Factory} (isData : blueprint.kindOf factory = .data)
    (sole : Sole factory) : Begun factory (dataStack container.state) :=
  (hereditary_begun isData sole).of_occurs (fun _ _ _ => Or.inl rfl) occurs

end Blueprint

end CloudSynth
