import CloudSynth.Proofs.Backend.Bestowal
import CloudSynth.Proofs.Data.Growth
import CloudSynth.Proofs.Data.Settling

/-!
# Requests that build the data resource

A request for a data resource that is not there either fails or settles the properties, builds the
construct in the data stack and finishes the resource (`Blueprint.exists_produced`). Everything that
is said about a built resource is read off these three steps. What happens between them, the
requests for auth and functions and those that grants make, may build other data resources, but
these leave the construct its resources and give it none (`Stack.Outgrows`).
-/

namespace CloudSynth.Blueprint

variable {blueprint : Blueprint} {own : blueprint.Factory} {settings : DataSettings Reference}
  {site : DefinitionSite} {container after : BackendContainer}

/-! ## Requests that run the body -/

/-- The container in which the body of a generator runs when its definition has been checked. -/
def started (container : BackendContainer) (factory : blueprint.Factory) : BackendContainer :=
  opened container factory (blueprint.catalogue.run
    (blueprint.checkDefinition (blueprint.definition factory)) container).2.state.journal

/-- The request is answered by the body of the generator: the definition passes its checks, there is
no entry, and the generator is not being resolved. -/
structure Unbuilt (container : BackendContainer) (factory : blueprint.Factory) : Prop where
  valid : blueprint.verdict (blueprint.definition factory) = .ok ()
  absent : container.contains (blueprint.idOf factory) = false
  idle : container.isResolving (blueprint.idOf factory) = false

theorem Unbuilt.run_instanceOf (unbuilt : Unbuilt container own) :
    blueprint.catalogue.run (blueprint.instanceOf own) container =
      Container.settle (blueprint.catalogue.generator own)
        (blueprint.catalogue.run (blueprint.build own (blueprint.definition own))
          (started container own)) := by
  rcases blueprint.run_checkDefinition (blueprint.definition own) container with ⟨journal, checked⟩
  have same : started container own = opened container own journal := by
    rw [started, checked]
    rfl
  have unknown : (withJournal container journal).immediate? (blueprint.catalogue.generator own) =
      none := Container.immediate?_eq_none_iff.mpr
    ⟨lookup?_eq_none_of_contains unbuilt.absent, unbuilt.idle⟩
  rw [instanceOf, Catalogue.run_bind blueprint.listed, checked, unbuilt.valid, same]
  exact Catalogue.resolve_of_unknown blueprint.listed unknown

/-- A request fails as the body does. -/
theorem Unbuilt.error_of_body (unbuilt : Unbuilt container own) {failure : BackendError}
    (failed : (blueprint.catalogue.run (blueprint.build own (blueprint.definition own))
      (started container own)).1 = .error failure) :
    (blueprint.catalogue.run (blueprint.instanceOf own) container).1 = .error failure := by
  rw [unbuilt.run_instanceOf]
  rcases ended : blueprint.catalogue.run (blueprint.build own (blueprint.definition own))
    (started container own) with ⟨outcome, inner⟩
  rw [ended] at failed
  cases failed
  rfl

/-! ## The steps of the body -/

theorem dataStack_createData (auth : Option Nat) (name : String) (properties : DataProperties Nat)
    (assembly : Assembly) :
    dataStack (createData auth name properties assembly).2 =
      (DataConstruct.create (dataScope assembly auth) name properties).2.stack := by
  cases auth <;> exact StackSet.stackFor_put_self _ _ _

/-- What finishing a resource keeps of the construct. -/
structure Finished (own : blueprint.Factory) (construct : DataConstruct Nat)
    (before after : BackendContainer) : Prop where
  outgrows : (dataStack before.state).Outgrows (dataStack after.state)
  stored : ∃ built, after.state.datas.find? own = some built ∧
    built.construct.resources = construct.resources ∧ built.construct.output = construct.output
  sole : Sole own → dataStack after.state = dataStack before.state ∧
    after.state.outputs.find? graphqlOutputKey = some construct.output

theorem finished_of_run (defined : blueprint.definition own = .data settings site)
    {construct : DataConstruct Nat} {before : BackendContainer} {found : Instance}
    (running : Cyclic before own)
    (done : blueprint.catalogue.run (blueprint.finishData own settings construct) before =
      (.ok found, after)) : Finished own construct before after := by
  have isData : blueprint.kindOf own = .data := by rw [kindOf, defined]; rfl
  constructor
  case outgrows =>
    have composed := @composed_finishData blueprint own settings construct
    rw [← isData] at composed
    have grown := (hereditary_outgrows _).of_composed composed running (.refl _)
    rwa [done] at grown
  all_goals
    simp only [finishData, Catalogue.run_bind_eq_ok blueprint.listed, Catalogue.run_modify,
      Catalogue.run_pure] at done
    rcases done with ⟨_, stored, storing, _, granted, granting, _, _, inserting, ended⟩
    cases storing
    cases inserting
    cases ended
  case stored => exact ⟨_, OrderedMap.find?_insert_self _ _ _, rfl, rfl⟩
  case sole =>
    intro sole
    have stored : Cyclic { before with state := { before.state with
        outputs := before.state.outputs.store graphqlOutputKey construct.output } } own := running
    have granting_composed : Composed .stub 0 (settings.access.forM fun grants =>
        discard (blueprint.grantData settings.resolvedName construct.resources grants)) :=
      Composed.forM_option (fun grants => composed_grant _ grants) settings.access
    rcases sameOwn_of_composed (not_isHandler_of_data isData) sole granting_composed stored
      granting with ⟨stack, output⟩
    rw [isData] at stack output
    exact ⟨stack, output.trans (by rw [OutputStorage.find?_store]; exact if_pos rfl)⟩

/-! ## Resources that are built -/

/-- A data resource has been built: from which properties, in what stack, and what is there now. -/
structure Produced (own : blueprint.Factory) (settings : DataSettings Reference)
    (before after : BackendContainer) (properties : DataProperties Nat) (scope : DataScope)
    (construct : DataConstruct Nat) (created : DataScope) : Prop where
  settled : blueprint.Settled settings (blueprint.provider before.state).isSome properties
  rooted : scope.stack.Rooted
  begun : Sole own → Begun own scope.stack
  completed : DataConstruct.Completed scope settings.resolvedName properties construct created
  distinct : (dataStack after.state).Rooted
  outgrows : created.stack.Outgrows (dataStack after.state)
  stored : ∃ built, after.state.datas.find? own = some built ∧
    built.construct.resources = construct.resources ∧ built.construct.output = construct.output
  sole : Sole own → dataStack after.state = created.stack ∧
    after.state.outputs.find? graphqlOutputKey = some construct.output

/-- A request that succeeds has built the resource, if it was not there. -/
theorem exists_produced (occurs : blueprint.Occurs container)
    (defined : blueprint.definition own = .data settings site)
    (absent : container.contains (blueprint.idOf own) = false) {found : Instance}
    (done : blueprint.catalogue.run (blueprint.instanceOf own) container = (.ok found, after)) :
    ∃ properties scope construct created,
      Produced own settings container after properties scope construct created := by
  have isData : blueprint.kindOf own = .data := by rw [kindOf, defined]; rfl
  have missing := lookup?_eq_none_of_contains absent
  have idle : container.isResolving (blueprint.idOf own) = false := by
    rw [Bool.eq_false_iff]
    exact fun running => Cyclic.not_ok ⟨missing, running⟩ done
  have distinct : (dataStack after.state).Rooted := by
    have ended := hereditary_rooted.instanceOf own occurs.rooted
    rwa [done] at ended
  rw [run_instanceOf_eq_ok_of_absent missing idle, defined] at done
  rcases done with ⟨_, _, journal, inner, _, built, rfl⟩
  have running : Cyclic (opened container own journal) own := cyclic_opened missing journal
  simp only [build, buildData_eq_settle, constructData, Catalogue.run_bind_eq_ok blueprint.listed,
    Catalogue.run_act] at built
  rcases built with ⟨⟨auth, properties⟩, first, settling, construct, second, creating, finishing⟩
  rcases Prod.mk.injEq .. ▸ creating with ⟨created, rfl⟩
  have settled := settled_of_run settling
  have composed := @composed_settleData blueprint (blueprint.kindOf own) own
    settings.resolvedName settings
  have inherits : ∀ {holds : Stack → Prop}, blueprint.Hereditary holds →
      holds (dataStack container.state) → holds (dataStack first.state) := by
    intro holds hereditary known
    have opening : dataStack (opened container own journal).state = dataStack container.state :=
      StackSet.stackFor_touch _ _ _
    have ended := hereditary.of_composed composed running (opening ▸ known)
    rwa [settling] at ended
  have runningFirst : Cyclic first own := running.of_run settling
  have finished : Finished own construct { first with state :=
      (createData (auth.map (·.1)) settings.resolvedName properties first.state).2 } inner :=
    finished_of_run defined runningFirst finishing
  have stack := dataStack_createData (auth.map (·.1)) settings.resolvedName properties first.state
  exact ⟨properties, dataScope first.state (auth.map (·.1)), construct,
    (DataConstruct.create (dataScope first.state (auth.map (·.1))) settings.resolvedName
      properties).2, {
    settled
    rooted := inherits hereditary_rooted occurs.rooted
    begun := fun sole => inherits (hereditary_begun isData sole) (occurs.begun isData sole)
    completed := DataConstruct.completed_of_create (Prod.ext (create_of_createData created) rfl)
    distinct
    outgrows := stack ▸ finished.outgrows
    stored := finished.stored
    sole := stack ▸ finished.sole }⟩

/-! ## What is in the stack -/

namespace Produced

variable {properties : DataProperties Nat} {scope created : DataScope}
  {construct : DataConstruct Nat}
  (produced : Produced own settings container after properties scope construct created)

include produced

/-- What the construct has registered is there. -/
theorem mem_dataStack {resource : StackResource}
    (registered : resource ∈ properties.registrations settings.resolvedName) :
    resource ∈ (dataStack after.state).resources := by
  apply produced.outgrows.mem
  rw [produced.completed.registered]
  exact List.mem_append_right _ registered

/-- The API of the resource was not there before. -/
theorem not_has_api :
    ¬ scope.stack.has (DataProperties.apiLogicalId settings.resolvedName) = true := by
  intro there
  rw [Stack.has_iff] at there
  apply produced.completed.free there
  rcases properties.registrations_eq_cons settings.resolvedName with ⟨rest, split⟩
  simp [split]

/-- A companion of the API is there only if the construct has registered it. -/
theorem mem_dataStack_iff {ending resourceType : String}
    (companion : ending ∈ DataProperties.companionEndings) :
    ⟨settings.resolvedName ++ ending, resourceType⟩ ∈ (dataStack after.state).resources ↔
      ⟨settings.resolvedName ++ ending, resourceType⟩ ∈
        properties.registrations settings.resolvedName := by
  refine ⟨fun there => ?_, produced.mem_dataStack⟩
  have registered := produced.completed.registered
  have api : created.stack.has (DataProperties.apiLogicalId settings.resolvedName) = true := by
    rcases properties.registrations_eq_cons settings.resolvedName with ⟨rest, split⟩
    simp [registered, split, Stack.has]
  have created_has := produced.outgrows.companion _ api ending companion
    ((Stack.has_iff _ _).mpr (List.mem_map.mpr ⟨_, there, rfl⟩))
  rw [registered, Stack.has_iff, List.map_append, List.mem_append] at created_has
  rcases created_has with before | added
  · exact absurd (produced.rooted.api _ ending companion ((Stack.has_iff _ _).mpr before))
      produced.not_has_api
  · rcases List.mem_map.mp added with ⟨resource, resource_mem, same⟩
    -- Logical ids are distinct, so this is the resource that is there.
    have equal := List.inj_on_of_nodup_map produced.distinct.distinct
      (produced.mem_dataStack resource_mem) there same
    rwa [← equal]

/-- If there is no other data resource, the stack has nothing but what the construct has
registered. -/
theorem logicalIdsOf_of_sole (defined : blueprint.definition own = .data settings site)
    (sole : Sole own) {resourceType : String} {ids : List String}
    (listed : (resourceType, ids) ∈ properties.idsByType settings.resolvedName) :
    (dataStack after.state).logicalIdsOf resourceType = ids := by
  have empty : scope.stack.resources = [] := by
    rcases produced.begun sole with empty | begun
    · exact empty
    · rw [resourceName_of_data defined] at begun
      exact absurd begun produced.not_has_api
  rw [(produced.sole sole).1, produced.completed.typed _ _ listed, Stack.logicalIdsOf, empty]
  rfl

end Produced

/-! ## A notebook -/

/-- The settings of notes and tags that are read with a key, or by what a function says. -/
def notesSettings (tableMappings : List TableMapping) : DataSettings Reference where
  name := some "notes"
  schema := "type Note @model { id: ID! } type Tag @model { id: ID! }"
  authorization := some ⟨some .apiKey, some .default, none, some ⟨⟨"reader", []⟩, 300⟩⟩
  functions := .empty
  logging := none
  tableMappings := tableMappings
  access := none

/-- A backend of notes. -/
def notebook (tableMappings : List TableMapping) : Blueprint where
  configuration := .default
  siteCheck := none
  nameCheck := none
  definitions :=
    [.function { FunctionSettings.default with name := some "reader" } ⟨"reader.rs", 1, 1⟩,
     .data (notesSettings tableMappings) ⟨"data.rs", 1, 1⟩]
  names := OrderedMap.ofList [("reader", 0), ("notes", 1)]

/-- Its data resource. -/
def notes (tableMappings : List TableMapping) : (notebook tableMappings).Factory :=
  ⟨1, Nat.one_lt_two⟩

/-- The backend when nothing has been requested of it. -/
def blankNotebook (tableMappings : List TableMapping) : Backend :=
  .new (notebook tableMappings).configuration .empty

/-- What comes of a request for the notes. -/
def requestedNotes (tableMappings : List TableMapping) :
    Except BackendError Instance × BackendContainer :=
  (notebook tableMappings).catalogue.run ((notebook tableMappings).instanceOf (notes tableMappings))
    (blankNotebook tableMappings).container

/-- Former notes of two branches; a sandbox adopts those of the second. -/
def formerNotes : List TableMapping :=
  [⟨"main", none⟩, ⟨"sandbox", some (SortedMap.ofList [("Note", "former-notes")])⟩]

theorem occurs_blankNotebook (tableMappings : List TableMapping) :
    (notebook tableMappings).Occurs (blankNotebook tableMappings).container :=
  .operated (.new .empty)

theorem requested_formerNotes :
    requestedNotes formerNotes = (.ok ⟨.data, 1⟩, (requestedNotes formerNotes).2) := by
  have answered : (requestedNotes formerNotes).1 = .ok ⟨.data, 1⟩ := by decide +kernel
  rw [← answered]

end CloudSynth.Blueprint
