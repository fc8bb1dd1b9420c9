import CloudSynth.Data.Construct
import CloudSynth.Proofs.Backend.Footprints
import CloudSynth.Proofs.Text.Joined

/-!
# Registration of the data construct

Three kinds of names meet in one stack: the id of the construct, the models of its schema, and the
functions with a capital first letter. Each is followed by an ending that says what the resource is
(`DataProperties.labels`), and the last four letters of a logical id tell the ending. So resources
of different kinds never collide, and the ids of a construct are distinct exactly if its models and
its capitalized functions are (`DataProperties.nodup_logicalIds_iff`).

What a built construct consists of is read off its registrations, one type of resource at a time
(`DataConstruct.Completed`). Roles gain their policies after everything is registered, so a
construct that fails leaves them alone (`DataConstruct.construction`).
-/

namespace CloudSynth

variable {φ : Type}

theorem Stack.logicalIdsOf_append (stack : Stack) (resources : List StackResource)
    (resourceType : String) :
    Stack.logicalIdsOf { stack with resources := stack.resources ++ resources } resourceType =
      stack.logicalIdsOf resourceType ++
        (resources.filter (·.resourceType = resourceType)).map (·.logicalId) := by
  simp [Stack.logicalIdsOf]

namespace DataProperties

/-! ## Logical ids -/

/-- What the logical ids of the construct end in. -/
def idEndings : List String :=
  ["GraphQLAPI", "GraphQLAPIDefaultApiKey", "ModelIntrospectionSchemaBucket", "Table",
   "LambdaDataSource", "LambdaAuthorizerPermission", "LogRetention"]

/-- The name of a function with its first letter in upper case. -/
def capitalized (function : String) : String := String.ofList (Text.capitalize function.toList)

/-- What the logical ids are put together from: a stem and an ending. -/
def labels (properties : DataProperties φ) (id : String) : List (String × String) :=
  [(id, "GraphQLAPI")] ++
  (if properties.apiKeyDays.isSome then [(id, "GraphQLAPIDefaultApiKey")] else []) ++
  [(id, "ModelIntrospectionSchemaBucket")] ++
  properties.models.map (·, "Table") ++
  (properties.functions.keys.map capitalized).map (·, "LambdaDataSource") ++
  (if properties.authorizer.isSome then [(id, "LambdaAuthorizerPermission")] else []) ++
  (if properties.logging.isSome then [(id, "LogRetention")] else [])

theorem logicalIds_eq (properties : DataProperties φ) (id : String) :
    (properties.registrations id).map (·.logicalId) =
      (properties.labels id).map fun label => label.1 ++ label.2 := by
  unfold registrations labels
  cases properties.apiKeyDays <;> cases properties.authorizer <;> cases properties.logging <;>
    simp [tableRegistration, sourceRegistration, capitalized, Function.comp_def]

theorem ending_mem_of_mem_labels {properties : DataProperties φ} {id : String}
    {label : String × String} (label_mem : label ∈ properties.labels id) :
    label.2 ∈ idEndings := by
  simp only [labels, List.mem_append, List.mem_singleton, List.mem_map, List.mem_ite_nil_right]
    at label_mem
  rcases label_mem with (((((rfl | ⟨_, rfl⟩) | rfl) | ⟨_, _, rfl⟩) | ⟨_, _, rfl⟩) | ⟨_, rfl⟩) |
    ⟨_, rfl⟩ <;> simp [idEndings]

theorem label_inj {first second : String × String} (isFirst : first.2 ∈ idEndings)
    (isSecond : second.2 ∈ idEndings) (same : first.1 ++ first.2 = second.1 ++ second.2) :
    first = second := by
  have long : ∀ ending ∈ idEndings, 4 ≤ ending.toList.length := by decide
  have apart : ∀ first ∈ idEndings, ∀ second ∈ idEndings,
      first.toList.reverse.take 4 = second.toList.reverse.take 4 → first = second := by decide
  rcases eq_of_append_ending long apart isFirst isSecond same with ⟨stems, endings⟩
  exact Prod.ext stems endings

theorem nodup_labels_iff (properties : DataProperties φ) (id : String) :
    (properties.labels id).Nodup ↔
      properties.models.Nodup ∧ (properties.functions.keys.map capitalized).Nodup := by
  have labelled : ∀ (stems : List String) (ending : String),
      (stems.map (·, ending)).Nodup ↔ stems.Nodup := fun stems ending =>
    List.nodup_map_iff fun first second same => (Prod.mk.inj same).1
  unfold labels
  -- Labels of two kinds are apart already in their endings.
  cases properties.apiKeyDays <;> cases properties.authorizer <;> cases properties.logging <;>
    simp [List.nodup_append', labelled, List.disjoint_left, -List.map_map]

/-- The logical ids are distinct exactly if the models and the capitalized functions are. -/
theorem nodup_logicalIds_iff (properties : DataProperties φ) (id : String) :
    ((properties.registrations id).map (·.logicalId)).Nodup ↔
      properties.models.Nodup ∧ (properties.functions.keys.map capitalized).Nodup := by
  rw [logicalIds_eq, ← nodup_labels_iff properties id]
  constructor
  · exact List.Nodup.of_map _
  · apply List.Nodup.map_on
    intro first first_mem second second_mem same
    exact label_inj (ending_mem_of_mem_labels first_mem) (ending_mem_of_mem_labels second_mem) same

/-! ## Types of resources -/

/-- The logical ids of the construct by the type of the resource, in order of registration. -/
def idsByType (properties : DataProperties φ) (id : String) : List (String × List String) :=
  [("AWS::AppSync::GraphQLApi", [id ++ "GraphQLAPI"]),
   ("AWS::AppSync::ApiKey",
      if properties.apiKeyDays.isSome then [id ++ "GraphQLAPIDefaultApiKey"] else []),
   ("AWS::S3::Bucket", [id ++ "ModelIntrospectionSchemaBucket"]),
   ("Custom::ImportedAmplifyDynamoDBTable",
      (properties.models.filter properties.importedTables.contains).map (· ++ "Table")),
   ("Custom::AmplifyDynamoDBTable",
      (properties.models.filter (!properties.importedTables.contains ·)).map (· ++ "Table")),
   ("AWS::AppSync::DataSource",
      properties.functions.keys.map (capitalized · ++ "LambdaDataSource")),
   ("AWS::Lambda::Permission",
      if properties.authorizer.isSome then [id ++ "LambdaAuthorizerPermission"] else []),
   ("Custom::LogRetention",
      if properties.logging.isSome then [id ++ "LogRetention"] else [])]

@[simp]
theorem tableRegistration_logicalId (properties : DataProperties φ) (model : String) :
    (properties.tableRegistration model).logicalId = model ++ "Table" := rfl

theorem tableRegistration_mem {properties : DataProperties φ} {model : String}
    (known : model ∈ properties.models) (id : String) :
    properties.tableRegistration model ∈ properties.registrations id := by
  simp only [registrations, List.mem_append, List.mem_map]
  exact Or.inl (Or.inl (Or.inl (Or.inr ⟨model, known, rfl⟩)))

theorem logicalIds_registrations_of_type (properties : DataProperties φ) (id : String)
    {resourceType : String} {ids : List String}
    (listed : (resourceType, ids) ∈ properties.idsByType id) :
    ((properties.registrations id).filter (·.resourceType = resourceType)).map (·.logicalId) =
      ids := by
  have tables : ∀ model, (properties.tableRegistration model).resourceType = resourceType ↔
      if properties.importedTables.contains model then
        resourceType = "Custom::ImportedAmplifyDynamoDBTable"
      else resourceType = "Custom::AmplifyDynamoDBTable" := by
    intro model
    unfold tableRegistration
    split <;> exact eq_comm
  unfold registrations
  simp only [idsByType, List.mem_cons, List.not_mem_nil, or_false, Prod.mk.injEq] at listed
  rcases listed with ⟨rfl, rfl⟩ | ⟨rfl, rfl⟩ | ⟨rfl, rfl⟩ | ⟨rfl, rfl⟩ | ⟨rfl, rfl⟩ | ⟨rfl, rfl⟩ |
    ⟨rfl, rfl⟩ | ⟨rfl, rfl⟩ <;>
  cases properties.apiKeyDays <;> cases properties.authorizer <;> cases properties.logging <;>
    simp [List.filter_map, Function.comp_def, tables, sourceRegistration, capitalized]

theorem mem_registrations_iff (properties : DataProperties φ) (id : String)
    {resourceType : String} {ids : List String}
    (listed : (resourceType, ids) ∈ properties.idsByType id) {logicalId : String} :
    ⟨logicalId, resourceType⟩ ∈ properties.registrations id ↔ logicalId ∈ ids := by
  rw [← logicalIds_registrations_of_type properties id listed, List.mem_map]
  constructor
  · intro registered
    exact ⟨_, List.mem_filter.mpr ⟨registered, decide_eq_true rfl⟩, rfl⟩
  · rintro ⟨⟨_, _⟩, resource_mem, rfl⟩
    rcases List.mem_filter.mp resource_mem with ⟨registered, ofType⟩
    rcases of_decide_eq_true ofType
    exact registered

/-! ## Tables -/

/-- The tables that the construct has, one for each model. -/
theorem find?_tables_iff {properties : DataProperties φ} (distinct : properties.models.Nodup)
    {stack : Stack} {id model : String} {table : ModelTable} :
    (properties.resources stack id).tables.find? model = some table ↔
      model ∈ properties.models ∧ table = properties.tableOf model := by
  have pairs : ((properties.models.map fun model => (model, properties.tableOf model)).map
      Prod.fst).Nodup := by
    simpa [Function.comp_def] using distinct
  have present : ∀ model ∈ properties.models,
      (properties.resources stack id).tables.find? model = some (properties.tableOf model) := by
    intro model model_mem
    exact SortedMap.find?_foldl_insert_of_mem Prod.fst Prod.snd pairs
      (List.mem_map.mpr ⟨model, model_mem, rfl⟩) _
  have absent : ∀ model, model ∉ properties.models →
      (properties.resources stack id).tables.find? model = none := by
    intro model other
    refine SortedMap.find?_foldl_insert_of_not_mem Prod.fst Prod.snd ?_ _
    simpa [Function.comp_def] using other
  by_cases model_mem : model ∈ properties.models
  · rw [present model model_mem, Option.some.injEq]
    simp [model_mem, eq_comm]
  · rw [absent model model_mem]
    simp [model_mem]

/-! ## Consistent properties -/

/-- Every adopted table is of a model, and the lifetime of a key is allowed. -/
structure Consistent (properties : DataProperties φ) : Prop where
  imports : ∀ model ∈ properties.importedTables.keys, model ∈ properties.models
  lifetime : ∀ days, properties.apiKeyDays = some days → 1 ≤ days ∧ days ≤ 365

theorem check_eq_ok_iff (properties : DataProperties φ) :
    properties.check = .ok () ↔ properties.Consistent := by
  unfold check
  constructor
  · intro checked
    split at checked
    · cases checked
    next known =>
    refine ⟨by simpa using known, ?_⟩
    intro days given
    rw [given] at checked
    dsimp only at checked
    split at checked
    · next within => exact within
    · cases checked
  · rintro ⟨imports, lifetime⟩
    have known : properties.importedTables.keys.find? (· ∉ properties.models) = none := by
      simpa using imports
    rw [known]
    cases given : properties.apiKeyDays with
    | none => rfl
    | some days => exact if_pos (lifetime days given)

/-- Unknown models are refused, and the first of them is reported. -/
theorem check_of_unknown {properties : DataProperties φ} {model : String}
    (imported : model ∈ properties.importedTables.keys)
    (unknown : model ∉ properties.models) :
    ∃ first ∈ properties.importedTables.keys, first ∉ properties.models ∧
      properties.check = .error (.modelUnknown first) := by
  cases found : properties.importedTables.keys.find? (· ∉ properties.models) with
  | none =>
      rw [List.find?_eq_none] at found
      exact absurd (decide_eq_true unknown) (found model imported)
  | some first =>
      refine ⟨first, List.mem_of_find?_eq_some found, by simpa using List.find?_some found, ?_⟩
      rw [check, found]

end DataProperties

namespace DataConstruct

variable {scope after : DataScope} {id : String} {properties : DataProperties φ}
  {construct : DataConstruct φ}

/-! ## Building -/

/-- What a construct consists of, and what it leaves in the stack that it is built in. -/
structure Completed (scope : DataScope) (id : String) (properties : DataProperties φ)
    (construct : DataConstruct φ) (after : DataScope) : Prop where
  consistent : properties.Consistent
  /-- The logical ids are distinct and new. -/
  distinct : ((properties.registrations id).map (·.logicalId)).Nodup
  free : (scope.stack.resources.map (·.logicalId)).Disjoint
    ((properties.registrations id).map (·.logicalId))
  registered : after.stack =
    { scope.stack with resources := scope.stack.resources ++ properties.registrations id }
  /-- No resources of a type are registered but these. -/
  typed : ∀ resourceType ids, (resourceType, ids) ∈ properties.idsByType id →
    after.stack.logicalIdsOf resourceType = scope.stack.logicalIdsOf resourceType ++ ids
  keyed : ∀ model, model ∈ construct.resources.tables.keys ↔ model ∈ properties.models
  imported : ∀ model name, properties.importedTables.find? model = some name →
    construct.resources.tables.find? model = some ⟨name, true⟩
  created : ∀ model ∈ properties.models, properties.importedTables.find? model = none →
    construct.resources.tables.find? model =
      some ⟨model ++ "-" ++ construct.resources.apiId ++ "-NONE", false⟩
  sources : construct.resources.dataSources = properties.functions
  key : construct.resources.apiKey.isSome = properties.apiKeyDays.isSome
  outputs : construct.output = properties.output after.stack construct.resources

theorem create_eq_ok (built : create scope id properties = (.ok construct, after)) :
    properties.check = .ok () ∧
      scope.stack.addAll (properties.registrations id) = (.ok (), after.stack) ∧
      construct.resources = properties.resources after.stack id ∧
      construct.output = properties.output after.stack construct.resources := by
  unfold create at built
  split at built
  · cases built
  next checked =>
  rcases registered : scope.stack.addAll (properties.registrations id) with ⟨failure | _, stack⟩
  · rw [registered] at built
    cases built
  simp only [registered, Prod.mk.injEq, Except.ok.injEq] at built
  rcases built with ⟨rfl, rfl⟩
  refine ⟨checked, ?_, ?_, ?_⟩ <;> split <;> rfl

theorem completed_of_create (built : create scope id properties = (.ok construct, after)) :
    Completed scope id properties construct after := by
  rcases create_eq_ok built with ⟨checked, added, resources, outputs⟩
  have consistent := properties.check_eq_ok_iff.mp checked
  rcases Stack.addAll_eq_ok.mp added with ⟨registered, distinct, free⟩
  have models := ((properties.nodup_logicalIds_iff id).mp distinct).1
  have tables : ∀ model table, construct.resources.tables.find? model = some table ↔
      model ∈ properties.models ∧ table = properties.tableOf model := by
    intro model table
    rw [resources]
    exact DataProperties.find?_tables_iff models
  refine ⟨consistent, distinct, free, registered, ?_, ?_, ?_, ?_, ?_, ?_, outputs⟩
  · intro resourceType ids listed
    rw [registered, Stack.logicalIdsOf_append,
      properties.logicalIds_registrations_of_type id listed]
  · intro model
    rw [← SortedMap.find?_isSome_iff, Option.isSome_iff_exists]
    simp [tables]
  · intro model name given
    have model_mem : model ∈ properties.models := by
      apply consistent.imports
      rw [← SortedMap.find?_isSome_iff, given]
      rfl
    rw [tables]
    simp [DataProperties.tableOf, given, model_mem]
  · intro model model_mem notGiven
    rw [tables]
    simp [DataProperties.tableOf, notGiven, model_mem, resources, DataProperties.resources]
  · rw [resources]
    rfl
  · rw [resources]
    simp [DataProperties.resources]

/-- A construct that fails changes no role, and refused properties change nothing at all. -/
theorem create_eq_error {failure : ConstructError}
    (failed : create scope id properties = (.error failure, after)) :
    (∃ stack, after = { scope with stack }) ∧
      ((∃ message, failure = .invalidProps message) → after = scope) := by
  unfold create at failed
  split at failed
  · cases failed
    exact ⟨⟨scope.stack, rfl⟩, fun _ => rfl⟩
  rcases registered : scope.stack.addAll (properties.registrations id) with ⟨reported | _, stack⟩
  · simp only [registered] at failed
    cases failed
    refine ⟨⟨stack, rfl⟩, ?_⟩
    rintro ⟨message, rfl⟩
    -- Registration reports nothing but taken logical ids.
    rcases Stack.exists_stopsAt registered with ⟨_, _, _, _, _, duplicate, _⟩
    cases duplicate
  · simp only [registered] at failed
    cases failed

/-- What becomes of a construct with any properties, in any stack. -/
structure Construction (scope : DataScope) (id : String) (properties : DataProperties φ) : Prop where
  /-- The construct is built exactly if its properties are consistent, and its logical ids are
  distinct and new. -/
  built_iff : (∃ construct, (create scope id properties).1 = .ok construct) ↔
    properties.Consistent ∧ properties.models.Nodup ∧
      (properties.functions.keys.map DataProperties.capitalized).Nodup ∧
      (scope.stack.resources.map (·.logicalId)).Disjoint
        ((properties.registrations id).map (·.logicalId))
  built_iff_of_empty : scope.stack.resources = [] →
    ((∃ construct, (create scope id properties).1 = .ok construct) ↔
      properties.Consistent ∧ properties.models.Nodup ∧
        (properties.functions.keys.map DataProperties.capitalized).Nodup)
  completed : ∀ construct after, create scope id properties = (.ok construct, after) →
    Completed scope id properties construct after
  roles : ∀ failure after, create scope id properties = (.error failure, after) →
    after.roles = scope.roles ∧ after.nextPolicy = scope.nextPolicy
  refused : ∀ message after, create scope id properties = (.error (.invalidProps message), after) →
    after = scope

theorem exists_construct_iff :
    (∃ construct, (create scope id properties).1 = .ok construct) ↔
      properties.check = .ok () ∧
        ∃ stack, scope.stack.addAll (properties.registrations id) = (.ok (), stack) := by
  constructor
  · rintro ⟨construct, built⟩
    rcases create_eq_ok (Prod.ext built rfl) with ⟨checked, registered, _⟩
    exact ⟨checked, _, registered⟩
  · rintro ⟨checked, stack, registered⟩
    simp only [create, checked, registered]
    exact ⟨_, rfl⟩

theorem construction (scope : DataScope) (id : String) (properties : DataProperties φ) :
    Construction scope id properties := by
  have built_iff : (∃ construct, (create scope id properties).1 = .ok construct) ↔
      properties.Consistent ∧ properties.models.Nodup ∧
        (properties.functions.keys.map DataProperties.capitalized).Nodup ∧
        (scope.stack.resources.map (·.logicalId)).Disjoint
          ((properties.registrations id).map (·.logicalId)) := by
    rw [exists_construct_iff, properties.check_eq_ok_iff]
    simp only [Stack.addAll_eq_ok, exists_eq_left, properties.nodup_logicalIds_iff, and_assoc]
  refine ⟨built_iff, ?empty, fun _ _ => completed_of_create, ?roles, ?refused⟩
  case empty =>
    intro empty
    rw [built_iff, empty]
    simp
  case roles =>
    intro failure after failed
    rcases (create_eq_error failed).1 with ⟨stack, rfl⟩
    exact ⟨rfl, rfl⟩
  case refused =>
    intro message after failed
    exact (create_eq_error failed).2 ⟨message, rfl⟩

/-- A function never collides with a model of its name, but two functions do whose names differ in
the case of their first letters. -/
theorem construction_lookalikes :
    let properties : DataProperties Nat :=
      { schema := "type Echo @model { id: ID! }", modes := ⟨.iam, []⟩, apiKeyDays := some 7
        userPoolId := none, oidc := none, authorizer := none
        functions := .ofList [("echo", 0)], logging := none
        importedTables := .ofList [("Echo", "echo-table")]
        allowDestructiveUpdates := true, replaceTables := false, suffix := "" }
    let scope : DataScope := ⟨.new "data" "us-east-1" "000000000000", [], 0⟩
    (∃ construct, (create scope "app" properties).1 = .ok construct) ∧
      ¬ ∃ construct, (create scope "app"
        { properties with functions := .ofList [("echo", 0), ("Echo", 1)] }).1 = .ok construct := by
  intro properties scope
  constructor
  · apply ((construction scope "app" properties).built_iff_of_empty rfl).mpr
    refine ⟨⟨by decide +kernel, ?_⟩, by decide +kernel, by decide +kernel⟩
    rintro days ⟨⟩
    decide
  · intro built
    apply absurd (((construction scope "app" _).built_iff_of_empty rfl).mp built).2.2
    decide +kernel

end DataConstruct

end CloudSynth
