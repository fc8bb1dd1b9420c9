import CloudSynth.Proofs.Data.Building
import CloudSynth.Proofs.Data.Rearrangement

/-!
# Adoption of tables

The tables of a former deployment pass through three places: the mapping of the branch is selected,
the construct checks that its models are in the schema, and every model of the schema gets a
resource for its table. None of them drops an entry: branches that are listed twice and models that
are not in the schema are refused, and what is selected comes out as the imported tables of the
construct (`Blueprint.adopted_tables`).
-/

namespace CloudSynth.Blueprint

variable {blueprint : Blueprint} {own : blueprint.Factory} {settings : DataSettings Reference}
  {site : DefinitionSite} {container between after : BackendContainer} {parts : SettledParts}

/-! ## Settings that are refused -/

/-- When everything else is settled, a request fails as the rest of the body does. -/
theorem Unbuilt.error_of_parts (unbuilt : Unbuilt container own)
    (defined : blueprint.definition own = .data settings site)
    (settled : blueprint.catalogue.run (blueprint.settleParts settings) (started container own) =
      (.ok parts, between)) {failure : BackendError}
    (failed : (blueprint.catalogue.run (do
      let importedTables ← blueprint.ofData
        (TableMapping.select settings.tableMappings blueprint.identifier)
      blueprint.constructData own settings
        (parts.auth, parts.properties blueprint settings importedTables)) between).1 =
          .error failure) :
    (blueprint.catalogue.run (blueprint.instanceOf own) container).1 = .error failure := by
  apply unbuilt.error_of_body
  rw [defined]
  simp only [build, buildData_eq_settle, settleData_eq, bind_assoc, pure_bind]
  rw [Catalogue.run_bind blueprint.listed, settled]
  exact failed

theorem Unbuilt.error_of_repeated (unbuilt : Unbuilt container own)
    (defined : blueprint.definition own = .data settings site)
    (settled : blueprint.catalogue.run (blueprint.settleParts settings) (started container own) =
      (.ok parts, between))
    (repeated : ¬ (settings.tableMappings.map (·.branchName)).Nodup) :
    (blueprint.catalogue.run (blueprint.instanceOf own) container).1 =
      .error DataFault.branchRepeated.toError := by
  apply unbuilt.error_of_parts defined settled
  rw [TableMapping.select_of_repeated repeated]
  rfl

theorem createData_of_check {auth : Option Nat} {name : String} {properties : DataProperties Nat}
    {fault : DataConstructFault} (refused : properties.check = .error fault)
    (assembly : Assembly) :
    (createData auth name properties assembly).1 =
      .error (.ofConstruct .data (.invalidProps fault.message)) := by
  simp only [createData, DataConstruct.create, refused]
  rfl

theorem Unbuilt.error_of_unknown (unbuilt : Unbuilt container own)
    (defined : blueprint.definition own = .data settings site)
    (settled : blueprint.catalogue.run (blueprint.settleParts settings) (started container own) =
      (.ok parts, between)) {tables : SortedMap String}
    (selected : TableMapping.select settings.tableMappings blueprint.identifier = .ok tables)
    {model : String} (mapped : model ∈ tables.keys)
    (unknown : model ∉ Schema.modelNames settings.schema) :
    ∃ first ∈ tables.keys, first ∉ Schema.modelNames settings.schema ∧
      (blueprint.catalogue.run (blueprint.instanceOf own) container).1 =
        .error (.ofConstruct .data
          (.invalidProps ("Imported model not found in schema: " ++ first))) := by
  have refused := (parts.properties blueprint settings tables).check_of_unknown mapped unknown
  rcases refused with ⟨first, first_mem, notKnown, refused⟩
  refine ⟨first, first_mem, notKnown, unbuilt.error_of_parts defined settled ?_⟩
  have failed := @createData_of_check (parts.auth.map (·.1)) settings.resolvedName _ _ refused
    between.state
  rw [selected]
  change (blueprint.catalogue.run (blueprint.constructData own settings _) between).1 = _
  rw [constructData, Catalogue.run_bind blueprint.listed, Catalogue.run_act]
  dsimp only
  rw [failed]
  rfl

/-! ## Tables of a resource that is built -/

/-- The model is imported with the table. -/
def Imports (construct : DataConstruct Nat) (model table : String) : Prop :=
  construct.resources.tables.find? model = some ⟨table, true⟩

/-- What has become of the table mappings in a data resource that is built. -/
structure Adopts (blueprint : Blueprint) (settings : DataSettings Reference) (assembly : Assembly)
    (construct : DataConstruct Nat) : Prop where
  distinct : (settings.tableMappings.map (·.branchName)).Nodup
  imports : ∀ model table, Imports construct model table ↔
    ∃ mapping ∈ settings.tableMappings,
      mapping.branchName = TableMapping.branchOf blueprint.identifier ∧ mapping.Maps model table
  /-- Every model that the mapping of the branch mentions is in the schema. -/
  known : ∀ mapping ∈ settings.tableMappings,
    mapping.branchName = TableMapping.branchOf blueprint.identifier →
      ∀ model table, mapping.Maps model table → model ∈ Schema.modelNames settings.schema
  /-- The construct has a table for every model of the schema, and for no other. -/
  models : ∀ model, model ∈ construct.resources.tables.keys ↔
    model ∈ Schema.modelNames settings.schema
  imported : ∀ model table, Imports construct model table →
    (dataStack assembly).resources.filter (·.logicalId = model ++ "Table") =
      [⟨model ++ "Table", "Custom::ImportedAmplifyDynamoDBTable"⟩]
  created : ∀ model ∈ Schema.modelNames settings.schema,
    (∀ table, ¬ Imports construct model table) →
      (dataStack assembly).resources.filter (·.logicalId = model ++ "Table") =
        [⟨model ++ "Table", "Custom::AmplifyDynamoDBTable"⟩]

theorem Produced.adopts {properties : DataProperties Nat} {scope created : DataScope}
    {construct : DataConstruct Nat}
    (produced : Produced own settings container after properties scope construct created)
    {built : DataConstruct Nat} (resources : built.resources = construct.resources) :
    blueprint.Adopts settings after.state built := by
  have selected := produced.settled.importedTables
  have completed := produced.completed
  have models : properties.models = Schema.modelNames settings.schema := by
    rw [DataProperties.models, produced.settled.schema]
  have known : ∀ model table, properties.importedTables.find? model = some table →
      model ∈ properties.models := by
    intro model table given
    apply completed.consistent.imports
    rw [← SortedMap.find?_isSome_iff, given]
    rfl
  have imports : ∀ model table, Imports built model table ↔
      properties.importedTables.find? model = some table := by
    intro model table
    rw [Imports, resources]
    refine ⟨fun imported => ?_, completed.imported model table⟩
    cases given : properties.importedTables.find? model with
    | some name =>
        rw [completed.imported model name given] at imported
        cases imported
        rfl
    | none =>
        have model_mem : model ∈ properties.models := by
          rw [← completed.keyed, ← SortedMap.find?_isSome_iff, imported]
          rfl
        rw [completed.created model model_mem given] at imported
        cases imported
  have registered : ∀ model ∈ properties.models,
      (dataStack after.state).resources.filter (·.logicalId = model ++ "Table") =
        [properties.tableRegistration model] := by
    intro model model_mem
    exact produced.distinct.filter_logicalId
      (produced.mem_dataStack (DataProperties.tableRegistration_mem model_mem _))
  constructor
  case distinct => exact (TableMapping.select_eq_ok.mp selected).1
  case imports =>
    intro model table
    rw [imports, TableMapping.find?_selected_iff selected]
  case known =>
    intro mapping mapping_mem ofBranch model table maps
    rw [← models]
    exact known model table ((TableMapping.find?_selected_iff selected).mpr
      ⟨mapping, mapping_mem, ofBranch, maps⟩)
  case models =>
    intro model
    rw [resources, completed.keyed, models]
  case imported =>
    intro model table imported
    have given := (imports model table).mp imported
    rw [registered model (known model table given), DataProperties.tableRegistration,
      SortedMap.contains, given]
    rfl
  case created =>
    intro model model_mem notImported
    have notGiven : properties.importedTables.find? model = none := by
      rw [Option.eq_none_iff_forall_ne_some]
      exact fun table given => notImported table ((imports model table).mpr given)
    rw [registered model (models ▸ model_mem), DataProperties.tableRegistration,
      SortedMap.contains, notGiven]
    rfl

end CloudSynth.Blueprint
