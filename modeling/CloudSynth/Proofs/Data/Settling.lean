import CloudSynth.Proofs.Backend.Progress

/-!
# Settling the data settings

The settings are settled in an order that shows in the failures: the modes come first, then the
authorizer, the functions of the schema, and last the tables to adopt
(`Blueprint.settleData_eq`). What comes out is described by `Blueprint.Settled`, whichever functions
were built on the way.
-/

namespace CloudSynth.Blueprint

variable {blueprint : Blueprint} {α : Type}

/-- What is settled before the tables to adopt are. -/
structure SettledParts where
  auth : Option (Nat × BuiltAuth)
  modes : SettledModes
  authorizer : Option (Authorizer Nat)
  functions : SortedMap Nat

/-- Settles everything but the tables to adopt. -/
def settleParts (blueprint : Blueprint) (settings : DataSettings Reference) :
    blueprint.Build SettledParts := do
  let auth ← blueprint.providedAuth authResourcesToken
  let authorization := settings.authorization.getD .unset
  let modes ← blueprint.ofData (authorization.settle auth.isSome)
  let authorizer ← authorization.authorizer.mapM blueprint.settleAuthorizer
  blueprint.ofData (checkSchemaFunctions settings)
  let functions ← blueprint.resolveFunctions settings.functions
  return { auth, modes, authorizer, functions }

/-- The properties that the parts and the tables to adopt are put together to. -/
def SettledParts.properties (blueprint : Blueprint) (settings : DataSettings Reference)
    (parts : SettledParts) (importedTables : SortedMap String) : DataProperties Nat where
  schema := settings.schema
  modes := parts.modes
  apiKeyDays := (settings.authorization.getD .unset).apiKeyDays parts.modes
  userPoolId := parts.auth.map (·.2.construct.resources.userPool.id)
  oidc := (settings.authorization.getD .unset).oidc
  authorizer := parts.authorizer
  functions := parts.functions
  logging := settings.logging.map (·.resolve)
  importedTables := importedTables
  allowDestructiveUpdates := true
  replaceTables := blueprint.identifier.kind = .sandbox
  suffix := blueprint.identifier.resourceId settings.resolvedName

theorem settleData_eq (settings : DataSettings Reference) :
    blueprint.settleData settings.resolvedName settings = (do
      let parts ← blueprint.settleParts settings
      let importedTables ← blueprint.ofData
        (TableMapping.select settings.tableMappings blueprint.identifier)
      return (parts.auth, parts.properties blueprint settings importedTables)) := by
  simp only [settleData, settleDataWith, settleParts, bind_assoc, pure_bind,
    SettledParts.properties, Option.isSome_map, Option.map_map, Function.comp_def]

/-! ## What comes out -/

/-- What the properties of a data construct have to do with the settings. -/
structure Settled (blueprint : Blueprint) (settings : DataSettings Reference) (hasAuth : Bool)
    (properties : DataProperties Nat) : Prop where
  schema : properties.schema = settings.schema
  modes : (settings.authorization.getD .unset).settle hasAuth = .ok properties.modes
  apiKeyDays : properties.apiKeyDays =
    (settings.authorization.getD .unset).apiKeyDays properties.modes
  authorizer : properties.authorizer.isSome =
    (settings.authorization.getD .unset).authorizer.isSome
  importedTables : TableMapping.select settings.tableMappings blueprint.identifier =
    .ok properties.importedTables

section Runs

variable {settings : DataSettings Reference} {before after : BackendContainer}

theorem run_ofData_eq_ok {outcome : Except DataFault α} {result : α} :
    blueprint.catalogue.run (blueprint.ofData outcome) before = (.ok result, after) ↔
      outcome = .ok result ∧ after = before := by
  rw [ofData, Catalogue.run_ofExcept]
  cases outcome <;> simp [Except.mapError, eq_comm]

theorem isSome_of_run_providedAuth {auth : Option (Nat × BuiltAuth)}
    (done : blueprint.catalogue.run (blueprint.providedAuth authResourcesToken) before =
      (.ok auth, after)) : auth.isSome = (blueprint.provider before.state).isSome := by
  rw [run_providedAuth_eq_ok] at done
  rcases done with ⟨unprovided, rfl, _⟩ | ⟨factory, found, built, provided, _, _, rfl⟩
  · rw [unprovided]
    rfl
  · rw [provided]
    rfl

theorem isSome_of_run_mapM {β : Type} {item : Option α} {act : α → blueprint.Build β}
    {result : Option β}
    (done : blueprint.catalogue.run (item.mapM act) before = (.ok result, after)) :
    result.isSome = item.isSome := by
  cases item with
  | none =>
      cases done
      rfl
  | some item =>
      change blueprint.catalogue.run (act item >>= fun made => pure (some made)) before = _ at done
      rw [Catalogue.run_bind_eq_ok blueprint.listed] at done
      rcases done with ⟨made, between, _, ended⟩
      cases ended
      rfl

theorem settled_of_run_with {auth : Option BuiltAuth} {name : String}
    {properties : DataProperties Nat}
    (done : blueprint.catalogue.run (blueprint.settleDataWith auth name settings) before =
      (.ok properties, after)) : blueprint.Settled settings auth.isSome properties := by
  simp only [settleDataWith, Catalogue.run_bind_eq_ok blueprint.listed, run_ofData_eq_ok,
    Catalogue.run_pure] at done
  rcases done with ⟨modes, _, ⟨settles, rfl⟩, authorizer, _, resolved, _, _, _, functions, _, _,
    importedTables, _, ⟨selected, _⟩, ended⟩
  cases ended
  exact ⟨rfl, settles, rfl, isSome_of_run_mapM resolved, selected⟩

theorem settled_of_run {settled : Option (Nat × BuiltAuth) × DataProperties Nat} {name : String}
    (done : blueprint.catalogue.run (blueprint.settleData name settings) before =
      (.ok settled, after)) :
    blueprint.Settled settings (blueprint.provider before.state).isSome settled.2 := by
  simp only [settleData, Catalogue.run_bind_eq_ok blueprint.listed, Catalogue.run_pure] at done
  rcases done with ⟨auth, _, provided, properties, _, settling, ended⟩
  cases ended
  rw [← isSome_of_run_providedAuth provided, ← Option.isSome_map]
  exact settled_of_run_with settling

end Runs

/-! ## Building -/

/-- What remains to be done for the data resource when its settings are settled. -/
def constructData (blueprint : Blueprint) (factory : Nat) (settings : DataSettings Reference)
    (settled : Option (Nat × BuiltAuth) × DataProperties Nat) : blueprint.Build Instance :=
  Program.act (createData (settled.1.map (·.1)) settings.resolvedName settled.2) >>=
    blueprint.finishData factory settings

theorem buildData_eq_settle (factory : Nat) (settings : DataSettings Reference) :
    blueprint.buildData factory settings =
      blueprint.settleData settings.resolvedName settings >>=
        blueprint.constructData factory settings := rfl

end CloudSynth.Blueprint
