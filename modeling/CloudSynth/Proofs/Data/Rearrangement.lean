import Mathlib.Data.List.Forall2
import CloudSynth.Proofs.Backend.Functions
import CloudSynth.Proofs.Container.Renaming
import CloudSynth.Proofs.Data.TableSelection

/-!
# Blueprints with rearranged table mappings

Table mappings are looked at in one place only, where those of the branch are selected, and there
their order does not matter. So a blueprint in which the mappings of data resources are listed in
another order builds everything as before. Its factories are other ones, so all programs are
compared up to renaming (`Program.rename`).
-/

namespace CloudSynth

/-- The definitions differ in nothing but the order of table mappings. -/
inductive Definition.Rearranges : Definition → Definition → Prop
  | refl (definition : Definition) : Rearranges definition definition
  | data (settings : DataSettings Reference) (site : DefinitionSite) {mappings : List TableMapping}
    (perm : settings.tableMappings.Perm mappings) :
    Rearranges (.data settings site) (.data { settings with tableMappings := mappings } site)

theorem Definition.Rearranges.kind_eq {first second : Definition}
    (rearranges : first.Rearranges second) : second.kind = first.kind := by
  cases rearranges <;> rfl

namespace Blueprint

/-- The blueprint with other definitions. -/
def redefined (blueprint : Blueprint) (definitions : List Definition) : Blueprint :=
  { blueprint with definitions }

variable {blueprint : Blueprint} {definitions : List Definition} {α : Type}
  (rearranged : List.Forall₂ Definition.Rearranges blueprint.definitions definitions)

/-- The factory at the same place. -/
def counterpart (factory : blueprint.Factory) : (blueprint.redefined definitions).Factory :=
  Fin.cast rearranged.length_eq factory

theorem definition_counterpart (factory : blueprint.Factory) :
    Definition.Rearranges (blueprint.definition factory)
      ((blueprint.redefined definitions).definition (counterpart rearranged factory)) :=
  List.Forall₂.get rearranged factory.isLt _

theorem kind_counterpart (factory : blueprint.Factory) :
    ((blueprint.redefined definitions).definition (counterpart rearranged factory)).kind =
      (blueprint.definition factory).kind :=
  (definition_counterpart rearranged factory).kind_eq

theorem factoryAt?_redefined (number : Nat) :
    (blueprint.redefined definitions).factoryAt? number =
      (blueprint.factoryAt? number).map (counterpart rearranged) := by
  have length : (blueprint.redefined definitions).definitions.length =
      blueprint.definitions.length := rearranged.length_eq.symm
  unfold factoryAt?
  by_cases inRange : number < blueprint.definitions.length
  · rw [dif_pos inRange, dif_pos (length.symm ▸ inRange)]
    rfl
  · rw [dif_neg inRange, dif_neg (length.symm ▸ inRange)]
    rfl

/-! ## Requests -/

theorem rename_checkDefinition {first second : Definition} (rearranges : first.Rearranges second) :
    (blueprint.checkDefinition first).rename (counterpart rearranged) =
      (blueprint.redefined definitions).checkDefinition second := by
  cases rearranges with
  | data settings site perm =>
      simp only [checkDefinition, Program.rename_bind, Program.rename_act]
      rfl
  | refl =>
      cases first with
      | function settings site =>
          simp only [checkDefinition]
          cases settings.resolve site <;> rfl
      | stub name => rfl
      | auth settings site | data settings site =>
          simp only [checkDefinition, Program.rename_bind, Program.rename_act]
          rfl

theorem rename_instanceOf (factory : blueprint.Factory) :
    (blueprint.instanceOf factory).rename (counterpart rearranged) =
      (blueprint.redefined definitions).instanceOf (counterpart rearranged factory) := by
  rw [instanceOf, Program.rename_bind,
    rename_checkDefinition rearranged (definition_counterpart rearranged factory)]
  rfl

theorem rename_named_bind (name : String)
    {next : blueprint.Factory → (blueprint.redefined definitions).Build α}
    {other : (blueprint.redefined definitions).Factory → (blueprint.redefined definitions).Build α}
    (same : ∀ factory, next factory = other (counterpart rearranged factory)) :
    (blueprint.named name).rename (counterpart rearranged) >>= next =
      (blueprint.redefined definitions).named name >>= other := by
  have found : (blueprint.redefined definitions).factoryNamed? name =
      (blueprint.factoryNamed? name).map (counterpart rearranged) := by
    change (blueprint.names.find? name).bind (blueprint.redefined definitions).factoryAt? = _
    unfold factoryNamed?
    cases blueprint.names.find? name with
    | none => rfl
    | some number => exact factoryAt?_redefined rearranged number
  unfold named
  rw [found]
  cases blueprint.factoryNamed? name with
  | none => rfl
  | some factory => exact same factory

theorem rename_resolveReference (reference : Reference) (admits : ResourceKind → Bool) :
    (blueprint.resolveReference reference admits).rename (counterpart rearranged) =
      (blueprint.redefined definitions).resolveReference reference admits := by
  simp only [resolveReference, Program.rename_bind, Program.rename_forM_list]
  congr 1
  · congr 1
    funext name
    refine rename_named_bind rearranged name fun factory => ?_
    rw [Program.rename_discard, rename_instanceOf]
  · funext _
    refine rename_named_bind rearranged reference.name fun factory => ?_
    rw [kind_counterpart rearranged]
    split
    · exact rename_instanceOf rearranged factory
    · rfl

theorem rename_resolveHandler (reference : Reference) :
    (blueprint.resolveHandler reference).rename (counterpart rearranged) =
      (blueprint.redefined definitions).resolveHandler reference := by
  simp only [resolveHandler, Program.rename_bind, rename_resolveReference rearranged,
    Program.rename_pure]

theorem rename_builtAuth (factory : Nat) :
    (blueprint.builtAuth factory).rename (counterpart rearranged) =
      (blueprint.redefined definitions).builtAuth factory := by
  simp only [builtAuth, Program.rename_bind, Program.rename_get]
  congr 1
  funext assembly
  cases assembly.auths.find? factory <;> rfl

theorem rename_builtFunction (factory : Nat) :
    (blueprint.builtFunction factory).rename (counterpart rearranged) =
      (blueprint.redefined definitions).builtFunction factory := by
  simp only [builtFunction, Program.rename_bind, Program.rename_get]
  congr 1
  funext assembly
  cases assembly.functions.find? factory <;> rfl

theorem rename_providedAuth (token : String) :
    (blueprint.providedAuth token).rename (counterpart rearranged) =
      (blueprint.redefined definitions).providedAuth token := by
  simp only [providedAuth, Program.rename_bind, Program.rename_get]
  congr 1
  funext assembly
  cases assembly.providers.find? token with
  | none => rfl
  | some number =>
      simp only [Option.bind_some, factoryAt?_redefined rearranged]
      cases blueprint.factoryAt? number with
      | none => rfl
      | some factory =>
          simp only [Option.map_some, Program.rename_bind, rename_instanceOf, rename_builtAuth,
            Program.rename_pure]

/-! ## Settings -/

theorem rename_settleSender (sender : CustomSender Reference) :
    (blueprint.settleSender sender).rename (counterpart rearranged) =
      (blueprint.redefined definitions).settleSender sender := by
  simp only [settleSender, Program.rename_bind, rename_resolveHandler, Program.rename_pure]

theorem rename_settleAuth (name : String) (settings : AuthSettings Reference) :
    (blueprint.settleAuth name settings).rename (counterpart rearranged) =
      (blueprint.redefined definitions).settleAuth name settings := by
  have email : ∀ sender, (blueprint.settleEmailSender sender).rename (counterpart rearranged) =
      (blueprint.redefined definitions).settleEmailSender sender := by
    intro sender
    cases sender with
    | ses fromEmail fromName replyTo => rfl
    | custom sender =>
        simp only [settleEmailSender, Program.rename_bind, rename_settleSender, Program.rename_pure]
  have sms : ∀ sender, (blueprint.settleSmsSender sender).rename (counterpart rearranged) =
      (blueprint.redefined definitions).settleSmsSender sender := by
    intro sender
    cases sender with
    | sns externalId callerArn region => rfl
    | custom sender =>
        simp only [settleSmsSender, Program.rename_bind, rename_settleSender, Program.rename_pure]
  simp only [settleAuth, Program.rename_bind, Program.rename_mapM_option, email, sms,
    Program.rename_pure]
  rfl

theorem rename_resolveTriggers (settings : AuthSettings Reference) :
    (blueprint.resolveTriggers settings).rename (counterpart rearranged) =
      (blueprint.redefined definitions).resolveTriggers settings := by
  simp only [resolveTriggers, Program.rename_mapM_list, Program.rename_bind,
    rename_resolveHandler, Program.rename_pure]

/-- The tables are selected alike. -/
theorem rename_settleData (name : String) (settings : DataSettings Reference)
    {mappings : List TableMapping} (perm : settings.tableMappings.Perm mappings) :
    (blueprint.settleData name settings).rename (counterpart rearranged) =
      (blueprint.redefined definitions).settleData name
        { settings with tableMappings := mappings } := by
  have authorizer : ∀ given, (blueprint.settleAuthorizer given).rename (counterpart rearranged) =
      (blueprint.redefined definitions).settleAuthorizer given := by
    intro given
    simp only [settleAuthorizer, Program.rename_bind, rename_resolveHandler, Program.rename_pure]
  have functions : ∀ given, (blueprint.resolveFunctions given).rename (counterpart rearranged) =
      (blueprint.redefined definitions).resolveFunctions given := by
    intro given
    simp only [resolveFunctions, Program.rename_mapM_list, Program.rename_bind,
      rename_resolveHandler, Program.rename_pure]
  simp only [settleData, settleDataWith, Program.rename_bind, rename_providedAuth, ofData,
    Program.rename_ofExcept, Program.rename_mapM_option, authorizer, functions,
    TableMapping.select_perm perm, Program.rename_pure]
  rfl

/-! ## Grants -/

section Grants

variable {resource : String} {entries : List ParameterEntry} {statementsFor : α → List Statement}

theorem rename_arbitrateOne (index : Nat) (grant : Grant Reference α) :
    ((blueprint.arbiter resource entries statementsFor).arbitrateOne index grant).rename
        (counterpart rearranged) =
      ((blueprint.redefined definitions).arbiter resource entries statementsFor).arbitrateOne
        index grant := by
  simp only [Arbiter.arbitrateOne, arbiter, granteeAcceptor, bind_assoc, Program.rename_bind,
    rename_resolveReference rearranged]
  congr 1
  funext holder
  cases kind : holder.kind with
  | function | stub =>
      simp only [acceptorOf, kind, functionAcceptor, bind_assoc, pure_bind, Program.rename_bind,
        rename_builtFunction, Program.rename_modifyGet, Program.rename_modify, Program.rename_pure]
      rfl
  | auth =>
      simp only [acceptorOf, kind, authAcceptor, bind_assoc, Program.rename_bind, rename_builtAuth]
      rfl
  | data =>
      simp only [acceptorOf, kind]
      rfl

theorem rename_arbitrateFrom (index : Nat) (grants : List (Grant Reference α)) :
    ((blueprint.arbiter resource entries statementsFor).arbitrateFrom index grants).rename
        (counterpart rearranged) =
      ((blueprint.redefined definitions).arbiter resource entries statementsFor).arbitrateFrom
        index grants := by
  induction grants generalizing index with
  | nil => rfl
  | cons grant rest ih =>
      simp only [Arbiter.arbitrateFrom, Program.rename_bind, rename_arbitrateOne, ih,
        Program.rename_pure]

end Grants

/-! ## Bodies -/

theorem rename_grantAuth (name : String) (resources : AuthResources Nat)
    (grants : List (Grant Reference AuthAction)) :
    (blueprint.grantAuth name resources grants).rename (counterpart rearranged) =
      (blueprint.redefined definitions).grantAuth name resources grants := by
  simp only [grantAuth, Arbiter.arbitrate, Program.rename_bind, Program.rename_modifyGet,
    rename_arbitrateFrom]

theorem rename_grantData (name : String) (resources : DataResources Nat)
    (grants : List (Grant Reference DataAction)) :
    (blueprint.grantData name resources grants).rename (counterpart rearranged) =
      (blueprint.redefined definitions).grantData name resources grants := by
  simp only [grantData, Arbiter.arbitrate, Program.rename_bind, Program.rename_modifyGet,
    rename_arbitrateFrom]

theorem rename_buildAuth (number : Nat) (settings : AuthSettings Reference) :
    (blueprint.buildAuth number settings).rename (counterpart rearranged) =
      (blueprint.redefined definitions).buildAuth number settings := by
  simp only [buildAuth, Program.rename_bind, rename_settleAuth, rename_resolveTriggers,
    Program.rename_act, Program.rename_ofExcept, Program.rename_modify, Program.rename_forM_option,
    Program.rename_discard, rename_grantAuth, Program.rename_pure]

theorem rename_buildData (number : Nat) (settings : DataSettings Reference)
    {mappings : List TableMapping} (perm : settings.tableMappings.Perm mappings) :
    (blueprint.buildData number settings).rename (counterpart rearranged) =
      (blueprint.redefined definitions).buildData number
        { settings with tableMappings := mappings } := by
  simp only [buildData, Program.rename_bind, rename_settleData rearranged _ settings perm,
    Program.rename_act, Program.rename_modify, Program.rename_forM_option, Program.rename_discard,
    rename_grantData, Program.rename_pure]
  rfl

theorem rename_build (number : Nat) {first second : Definition}
    (rearranges : first.Rearranges second) :
    (blueprint.build number first).rename (counterpart rearranged) =
      (blueprint.redefined definitions).build number second := by
  cases rearranges with
  | data settings site perm => exact rename_buildData rearranged number settings perm
  | refl =>
      cases first with
      | function settings site =>
          simp only [build]
          cases settings.resolve site <;> rfl
      | stub name => rfl
      | auth settings site => exact rename_buildAuth rearranged number settings
      | data settings site => exact rename_buildData rearranged number settings (.refl _)

/-! ## Runs -/

theorem renames_catalogue :
    blueprint.catalogue.Renames (blueprint.redefined definitions).catalogue
      (counterpart rearranged) where
  ids := by
    have length : definitions.length = blueprint.definitions.length := rearranged.length_eq.symm
    simp only [catalogue, redefined, length]
  id _ := rfl
  group factory := congrArg ResourceKind.group (kind_counterpart rearranged factory)
  admits factory := by
    funext entry
    simp only [catalogue, generator, kind_counterpart rearranged factory]
  body factory := by
    have built := rename_build rearranged factory (definition_counterpart rearranged factory)
    simp only [catalogue, generator, Program.rename_bind, Program.rename_modify, built,
      kind_counterpart rearranged factory]
    rfl

/-- A request has the same outcome however table mappings are listed. -/
theorem run_instanceOf_rearranged (factory : blueprint.Factory) (container : BackendContainer) :
    (blueprint.redefined definitions).catalogue.run
        ((blueprint.redefined definitions).instanceOf (counterpart rearranged factory)) container =
      blueprint.catalogue.run (blueprint.instanceOf factory) container := by
  rw [← rename_instanceOf rearranged, (renames_catalogue rearranged).run]

include rearranged in
/-- A synthesis has the same outcome however table mappings are listed. -/
theorem synthesize_rearranged (backend : Backend) :
    backend.synthesize (blueprint.redefined definitions) = backend.synthesize blueprint := by
  have renamed : ∀ numbers, (blueprint.resolveAll numbers).rename (counterpart rearranged) =
      (blueprint.redefined definitions).resolveAll numbers := by
    intro numbers
    simp only [resolveAll, Program.rename_forM_list]
    congr 1
    funext number
    rw [factoryAt?_redefined rearranged]
    cases blueprint.factoryAt? number with
    | none => rfl
    | some factory =>
        simp only [Option.map_some, Program.rename_discard, rename_instanceOf rearranged]
  simp only [Backend.synthesize, Backend.run, ← renamed, (renames_catalogue rearranged).run]

end Blueprint

end CloudSynth
