import Mathlib.Data.Prod.Basic
import CloudSynth.Proofs.Backend.GrantedVariables

/-!
# Names of environment variables

The settings of a function may declare variables whose names follow a grammar: a letter, and then
letters, digits and underscores. The names of the variables that come with grants are made from the
names of resources, which may also begin with other characters and contain hyphens. They are not
checked, so a function can come to have a variable that it could not have declared. This happens
exactly if a resource that grants access to the function has a name that does not suit
(`Blueprint.synthesize_environmentKeys`).
-/

namespace CloudSynth

/-! ## The grammar -/

/-- The name begins with a letter and has no hyphens. -/
structure ResourceName.SuitsVariables (name : String) : Prop where
  begins : ∃ first rest, name.toList = first :: rest ∧ first.isAlpha = true
  plain : '-' ∉ name.toList

/-- What an environment key consists of after its first character. -/
def isKeyCharacter (character : Char) : Bool := character.isAlphanum || character = '_'

theorem isEnvironmentKey_iff {key : String} {first : Char} {rest : List Char}
    (characters : key.toList = first :: rest) (nonempty : rest ≠ []) :
    isEnvironmentKey key = true ↔
      first.isAlpha = true ∧ ∀ character ∈ rest, isKeyCharacter character = true := by
  rcases rest with _ | ⟨second, rest⟩
  · exact absurd rfl nonempty
  · rw [isEnvironmentKey, characters, Bool.and_eq_true, List.all_eq_true]
    rfl

theorem isKeyCharacter_iff {character : Char} (allowed : ResourceName.isAllowed character = true) :
    isKeyCharacter character = true ↔ character ≠ '-' := by
  simp only [ResourceName.isAllowed, isKeyCharacter] at allowed ⊢
  constructor
  · rintro isKey rfl
    revert isKey
    decide
  · intro different
    simpa [different] using allowed

/-- A name with an ending that suits is an environment key exactly if the name suits. -/
theorem isEnvironmentKey_append_iff {name ending : String}
    (valid : ResourceName.isValid name = true) (nonempty : ending.toList ≠ [])
    (keyCharacters : ending.toList.all isKeyCharacter = true) :
    isEnvironmentKey (name ++ ending) = true ↔ ResourceName.SuitsVariables name := by
  rw [ResourceName.isValid, Bool.and_eq_true, List.all_eq_true] at valid
  rcases valid with ⟨notEmpty, allowed⟩
  rcases characters : name.toList with _ | ⟨first, rest⟩
  · simp [characters] at notEmpty
  rw [characters] at allowed
  have joined : (name ++ ending).toList = first :: (rest ++ ending.toList) := by
    rw [String.toList_append, characters, List.cons_append]
  rw [isEnvironmentKey_iff joined (List.append_ne_nil_of_right_ne_nil _ nonempty)]
  constructor
  · rintro ⟨letter, isKey⟩
    refine ⟨⟨first, rest, characters, letter⟩, ?_⟩
    rw [characters]
    intro there
    rcases List.mem_cons.mp there with rfl | later
    · revert letter
      decide
    · exact (isKeyCharacter_iff (allowed _ there)).mp (isKey _ (List.mem_append_left _ later)) rfl
  · rintro ⟨⟨_, _, same, letter⟩, plain⟩
    cases characters.symm.trans same
    rw [characters] at plain
    refine ⟨letter, ?_⟩
    intro character there
    rcases List.mem_append.mp there with ofName | ofEnding
    · refine (isKeyCharacter_iff (allowed _ (List.mem_cons_of_mem _ ofName))).mpr ?_
      rintro rfl
      exact plain (List.mem_cons_of_mem _ ofName)
    · exact List.all_eq_true.mp keyCharacters _ ofEnding

/-! ## Declared variables -/

namespace FunctionSettings

theorem isEnvironmentKey_of_resolvedEnvironment
    {environment accepted : OrderedMap String EnvironmentValue}
    (resolves : resolvedEnvironment environment = .ok accepted) :
    ∀ key ∈ accepted.keys, isEnvironmentKey key = true := by
  unfold resolvedEnvironment at resolves
  split at resolves
  · next noFaults =>
      cases resolves
      simpa using List.filter_eq_nil_iff.mp noFaults
  · cases resolves

/-- Settings that can be resolved declare environment keys. -/
theorem isEnvironmentKey_of_resolve {settings : FunctionSettings} {site : DefinitionSite}
    {resolved : ResolvedFunction} (resolves : settings.resolve site = .ok resolved) :
    ∀ key ∈ resolved.environment.keys, isEnvironmentKey key = true := by
  rcases bind_eq_ok.mp resolves with ⟨_, _, resolves⟩
  rcases bind_eq_ok.mp resolves with ⟨_, _, resolves⟩
  rcases bind_eq_ok.mp resolves with ⟨_, _, resolves⟩
  rcases bind_eq_ok.mp resolves with ⟨environment, accepted, resolves⟩
  rcases bind_eq_ok.mp resolves with ⟨_, _, resolves⟩
  rcases bind_eq_ok.mp resolves with ⟨_, _, resolves⟩
  rcases bind_eq_ok.mp resolves with ⟨_, _, resolves⟩
  cases resolves
  exact isEnvironmentKey_of_resolvedEnvironment accepted

end FunctionSettings

/-! ## Backends on which nothing has failed -/

/-- The backends that resources are added to, of which instances are requested, and which are
synthesised, where nothing has failed. -/
inductive Backend.Assembled (blueprint : Blueprint) : Backend → Prop
  | new (journal : Journal) : Assembled blueprint (.new blueprint.configuration journal)
  | add {backend : Backend} (assembled : Assembled blueprint backend) (name : String)
    (factory : blueprint.Factory) :
    Assembled blueprint (backend.add name factory (blueprint.definition factory))
  | getInstance {backend after : Backend} (assembled : Assembled blueprint backend)
    {factory : blueprint.Factory} {found : Instance}
    (done : backend.getInstance blueprint factory = (.ok found, after)) :
    Assembled blueprint after
  | synthesize {backend after : Backend} (assembled : Assembled blueprint backend)
    (done : backend.synthesize blueprint = (.ok (), after)) : Assembled blueprint after

theorem Backend.Assembled.operated {blueprint : Blueprint} {backend : Backend}
    (assembled : backend.Assembled blueprint) : backend.Operated blueprint := by
  induction assembled with
  | new journal => exact .new journal
  | add assembled name factory ih => exact ih.add name factory
  | @getInstance backend after assembled factory found done ih =>
      have last : (backend.getInstance blueprint factory).2 = after := by rw [done]
      exact last ▸ ih.getInstance factory
  | @synthesize backend after assembled done ih =>
      have last : (backend.synthesize blueprint).2 = after := by rw [done]
      exact last ▸ ih.synthesize

theorem Backend.container_of_run {blueprint : Blueprint} {α : Type} {backend after : Backend}
    {program : blueprint.Build α} {outcome : Except BackendError α}
    (done : backend.run blueprint program = (outcome, after)) :
    blueprint.catalogue.run program backend.container = (outcome, after.container) := by
  simp only [run, Prod.mk.injEq] at done
  exact Prod.ext done.1 (congrArg container done.2)

namespace Blueprint

variable {blueprint : Blueprint}

theorem Traced.run {α : Type} {program : blueprint.Build α} (asks : Asks program)
    {backend after : Backend} {result : α} {pending : blueprint.Factory → String → Prop}
    (traced : blueprint.Traced pending backend.assembly)
    (regular : blueprint.Regular backend.container)
    (done : backend.run blueprint program = (.ok result, after)) :
    blueprint.Traced pending after.assembly :=
  (asks.carried (carried_instanceOf _) _ _ _ rfl regular (Backend.container_of_run done)).2 _ traced

/-- Nothing is pending while nothing is being built. -/
theorem traced_of_assembled {backend : Backend} (assembled : backend.Assembled blueprint) :
    blueprint.Traced (fun _ _ => False) backend.assembly := by
  have regular : ∀ {backend : Backend}, backend.Assembled blueprint →
      blueprint.Regular backend.container := by
    intro backend assembled
    rcases recorded_of_operated assembled.operated with ⟨built, recorded⟩
    exact ⟨built, recorded.toBuilt⟩
  induction assembled with
  | new journal =>
      constructor
      case areDefined =>
        have furnished : blueprint.Furnished (Backend.holding blueprint journal []).assembly :=
          furnished_holding
        exact furnished.areDefined
      case checked => rintro granter (there | there) <;> cases there
      case variable_iff =>
        intro function _ key
        have none : ∀ granter, ¬ (Backend.new blueprint.configuration journal).assembly.HasBuilt
            granter := by
          rintro granter (there | there) <;> cases there
        simp only [none, false_and, exists_false, or_false]
        exact Iff.rfl
  | @add backend assembled name factory ih =>
      have carries : blueprint.Carries backend.assembly
          (backend.add name factory (blueprint.definition factory)).assembly := by
        rw [add_eq]
        exact carries_of_same (fun _ => rfl) rfl rfl
      exact carries _ ih
  | getInstance assembled done ih => exact ih.run (.instanceOf _) (regular assembled) done
  | synthesize assembled done ih => exact ih.run (asks_resolveAll _) (regular assembled) done

/-! ## Names of variables -/

theorem isEnvironmentKey_parameterListVariable :
    isEnvironmentKey parameterListVariable = true := by
  decide

/-- What functions have at first are environment keys. -/
theorem HasAtFirst.isEnvironmentKey {function : blueprint.Factory}
    (isFunction : blueprint.kindOf function = .function) {key : String}
    (hasAtFirst : blueprint.HasAtFirst function key) : isEnvironmentKey key = true := by
  rcases hasAtFirst with ⟨built, fresh, there⟩
  unfold freshFunction at fresh
  split at fresh
  · next settings site defined =>
      cases resolves : settings.resolve site with
      | error fault =>
          rw [resolves] at fresh
          cases fresh
      | ok resolved =>
          rw [resolves] at fresh
          cases fresh
          rcases BuiltFunction.mem_variableNames_ofResolved there with declared | rfl
          · exact FunctionSettings.isEnvironmentKey_of_resolve resolves key declared
          · exact isEnvironmentKey_parameterListVariable
  · next defined =>
      rw [kindOf, defined] at isFunction
      cases isFunction
  · cases fresh

/-- A name that has passed its checks is valid. -/
theorem isValid_of_checks (standard : blueprint.nameCheck = some .standard)
    {site : DefinitionSite} {expected message default : String} {name : Option String}
    (validDefault : ResourceName.isValid default = true) {before after : BackendContainer}
    (passed : blueprint.catalogue.run (do
      Program.act (blueprint.checkSite site expected message)
      Program.act (blueprint.checkName name)) before = (.ok (), after)) :
    ResourceName.isValid (name.getD default) = true := by
  simp only [Catalogue.run_bind_eq_ok blueprint.listed, Catalogue.run_act, Prod.mk.injEq] at passed
  rcases passed with ⟨_, between, _, accepted, _⟩
  cases name with
  | none => exact validDefault
  | some name =>
      simp only [checkName, standard, NameCheck.validate, ResourceName.validate] at accepted
      split at accepted
      · next valid => exact valid
      · cases accepted

/-- The names of auth and data resources that have passed their checks are valid. -/
theorem isValid_resourceName (standard : blueprint.nameCheck = some .standard)
    {factory : blueprint.Factory} (notHandler : ¬ blueprint.IsHandler factory)
    (passed : blueprint.verdict (blueprint.definition factory) = .ok ()) :
    ResourceName.isValid (blueprint.resourceName factory) = true := by
  rcases blueprint.run_checkDefinition (blueprint.definition factory)
    (.new (blueprint.initial .empty)) with ⟨journal, checked⟩
  rw [passed] at checked
  rcases kindOf_of_not_isHandler notHandler with isAuth | isData
  · rcases exists_auth isAuth with ⟨settings, site, defined⟩
    rw [defined] at checked
    rw [resourceName_of_auth defined]
    exact isValid_of_checks standard (by decide) checked
  · rcases exists_data isData with ⟨settings, site, defined⟩
    rw [defined] at checked
    rw [resourceName_of_data defined]
    exact isValid_of_checks standard (by decide) checked

/-- Auth and data resources publish something. -/
theorem exists_publishedNames {granter : blueprint.Factory}
    (notHandler : ¬ blueprint.IsHandler granter) :
    ∃ endings, endings ≠ [] ∧ endings ⊆ publishedEndings ∧
      blueprint.publishedNames granter = endings.map (blueprint.resourceName granter ++ ·) := by
  rcases kindOf_of_not_isHandler notHandler with isAuth | isData
  · rcases exists_auth isAuth with ⟨settings, site, defined⟩
    rw [publishedNames_of_auth defined, resourceName_of_auth defined]
    exact ⟨["_USERPOOL_ID"], by decide, by decide, rfl⟩
  · rcases exists_data isData with ⟨settings, site, defined⟩
    rw [publishedNames_of_data defined, resourceName_of_data defined]
    exact ⟨publishedEndings.tail, by decide, List.tail_sublist _ |>.subset, rfl⟩

/-- The names of what a resource publishes are environment keys if its own name suits. -/
theorem isEnvironmentKey_publishedNames_iff {granter : blueprint.Factory}
    (notHandler : ¬ blueprint.IsHandler granter)
    (valid : ResourceName.isValid (blueprint.resourceName granter) = true) :
    (∀ key ∈ blueprint.publishedNames granter, isEnvironmentKey key = true) ↔
      ResourceName.SuitsVariables (blueprint.resourceName granter) := by
  have suits : ∀ ending ∈ publishedEndings,
      (isEnvironmentKey (blueprint.resourceName granter ++ ending) = true ↔
        ResourceName.SuitsVariables (blueprint.resourceName granter)) := by
    have endings : ∀ ending ∈ publishedEndings,
        ending.toList ≠ [] ∧ ending.toList.all isKeyCharacter = true := by
      decide
    intro ending ending_mem
    rcases endings ending ending_mem with ⟨nonempty, keyCharacters⟩
    exact isEnvironmentKey_append_iff valid nonempty keyCharacters
  rcases exists_publishedNames notHandler with ⟨endings, nonempty, known, names⟩
  rw [names]
  constructor
  · intro areKeys
    rcases List.exists_mem_of_ne_nil _ nonempty with ⟨ending, ending_mem⟩
    exact (suits ending (known ending_mem)).mp (areKeys _ (List.mem_map_of_mem ending_mem))
  · intro itSuits key key_mem
    rcases List.mem_map.mp key_mem with ⟨ending, ending_mem, rfl⟩
    exact (suits ending (known ending_mem)).mpr itSuits

/-- What grants access is an auth or data resource. -/
theorem GrantsAccess.not_isHandler {granter function : blueprint.Factory}
    (grants : blueprint.GrantsAccess granter function) : ¬ blueprint.IsHandler granter := by
  intro handler
  rcases isHandler_cases handler with ⟨settings, site, defined⟩ | ⟨name, defined⟩
  all_goals
    rcases grants with ⟨grant, grant_mem, _⟩ | ⟨grant, grant_mem, _⟩
    · rw [authGrants, getElem?_definitions, defined] at grant_mem
      cases grant_mem
    · rw [dataGrants, getElem?_definitions, defined] at grant_mem
      cases grant_mem

/-- Where the names of resources are checked and everything is built, all variables of a function
have names that settings may declare if and only if the resources that grant access to the function
have names that begin with a letter and are without hyphens. -/
theorem synthesize_environmentKeys {before backend : Backend}
    (assembled : before.Assembled blueprint)
    (done : before.synthesize blueprint = (.ok (), backend))
    (standard : blueprint.nameCheck = some .standard) {function : blueprint.Factory}
    (isFunction : blueprint.kindOf function = .function) {built : BuiltFunction}
    (found : backend.assembly.functions.find? function = some built) :
    (∀ key ∈ built.variableNames, isEnvironmentKey key = true) ↔
      ∀ granter, backend.assembly.HasBuilt granter → blueprint.GrantsAccess granter function →
        ResourceName.SuitsVariables (blueprint.resourceName granter) := by
  have traced := traced_of_assembled (assembled.synthesize done)
  have there : blueprint.functionIn backend.assembly function = some built :=
    functionIn_of_find? found
  have variable_iff : ∀ key, key ∈ built.variableNames ↔
      blueprint.HasAtFirst function key ∨ ∃ granter, backend.assembly.HasBuilt granter ∧
        blueprint.Receives granter function key := by
    intro key
    have has := traced.variable_iff function isFunction key
    rw [HasVariable, there] at has
    simpa using has
  -- What the resource of a factory publishes decides about its grants.
  have publishes : ∀ granter, backend.assembly.HasBuilt granter →
      blueprint.GrantsAccess granter function →
      ((∀ key ∈ blueprint.publishedNames granter, isEnvironmentKey key = true) ↔
        ResourceName.SuitsVariables (blueprint.resourceName granter)) := by
    intro granter hasBuilt grants
    rcases traced.checked granter hasBuilt with ⟨factory, rfl, valid⟩
    have notHandler := grants.not_isHandler
    exact isEnvironmentKey_publishedNames_iff notHandler
      (isValid_resourceName standard notHandler valid)
  constructor
  · intro areKeys granter hasBuilt grants
    refine (publishes granter hasBuilt grants).mp fun key key_mem => ?_
    exact areKeys key ((variable_iff key).mpr
      (.inr ⟨granter, hasBuilt, grants, List.mem_cons_of_mem _ key_mem⟩))
  · intro suits key key_mem
    rcases (variable_iff key).mp key_mem with atFirst | ⟨granter, hasBuilt, grants, received⟩
    · exact atFirst.isEnvironmentKey isFunction
    · rcases List.mem_cons.mp received with rfl | published
      · exact isEnvironmentKey_parameterListVariable
      · exact (publishes granter hasBuilt grants).mpr (suits granter hasBuilt grants) key published

theorem assembled_holding (journal : Journal) (resources : List (String × blueprint.Factory)) :
    (Backend.holding blueprint journal resources).Assembled blueprint := by
  induction resources using List.reverseRecOn with
  | nil => exact .new journal
  | append_singleton resources resource ih =>
      rw [holding_concat]
      exact ih.add resource.1 resource.2

theorem shadowing_environmentKeys :
    (Backend.holding shadowing .empty shadowingResources).Assembled shadowing ∧
      ((Backend.holding shadowing .empty shadowingResources).synthesize shadowing).1 = .ok () ∧
      shadowing.nameCheck = some .standard ∧
      ∃ function : shadowing.Factory, shadowing.kindOf function = .function ∧
        ∃ built, ((Backend.holding shadowing .empty shadowingResources).synthesize
            shadowing).2.assembly.functions.find? function = some built ∧
          ((∀ key ∈ built.variableNames, isEnvironmentKey key = true) ↔
            ∀ granter, ((Backend.holding shadowing .empty shadowingResources).synthesize
                shadowing).2.assembly.HasBuilt granter →
              shadowing.GrantsAccess granter function →
              ResourceName.SuitsVariables (shadowing.resourceName granter)) := by
  have isBuilt : (((Backend.holding shadowing .empty shadowingResources).synthesize
      shadowing).2.assembly.functions.find? 0).isSome = true := by
    decide +kernel
  rcases Option.isSome_iff_exists.mp isBuilt with ⟨built, found⟩
  have assembled := assembled_holding .empty shadowingResources
  have done : (Backend.holding shadowing .empty shadowingResources).synthesize shadowing =
      (.ok (), ((Backend.holding shadowing .empty shadowingResources).synthesize shadowing).2) :=
    Prod.fst_eq_iff.mp shadowing_synthesizes
  have isFunction : shadowing.kindOf ⟨0, by decide⟩ = .function := rfl
  exact ⟨assembled, shadowing_synthesizes, rfl, ⟨0, by decide⟩, isFunction, built, found,
    synthesize_environmentKeys assembled done rfl isFunction found⟩

/-- A backend whose auth resource has a hyphen in its name and grants access to a function. -/
def hyphenated : Blueprint where
  configuration := .default
  siteCheck := none
  nameCheck := some .standard
  definitions :=
    [.function { FunctionSettings.default with name := some "reader" } ⟨"reader.rs", 1, 1⟩,
     .auth
      { name := some "my-auth"
        login := ⟨some .default, none, none⟩
        multifactor := none
        emailSender := none
        smsSender := none
        groups := []
        triggers := .empty
        access := some [⟨⟨"reader", []⟩, [.getUser]⟩] }
      ⟨"auth.rs", 1, 1⟩]
  names := OrderedMap.ofList [("reader", 0), ("auth", 1)]

/-- Its resources. -/
def hyphenatedResources : List (String × hyphenated.Factory) :=
  [("reader", ⟨0, by decide⟩), ("auth", ⟨1, by decide⟩)]

/-- The name passes its check, and the function gets a variable that it could not declare. -/
theorem hyphenated_environmentKeys :
    (Backend.holding hyphenated .empty hyphenatedResources).Assembled hyphenated ∧
      ((Backend.holding hyphenated .empty hyphenatedResources).synthesize hyphenated).1 = .ok () ∧
      hyphenated.nameCheck = some .standard ∧
      ∃ built, ((Backend.holding hyphenated .empty hyphenatedResources).synthesize
          hyphenated).2.assembly.functions.find? 0 = some built ∧
        "my-auth_USERPOOL_ID" ∈ built.variableNames ∧
        isEnvironmentKey "my-auth_USERPOOL_ID" = false := by
  have names : (((Backend.holding hyphenated .empty hyphenatedResources).synthesize
      hyphenated).2.assembly.functions.find? 0).map BuiltFunction.variableNames =
        some ["AMPLIFY_SSM_ENV_CONFIG", "my-auth_USERPOOL_ID"] := by
    decide +kernel
  rcases Option.map_eq_some_iff.mp names with ⟨built, found, same⟩
  refine ⟨assembled_holding .empty hyphenatedResources, by decide +kernel, rfl, built, found, ?_,
    by decide⟩
  rw [same]
  decide

end Blueprint

end CloudSynth
