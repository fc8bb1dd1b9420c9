import CloudSynth.Access.Arbitration
import CloudSynth.Auth.Action
import CloudSynth.Data.Construct

/-!
# What policies allow

A policy document is read back the way its readers do: a statement that allows something names its
actions and resources, one of them by itself and several as a list. What is read back are the pairs
of an action and a resource that the statements of the policy allow (`Policy.mem_allowances`).
Merging statements changes how the pairs are grouped and never which pairs there are
(`Statement.merge_allows`), so the policy for a grant allows what its actions allow, no less and no
more.
-/

namespace CloudSynth

/-! ## Reading objects -/

namespace SortedMap

variable {ν : Type}

/-- Names are distinct, so it does not matter from which end a map is searched. -/
theorem find?_reverse (name : String) {entries : List (String × ν)}
    (ascending : entries.Pairwise (fun first second => first.1 < second.1)) :
    entries.reverse.find? (·.1 = name) = entries.find? (·.1 = name) := by
  induction entries with
  | nil => rfl
  | cons first rest ih =>
      rw [List.pairwise_cons] at ascending
      rw [List.reverse_cons, List.find?_append, ih ascending.2]
      by_cases here : first.1 = name
      · have absent : rest.find? (·.1 = name) = none := by
          rw [List.find?_eq_none]
          intro entry entry_mem
          have later := ascending.1 entry entry_mem
          intro same
          rw [here, ← of_decide_eq_true same] at later
          exact String.lt_irrefl _ later
        simp [absent, here]
      · simp [here]

theorem find?_foldl_insert (name : String) (pairs : List (String × ν)) (map : SortedMap ν) :
    (pairs.foldl (fun map pair => map.insert pair.1 pair.2) map).find? name =
      ((pairs.reverse.find? (·.1 = name)).map (·.2)).or (map.find? name) := by
  induction pairs generalizing map with
  | nil => simp
  | cons first rest ih =>
      rw [List.foldl_cons, ih, find?_insert, List.reverse_cons, List.find?_append]
      by_cases here : first.1 = name
      · cases rest.reverse.find? (·.1 = name) <;> simp [here]
      · cases rest.reverse.find? (·.1 = name) <;> simp [here]

end SortedMap

namespace Json

/-- The fields of an object are read as they were given; of two with one name the later counts. -/
theorem field?_record (name : String) (fields : List (String × Json)) :
    (record fields).field? name = (fields.reverse.find? (·.1 = name)).map (·.2) := by
  have searched := SortedMap.find?_foldl_insert name fields SortedMap.empty
  rw [SortedMap.find?_empty, Option.or_none] at searched
  rw [← searched]
  simp only [record, ofMap, field?, SortedMap.find?]
  rw [SortedMap.find?_reverse name (SortedMap.ofList fields).ascending]
  rfl

/-- The texts of a value in a policy document: a single text stands for a list of one. -/
def scalarTexts : Json → List String
  | .text single => [single]
  | .list items => items.filterMap asText?
  | _ => []

/-- The texts in a field. -/
def textsIn (value : Json) (field : String) : List String :=
  ((value.field? field).map scalarTexts).getD []

/-- The pairs of an action and a resource that a written statement allows. -/
def allowancesOfStatement (statement : Json) : List (String × String) :=
  if (statement.field? "Effect").bind asText? = some "Allow" then
    (statement.textsIn "Action").flatMap fun action =>
      (statement.textsIn "Resource").map fun resource => (action, resource)
  else []

/-- The pairs of an action and a resource that a policy document allows. -/
def allowances (document : Json) : List (String × String) :=
  (((document.field? "Statement").bind asList?).getD []).flatMap allowancesOfStatement

theorem scalarTexts_scalarOrList (values : List String) :
    scalarTexts (Statement.scalarOrList values) = values := by
  have listed : ∀ values : List String, scalarTexts (texts values) = values := by
    intro values
    simp only [texts, scalarTexts, List.filterMap_map]
    exact List.filterMap_some
  rcases values with _ | ⟨single, _ | ⟨second, rest⟩⟩
  · rfl
  · rfl
  · exact listed (single :: second :: rest)

end Json

/-! ## Statements -/

theorem mem_appendNew {values : List String} {value other : String} :
    other ∈ appendNew values value ↔ other ∈ values ∨ other = value := by
  unfold appendNew
  split
  · next present =>
      constructor
      · exact Or.inl
      · rintro (there | rfl)
        · exact there
        · exact present
  · simp

theorem mem_appendAllNew {values more : List String} {value : String} :
    value ∈ appendAllNew values more ↔ value ∈ values ∨ value ∈ more := by
  unfold appendAllNew
  induction more generalizing values with
  | nil => simp
  | cons first rest ih => rw [List.foldl_cons, ih, mem_appendNew, List.mem_cons, or_assoc]

namespace Statement

/-- The statement allows the action on the resource. -/
def Allows (statement : Statement) (action resource : String) : Prop :=
  action ∈ statement.actions ∧ resource ∈ statement.resources

/-- One of the statements allows the action on the resource. -/
def SomeAllows (statements : List Statement) (action resource : String) : Prop :=
  ∃ statement ∈ statements, statement.Allows action resource

variable {action resource : String}

@[simp]
theorem allow_allows (actions resources : List String) :
    (allow actions resources).Allows action resource ↔ action ∈ actions ∧ resource ∈ resources := by
  simp [Allows, allow, mem_appendAllNew]

theorem someAllows_cons (statement : Statement) (statements : List Statement) :
    SomeAllows (statement :: statements) action resource ↔
      statement.Allows action resource ∨ SomeAllows statements action resource := by
  simp [SomeAllows]

theorem mergeInto_allows (statement : Statement) (merged : List Statement) :
    SomeAllows (mergeInto statement merged) action resource ↔
      SomeAllows merged action resource ∨ statement.Allows action resource := by
  induction merged with
  | nil => simp [mergeInto, SomeAllows]
  | cons first rest ih =>
      rw [mergeInto]
      split
      · next same =>
          have joined : (first.addResources statement.resources).Allows action resource ↔
              first.Allows action resource ∨ statement.Allows action resource := by
            simp only [Allows, addResources, mem_appendAllNew, same]
            exact and_or_left
          rw [someAllows_cons, someAllows_cons, joined, or_right_comm]
      · rw [someAllows_cons, someAllows_cons, ih, or_assoc]

theorem foldl_mergeInto_allows (statements merged : List Statement) :
    SomeAllows (statements.foldl (fun merged statement => mergeInto statement merged) merged)
        action resource ↔
      SomeAllows merged action resource ∨ SomeAllows statements action resource := by
  induction statements generalizing merged with
  | nil => simp [SomeAllows]
  | cons first rest ih =>
      rw [List.foldl_cons, ih, mergeInto_allows, someAllows_cons, or_assoc]

theorem merge_allows (statements : List Statement) :
    SomeAllows (merge statements) action resource ↔ SomeAllows statements action resource := by
  rw [merge, foldl_mergeInto_allows]
  simp [SomeAllows]

theorem mem_allowancesOfStatement (statement : Statement) :
    (action, resource) ∈ statement.toJson.allowancesOfStatement ↔
      statement.Allows action resource := by
  have effect : (statement.toJson.field? "Effect").bind Json.asText? = some "Allow" := by
    rw [toJson, Json.field?_record]
    rfl
  have actions : statement.toJson.textsIn "Action" = statement.actions := by
    rw [Json.textsIn, toJson, Json.field?_record]
    exact Json.scalarTexts_scalarOrList statement.actions
  have resources : statement.toJson.textsIn "Resource" = statement.resources := by
    rw [Json.textsIn, toJson, Json.field?_record]
    exact Json.scalarTexts_scalarOrList statement.resources
  simp [Json.allowancesOfStatement, effect, actions, resources, Allows]

end Statement

/-! ## Policies -/

/-- What is read back from the document of a policy is what its statements allow. -/
theorem Policy.mem_allowances (policy : Policy) {action resource : String} :
    (action, resource) ∈ policy.document.allowances ↔
      Statement.SomeAllows policy.statements action resource := by
  have statements : (policy.document.field? "Statement").bind Json.asList? =
      some (policy.statements.map Statement.toJson) := by
    rw [document, Json.field?_record]
    rfl
  simp only [Json.allowances, statements, Option.getD_some, List.flatMap_map, List.mem_flatMap,
    Statement.mem_allowancesOfStatement]
  rfl

section

variable {m : Type → Type} {ρ α : Type} (arbiter : Arbiter m ρ α) {action resource : String}

theorem Arbiter.mem_allowances_policyFor (index : Nat) (acceptor : String) (actions : List α) :
    (action, resource) ∈ (arbiter.policyFor index acceptor actions).document.allowances ↔
      ∃ granted ∈ actions,
        Statement.SomeAllows (arbiter.statementsFor granted) action resource := by
  rw [Policy.mem_allowances, policyFor, Statement.merge_allows]
  constructor
  · rintro ⟨statement, statement_mem, allows⟩
    rcases List.mem_flatMap.mp statement_mem with ⟨granted, granted_mem, of_granted⟩
    exact ⟨granted, granted_mem, statement, of_granted, allows⟩
  · rintro ⟨granted, granted_mem, statement, of_granted, allows⟩
    exact ⟨statement, List.mem_flatMap.mpr ⟨granted, granted_mem, of_granted⟩, allows⟩

end

theorem AuthAction.someAllows_statements (userPoolArn : String) (granted : AuthAction)
    {action resource : String} :
    Statement.SomeAllows (statements userPoolArn granted) action resource ↔
      action ∈ granted.iamActions ∧ resource = userPoolArn := by
  simp [statements, Statement.SomeAllows]

theorem DataAction.someAllows_statements (apiArn bucketArn : String) (granted : DataAction)
    {action resource : String} :
    Statement.SomeAllows (statements apiArn bucketArn granted) action resource ↔
      (action = "appsync:GraphQL" ∧
        resource = apiArn ++ "/types/" ++ granted.operationType ++ "/*") ∨
      (action = "s3:GetObject" ∧ resource = bucketArn ++ "/" ++ introspectionSchemaKey) := by
  simp [statements, Statement.SomeAllows]

theorem DataScope.mem_allowances_callerPolicy (role : Role) (id apiArn : String)
    {action resource : String} :
    (action, resource) ∈ (callerPolicy role id apiArn).document.allowances ↔
      action = "appsync:GraphQL" ∧ resource = apiArn ++ "/*" := by
  rw [Policy.mem_allowances]
  simp [callerPolicy, Statement.SomeAllows]

end CloudSynth
