import CloudSynth.Proofs.Collection.FirstOccurrences
import CloudSynth.Proofs.Iam.Allowances

/-!
# Merged statements

Merging keeps one statement for each list of actions, at the place where the list first occurs, and
gives it all resources of the statements with these actions (`Statement.merge_allowEach`). The
induction is on the statements from the last one: what is merged so far is one statement for each
key, and one more statement extends the resources of its key or stands at the end with a new key.

So merging neither grants nor withdraws anything, it leaves no two statements with the same actions,
and there is nothing left to merge (`Statement.merged_merge`).
-/

namespace CloudSynth.Statement

/-! ## One statement more -/

theorem mergeInto_of_not_mem {statement : Statement} {merged : List Statement}
    (new : statement.actions ∉ merged.map (·.actions)) :
    mergeInto statement merged = merged ++ [statement] := by
  induction merged with
  | nil => rfl
  | cons first rest ih =>
      rw [List.map_cons, List.mem_cons, not_or] at new
      rw [mergeInto, if_neg (Ne.symm new.1), ih new.2, List.cons_append]

/-- The resources of the statement's actions are extended and no others. -/
theorem mergeInto_of_mem {keys : List (List String)} (distinct : keys.Nodup)
    (resources : List String → List String) {statement : Statement}
    (there : statement.actions ∈ keys) :
    mergeInto statement (keys.map fun actions => ⟨actions, resources actions⟩) =
      keys.map fun actions => ⟨actions, if actions = statement.actions then
        appendAllNew (resources actions) statement.resources else resources actions⟩ := by
  induction keys with
  | nil => cases there
  | cons key rest ih =>
      rw [List.nodup_cons] at distinct
      rw [List.map_cons, mergeInto, List.map_cons]
      by_cases same : key = statement.actions
      · have others : ∀ actions ∈ rest, actions ≠ statement.actions := by
          rintro actions later rfl
          exact distinct.1 (same ▸ later)
        rw [if_pos same, if_pos same, addResources]
        refine congrArg (_ :: ·) (List.map_congr_left fun actions later => ?_)
        rw [if_neg (others actions later)]
      · rw [if_neg same, if_neg same]
        have later := (List.mem_cons.mp there).resolve_left (Ne.symm same)
        exact congrArg (_ :: ·) (ih distinct.2 later)

theorem merge_concat (statements : List Statement) (statement : Statement) :
    merge (statements ++ [statement]) = mergeInto statement (merge statements) := by
  rw [merge, List.foldl_append, List.foldl_cons, List.foldl_nil, merge]

/-- Statements with different actions are left as they are. -/
theorem merge_of_nodup {statements : List Statement}
    (distinct : (statements.map (·.actions)).Nodup) : merge statements = statements := by
  induction statements using List.reverseRecOn with
  | nil => rfl
  | append_singleton statements statement ih =>
      rw [List.map_append, List.map_singleton, ← List.concat_eq_append, List.nodup_concat]
        at distinct
      rw [merge_concat, ih distinct.2, mergeInto_of_not_mem distinct.1]

/-! ## All statements -/

/-- Statements that are made to allow actions on resources, as they are given. -/
def allowEach (given : List (List String × List String)) : List Statement :=
  given.map fun wish => allow wish.1 wish.2

/-- All resources that are given to a list of actions, in order. -/
def resourcesGiven (given : List (List String × List String)) (actions : List String) :
    List String :=
  (given.filter (·.1.eraseDups = actions)).flatMap (·.2)

theorem allow_eq (actions resources : List String) :
    allow actions resources = ⟨actions.eraseDups, resources.eraseDups⟩ := by
  have once : ∀ values : List String, appendAllNew [] values = values.eraseDups :=
    appendAllNew_eraseDups []
  rw [allow, once, once]

theorem actions_allowEach (given : List (List String × List String)) :
    (allowEach given).map (·.actions) = given.map (·.1.eraseDups) := by
  rw [allowEach, List.map_map]
  exact List.map_congr_left fun wish _ => congrArg actions (allow_eq wish.1 wish.2)

theorem resourcesGiven_concat (given : List (List String × List String))
    (wish : List String × List String) (actions : List String) :
    resourcesGiven (given ++ [wish]) actions =
      resourcesGiven given actions ++ if wish.1.eraseDups = actions then wish.2 else [] := by
  by_cases same : wish.1.eraseDups = actions <;>
    simp [resourcesGiven, List.filter_append, same]

theorem resourcesGiven_of_not_mem {given : List (List String × List String)}
    {actions : List String} (absent : actions ∉ given.map (·.1.eraseDups)) :
    resourcesGiven given actions = [] := by
  have none : given.filter (·.1.eraseDups = actions) = [] := by
    rw [List.filter_eq_nil_iff]
    intro wish wish_mem same
    exact absent (List.mem_map.mpr ⟨wish, wish_mem, of_decide_eq_true same⟩)
  rw [resourcesGiven, none, List.flatMap_nil]

/-- There is one statement for each list of actions, in the order in which these first occur, and it
has all resources given to them, in the order in which those first occur. -/
theorem merge_allowEach (given : List (List String × List String)) :
    merge (allowEach given) = (given.map (·.1.eraseDups)).eraseDups.map fun actions =>
      ⟨actions, (resourcesGiven given actions).eraseDups⟩ := by
  induction given using List.reverseRecOn with
  | nil => rfl
  | append_singleton given wish ih =>
      have statements : allowEach (given ++ [wish]) =
          allowEach given ++ [⟨wish.1.eraseDups, wish.2.eraseDups⟩] := by
        rw [allowEach, List.map_append, List.map_singleton, allow_eq, allowEach]
      rw [statements, merge_concat, ih, List.map_append, List.map_singleton, eraseDups_concat]
      split
      · next known =>
        rw [mergeInto_of_mem (nodup_eraseDups _) _ (List.mem_eraseDups.mpr known)]
        refine List.map_congr_left fun actions _ => ?_
        rw [resourcesGiven_concat]
        by_cases same : actions = wish.1.eraseDups
        · rw [if_pos same, if_pos same.symm, appendAllNew_eraseDups, eraseDups_append_eraseDups]
        · rw [if_neg same, if_neg (Ne.symm same), List.append_nil]
      · next new =>
        have others : ∀ actions ∈ (given.map (·.1.eraseDups)).eraseDups,
            actions ≠ wish.1.eraseDups := by
          rintro actions there rfl
          exact new (List.mem_eraseDups.mp there)
        have keys : (((given.map (·.1.eraseDups)).eraseDups.map fun actions =>
            (⟨actions, (resourcesGiven given actions).eraseDups⟩ : Statement)).map (·.actions)) =
              (given.map (·.1.eraseDups)).eraseDups := by
          rw [List.map_map]
          exact List.map_id _
        rw [mergeInto_of_not_mem (by rw [keys]; exact fun there => others _ there rfl),
          List.map_append, List.map_singleton, resourcesGiven_concat, if_pos rfl,
          resourcesGiven_of_not_mem new, List.nil_append]
        refine congrArg (· ++ _) (List.map_congr_left fun actions there => ?_)
        rw [resourcesGiven_concat, if_neg (Ne.symm (others actions there)), List.append_nil]

/-- What merging makes of statements that allow actions on resources, as they are given. -/
structure Merged (given : List (List String × List String)) (merged : List Statement) : Prop where
  /-- The same is allowed as before. -/
  allows : ∀ action resource,
    SomeAllows merged action resource ↔ SomeAllows (allowEach given) action resource
  wished : ∀ action resource, SomeAllows merged action resource ↔
    ∃ wish ∈ given, action ∈ wish.1 ∧ resource ∈ wish.2
  /-- The lists of actions stand in the order in which they first occur. -/
  actions : merged.map (·.actions) = ((allowEach given).map (·.actions)).eraseDups
  distinct : (merged.map (·.actions)).Nodup
  /-- A statement has all resources given to its actions, in the order in which they first occur. -/
  resources : ∀ statement ∈ merged,
    statement.resources = (resourcesGiven given statement.actions).eraseDups
  unrepeated : ∀ statement ∈ merged, statement.resources.Nodup
  /-- There is nothing left to merge. -/
  settled : merge merged = merged

theorem merged_merge (given : List (List String × List String)) :
    Merged given (merge (allowEach given)) := by
  have actions : (merge (allowEach given)).map (·.actions) =
      ((allowEach given).map (·.actions)).eraseDups := by
    rw [merge_allowEach, actions_allowEach, List.map_map]
    exact List.map_id _
  have distinct : ((merge (allowEach given)).map (·.actions)).Nodup :=
    actions ▸ nodup_eraseDups _
  have resources : ∀ statement ∈ merge (allowEach given),
      statement.resources = (resourcesGiven given statement.actions).eraseDups := by
    intro statement statement_mem
    rw [merge_allowEach] at statement_mem
    rcases List.mem_map.mp statement_mem with ⟨key, _, rfl⟩
    rfl
  refine {
    actions, distinct, resources
    allows := fun action resource => merge_allows (allowEach given)
    wished := ?wished
    unrepeated := fun statement statement_mem => ?unrepeated
    settled := merge_of_nodup distinct }
  case wished =>
    intro action resource
    rw [merge_allows]
    simp [SomeAllows, allowEach]
  case unrepeated =>
    rw [resources statement statement_mem]
    exact nodup_eraseDups _

/-- Statements for the same actions are merged, though they do not follow each other. -/
example : merge (allowEach
    [(["appsync:GraphQL"], ["Query", "Query"]), (["s3:GetObject"], ["schema"]),
      (["appsync:GraphQL", "appsync:GraphQL"], ["Mutation", "Query"])]) =
    [⟨["appsync:GraphQL"], ["Query", "Mutation"]⟩, ⟨["s3:GetObject"], ["schema"]⟩] := by
  decide

end CloudSynth.Statement
