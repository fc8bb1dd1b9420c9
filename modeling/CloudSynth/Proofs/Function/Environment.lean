import CloudSynth.Proofs.Backend.Grants
import CloudSynth.Proofs.Iam.Allowances
import CloudSynth.Proofs.Json.ReadBack

/-!
# The environment of a function

Plain values, secrets and the parameters that come with policies are written into one environment,
and one variable of it lists the paths of all parameters. What a function holds after any course of
updates is determined by what was given to it (`BuiltFunction.hasGiven_foldl_update`): the list
of parameters comes before placeholders, and these come before plain values. The induction is on the
updates, and what it carries is that the environment is the one expected of what has been given so
far (`BuiltFunction.Provided`).

A plain value that is set later than a parameter of the same name would replace the placeholder, so
updates of that kind are excluded (`FunctionUpdate.Admissible`).
-/

namespace CloudSynth

/-! ## Last values -/

/-- The last value in a list for a name. -/
def lastValue? (pairs : List (String × String)) (name : String) : Option String :=
  (pairs.reverse.find? (·.1 = name)).map (·.2)

theorem lastValue?_append (pairs more : List (String × String)) (name : String) :
    lastValue? (pairs ++ more) name = (lastValue? more name).or (lastValue? pairs name) := by
  simp only [lastValue?, List.reverse_append, List.find?_append, Option.map_or]

theorem lastValue?_singleton (pair : String × String) (name : String) :
    lastValue? [pair] name = if pair.1 = name then some pair.2 else none := by
  by_cases same : pair.1 = name <;> simp [lastValue?, same]

theorem lastValue?_map_const {β : Type} (key : β → String) (value : String) (items : List β)
    (name : String) :
    lastValue? (items.map fun item => (key item, value)) name =
      if name ∈ items.map key then some value else none := by
  induction items with
  | nil => rfl
  | cons item rest ih =>
      rw [List.map_cons, ← List.singleton_append, lastValue?_append, ih, lastValue?_singleton]
      simp only [List.map_cons, List.mem_cons]
      by_cases later : name ∈ rest.map key
      · rw [if_pos later, if_pos (Or.inr later)]
        rfl
      · by_cases here : key item = name
        · rw [if_neg later, if_pos here, if_pos (Or.inl here.symm)]
          rfl
        · rw [if_neg later, if_neg here, if_neg (not_or.mpr ⟨Ne.symm here, later⟩)]
          rfl

/-! ## Environments of functions -/

/-- The variable of a parameter, and where its value is. -/
def ParameterEntry.pair (entry : ParameterEntry) : String × String := (entry.name, entry.path)

theorem find?_addParameters (listing : SortedMap String) (entries : List ParameterEntry)
    (name : String) :
    (addParameters listing entries).find? name =
      (lastValue? (entries.map ParameterEntry.pair) name).or (listing.find? name) := by
  have pairs : addParameters listing entries = (entries.map ParameterEntry.pair).foldl
      (fun parameters pair => parameters.insert pair.1 pair.2) listing := by
    rw [List.foldl_map]
    rfl
  rw [pairs]
  exact SortedMap.find?_foldl_insert name _ listing

theorem Lambda.valueOf?_foldl_setVariable (pairs : List (String × String)) (function : Lambda)
    (name : String) :
    (pairs.foldl (fun function pair => function.setVariable pair.1 pair.2) function).valueOf? name =
      (lastValue? pairs name).or (function.valueOf? name) := by
  have environment : (pairs.foldl (fun function pair => function.setVariable pair.1 pair.2)
      function).environment =
        pairs.foldl (fun map pair => map.insert pair.1 pair.2) function.environment := by
    induction pairs generalizing function with
    | nil => rfl
    | cons pair rest ih => exact ih _
  rw [valueOf?, environment]
  exact SortedMap.find?_foldl_insert name pairs function.environment

theorem Lambda.valueOf?_withParameters (function : Lambda) (entries : List ParameterEntry)
    (listing : SortedMap String) (name : String) :
    (function.withParameters entries listing).valueOf? name =
      if name = parameterListVariable then some (writtenParameters listing)
      else if name ∈ entries.map (·.name) then some runTimePlaceholder
      else function.valueOf? name := by
  have placeholders := valueOf?_foldl_setVariable
    (entries.map fun entry => (entry.name, runTimePlaceholder)) function name
  rw [List.foldl_map, lastValue?_map_const] at placeholders
  refine (SortedMap.find?_insert _ _ _ _).trans ?_
  by_cases lists : name = parameterListVariable
  · rw [if_pos lists, if_pos lists.symm]
  · rw [if_neg lists, if_neg (Ne.symm lists)]
    refine placeholders.trans ?_
    split <;> rfl

/-- Policies are attached in order, each made policy once. -/
theorem Role.attached_foldl_attach (role : Role) (none : role.attached = [])
    (issued : List IssuedPolicy) :
    (issued.foldl Role.attach role).attached =
      issued.eraseDupsBy fun first second => first.serial = second.serial := by
  have loop : ∀ (issued : List IssuedPolicy) (role : Role),
      (issued.foldl Role.attach role).attached =
        List.eraseDupsBy.loop (fun first second => first.serial = second.serial) issued
          role.attached.reverse := by
    intro issued
    induction issued with
    | nil =>
        intro role
        rw [List.eraseDupsBy.loop, List.reverse_reverse]
        rfl
    | cons next rest ih =>
        intro role
        have taken : (role.attached.reverse.any fun other => next.serial = other.serial) =
            role.holds next := by
          simp only [holds, List.any_reverse, eq_comm]
        rw [List.foldl_cons, ih, List.eraseDupsBy.loop, taken, attach]
        cases role.holds next <;> simp
  rw [loop, none]
  rfl

/-! ## Updates -/

/-- What can happen to a function after it is built. -/
inductive FunctionUpdate
  | accept (issued : IssuedPolicy) (entries : List ParameterEntry)
  | setVariable (name value : String)

namespace FunctionUpdate

/-- The parameters that come with the update. -/
def entries : FunctionUpdate → List ParameterEntry
  | accept _ entries => entries
  | setVariable .. => []

/-- The variables that the update sets to plain values. -/
def plainValues : FunctionUpdate → List (String × String)
  | accept .. => []
  | setVariable name value => [(name, value)]

/-- The policies that the function is to have. -/
def policies : FunctionUpdate → List IssuedPolicy
  | accept issued _ => [issued]
  | setVariable .. => []

/-- No variable is set to a plain value that is filled from a parameter by then, or that lists the
parameters. -/
def Admissible (given : List ParameterEntry) : List FunctionUpdate → Prop
  | [] => True
  | accept _ entries :: rest => Admissible (given ++ entries) rest
  | setVariable name _ :: rest =>
    (name ≠ parameterListVariable ∧ name ∉ given.map (·.name)) ∧ Admissible given rest

instance Admissible.decidable (given : List ParameterEntry) :
    (updates : List FunctionUpdate) → Decidable (Admissible given updates)
  | [] => inferInstanceAs (Decidable True)
  | accept _ entries :: rest => Admissible.decidable (given ++ entries) rest
  | setVariable name _ :: rest =>
    have := Admissible.decidable given rest
    inferInstanceAs (Decidable
      ((name ≠ parameterListVariable ∧ name ∉ given.map (·.name)) ∧ Admissible given rest))

end FunctionUpdate

/-- What a variable holds once the parameters and the plain values have been given. -/
def expectedValue? (given : List ParameterEntry) (plain : List (String × String))
    (name : String) : Option String :=
  if given ≠ [] ∧ name = parameterListVariable then some (writtenParameters (addParameters {} given))
  else if name ∈ given.map (·.name) then some runTimePlaceholder
  else lastValue? plain name

theorem expectedValue?_of_nil (plain : List (String × String)) (name : String) :
    expectedValue? [] plain name = lastValue? plain name := by
  simp [expectedValue?]

namespace BuiltFunction

/-- The function after an update. -/
def update (built : BuiltFunction) : FunctionUpdate → BuiltFunction
  | .accept issued entries => built.accept issued entries
  | .setVariable name value => built.setVariable name value

/-- The function has been built from settings, and has what has been given to it so far. -/
structure Provided (built : BuiltFunction) (given : List ParameterEntry)
    (plain : List (String × String)) (accepted : List IssuedPolicy) : Prop where
  origin : ∃ resolved, built.origin = .defined resolved (addParameters {} given)
  environment : ∀ name, built.lambda.valueOf? name = expectedValue? given plain name
  role : ∃ role : Role, role.attached = [] ∧ built.lambda.role = accepted.foldl Role.attach role

namespace Provided

variable {built : BuiltFunction} {given : List ParameterEntry} {plain : List (String × String)}
  {accepted : List IssuedPolicy}

theorem attach (provided : built.Provided given plain accepted) (issued : IssuedPolicy) :
    Provided { built with lambda := built.lambda.attach issued } given plain
      (accepted ++ [issued]) := by
  rcases provided.role with ⟨role, none, attached⟩
  refine ⟨provided.origin, provided.environment, role, none, ?_⟩
  rw [List.foldl_append, ← attached]
  rfl

theorem setVariable (provided : built.Provided given plain accepted) {name : String}
    (other : name ≠ parameterListVariable) (fresh : name ∉ given.map (·.name)) (value : String) :
    (built.setVariable name value).Provided given (plain ++ [(name, value)]) accepted := by
  refine ⟨provided.origin, ?_, provided.role⟩
  intro asked
  have changed : (built.setVariable name value).lambda.valueOf? asked =
      if name = asked then some value else built.lambda.valueOf? asked :=
    SortedMap.find?_insert _ _ _ _
  rw [changed, provided.environment, expectedValue?, expectedValue?, lastValue?_append,
    lastValue?_singleton]
  by_cases same : name = asked
  · subst same
    simp [other, fresh]
  · simp only [if_neg same, Option.none_or]

theorem exposeParameters (provided : built.Provided given plain accepted)
    (entries : List ParameterEntry) :
    (built.exposeParameters entries).Provided (given ++ entries) plain accepted := by
  rcases provided.origin with ⟨resolved, origin⟩
  rcases entries with _ | ⟨entry, rest⟩
  · have same : built.exposeParameters [] = built := by
      unfold BuiltFunction.exposeParameters
      split
      · next nonempty => cases nonempty
      · rfl
    rw [same, List.append_nil]
    exact provided
  have listing : addParameters (addParameters {} given) (entry :: rest) =
      addParameters {} (given ++ entry :: rest) :=
    (List.foldl_append ..).symm
  have exposed : built.exposeParameters (entry :: rest) =
      { built with
        lambda := built.lambda.withParameters (entry :: rest)
          (addParameters {} (given ++ entry :: rest))
        origin := .defined resolved (addParameters {} (given ++ entry :: rest)) } := by
    simp only [BuiltFunction.exposeParameters, origin, ← listing]
  refine ⟨⟨resolved, by rw [exposed]⟩, ?_, ?_⟩
  · intro name
    rw [exposed, Lambda.valueOf?_withParameters, provided.environment]
    unfold expectedValue?
    by_cases lists : name = parameterListVariable
    · simp [lists]
    · simp only [lists, and_false, if_false, List.map_append, List.mem_append]
      by_cases late : name ∈ (entry :: rest).map (·.name)
      · rw [if_pos late, if_pos (Or.inr late)]
      · simp only [late, or_false, if_false]
  · rw [BuiltFunction.role_exposeParameters]
    exact provided.role

/-- An update adds what comes with it to what has been given. -/
theorem update (provided : built.Provided given plain accepted) {next : FunctionUpdate}
    (admissible : FunctionUpdate.Admissible given [next]) :
    (built.update next).Provided (given ++ next.entries) (plain ++ next.plainValues)
      (accepted ++ next.policies) := by
  cases next with
  | accept issued entries =>
      have attached := provided.attach issued
      have accepts : built.accept issued entries =
          { built with lambda := built.lambda.attach issued }.exposeParameters entries := by
        rcases provided.origin with ⟨resolved, origin⟩
        simp only [BuiltFunction.accept, origin]
      rw [BuiltFunction.update, accepts, FunctionUpdate.plainValues, List.append_nil]
      exact attached.exposeParameters entries
  | setVariable name value =>
      rw [FunctionUpdate.entries, FunctionUpdate.policies, List.append_nil, List.append_nil]
      exact provided.setVariable admissible.1.1 admissible.1.2 value

/-- A course of updates adds all that comes with them. -/
theorem foldl_update (provided : built.Provided given plain accepted)
    {updates : List FunctionUpdate} (admissible : FunctionUpdate.Admissible given updates) :
    (updates.foldl BuiltFunction.update built).Provided
      (given ++ updates.flatMap FunctionUpdate.entries)
      (plain ++ updates.flatMap FunctionUpdate.plainValues)
      (accepted ++ updates.flatMap FunctionUpdate.policies) := by
  induction updates generalizing built given plain accepted with
  | nil => simpa using provided
  | cons first rest ih =>
      have split : FunctionUpdate.Admissible given [first] ∧
          FunctionUpdate.Admissible (given ++ first.entries) rest := by
        cases first with
        | accept issued entries => exact ⟨trivial, admissible⟩
        | setVariable name value =>
            rw [FunctionUpdate.entries, List.append_nil]
            exact ⟨⟨admissible.1, trivial⟩, admissible.2⟩
      have done := ih (provided.update split.1) split.2
      simpa only [List.foldl_cons, List.flatMap_cons, List.append_assoc] using done

end Provided

/-- A function that is just built has what its settings declare. -/
theorem provided_ofResolved (stack : Stack) (identifier : BackendIdentifier)
    (resolved : ResolvedFunction) :
    (ofResolved stack identifier resolved).Provided (resolved.secretEntries identifier)
      resolved.plainVariables [] := by
  let empty : Lambda :=
    { stack.newLambda resolved.name resolved.roleName with
      tags := Tags.withFriendlyName {} resolved.name }
  let plain : BuiltFunction :=
    { lambda := resolved.plainVariables.foldl
        (fun function pair => function.setVariable pair.1 pair.2) empty
      stackName := stack.name, origin := .defined resolved {} }
  have started : plain.Provided [] resolved.plainVariables [] := by
    refine ⟨⟨resolved, rfl⟩, ?_, empty.role, rfl, ?_⟩
    · intro name
      rw [expectedValue?_of_nil]
      exact (Lambda.valueOf?_foldl_setVariable _ empty name).trans Option.or_none
    · rcases Lambda.exists_foldl_setVariable Prod.fst Prod.snd resolved.plainVariables empty with
        ⟨environment, same⟩
      have roles := congrArg Lambda.role same
      exact roles
  exact started.exposeParameters (resolved.secretEntries identifier)

/-! ## The list of parameters -/

/-- What is given to the function with its settings and then by the updates. -/
structure HasGiven (built : BuiltFunction) (given : List ParameterEntry)
    (plain : List (String × String)) (accepted : List IssuedPolicy) : Prop where
  /-- The list of parameters can be read, and has the last path of every name. -/
  listed : given ≠ [] → ∃ written listing,
    built.lambda.valueOf? parameterListVariable = some written ∧
    Json.read? written = some
      (.ofMap (SortedMap.mapValues (fun path => .record [("path", .text path)]) listing)) ∧
    ∀ name, listing.find? name = lastValue? (given.map ParameterEntry.pair) name
  placeholders : ∀ name ∈ given.map (·.name), name ≠ parameterListVariable →
    built.lambda.valueOf? name = some runTimePlaceholder
  /-- Other variables have the last plain value, if there is one, and do not exist otherwise. -/
  plain : ∀ name, name ∉ given.map (·.name) → (given = [] ∨ name ≠ parameterListVariable) →
    built.lambda.valueOf? name = lastValue? plain name
  /-- Each policy is attached once, at its first place. -/
  policies : built.lambda.role.attached =
    accepted.eraseDupsBy fun first second => first.serial = second.serial

/-- A list of parameters is read back. -/
theorem read?_writtenParameters (listing : SortedMap String) :
    Json.read? (writtenParameters listing) = some
      (.ofMap (listing.mapValues fun path => .record [("path", .text path)])) := by
  refine Json.read?_render ?_
  have fields : ∀ entries : List (String × String), Json.UnnumberedFields
      (entries.map fun entry => (entry.1, .record [("path", .text entry.2)])) := by
    intro entries
    induction entries with
    | nil => trivial
    | cons entry rest ih => exact ⟨⟨trivial, trivial⟩, ih⟩
  exact fields listing.entries

theorem Provided.hasGiven {built : BuiltFunction} {given : List ParameterEntry}
    {plain : List (String × String)} {accepted : List IssuedPolicy}
    (provided : built.Provided given plain accepted) : built.HasGiven given plain accepted := by
  constructor
  case listed =>
    intro nonempty
    refine ⟨_, addParameters {} given, ?_, read?_writtenParameters _, ?_⟩
    · rw [provided.environment, expectedValue?, if_pos ⟨nonempty, rfl⟩]
    · intro name
      exact (find?_addParameters {} given name).trans Option.or_none
  case placeholders =>
    intro name named other
    rw [provided.environment, expectedValue?, if_neg fun lists => other lists.2, if_pos named]
  case plain =>
    intro name unnamed other
    rw [provided.environment, expectedValue?, if_neg, if_neg unnamed]
    rintro ⟨nonempty, lists⟩
    rcases other with empty | other
    · exact nonempty empty
    · exact other lists
  case policies =>
    rcases provided.role with ⟨role, none, attached⟩
    rw [attached, Role.attached_foldl_attach role none]

end BuiltFunction

end CloudSynth
