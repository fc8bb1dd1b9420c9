import CloudSynth.Json.Basic

/-!
# Policy statements

A statement allows a list of actions on a list of resources. Statements with the same actions are
merged into one that allows them on all of the resources.
-/

namespace CloudSynth

/-- The list with one more value at its end, unless it has the value already. -/
def appendNew (values : List String) (value : String) : List String :=
  if value ∈ values then values else values ++ [value]

/-- The list with more values at its end, each the first time it occurs. -/
def appendAllNew (values more : List String) : List String := more.foldl appendNew values

/-- Allows actions on resources. -/
structure Statement where
  actions : List String
  resources : List String
  deriving DecidableEq, Repr

namespace Statement

/-- The statement that allows the actions on the resources, each named once. -/
def allow (actions resources : List String) : Statement :=
  ⟨appendAllNew [] actions, appendAllNew [] resources⟩

/-- The statement with more resources. -/
def addResources (statement : Statement) (resources : List String) : Statement :=
  { statement with resources := appendAllNew statement.resources resources }

/-- Adds a statement to merged ones: to the one with the same actions, or at the end. -/
def mergeInto (statement : Statement) : List Statement → List Statement
  | [] => [statement]
  | first :: rest =>
    if first.actions = statement.actions then first.addResources statement.resources :: rest
    else first :: mergeInto statement rest

/-- Merges the statements that have the same actions, at the place of the first. -/
def merge (statements : List Statement) : List Statement :=
  statements.foldl (fun merged statement => mergeInto statement merged) []

/-- One value stands for itself, several as a list. -/
def scalarOrList : List String → Json
  | [single] => .text single
  | values => .texts values

/-- The statement as it stands in a policy document. -/
def toJson (statement : Statement) : Json :=
  .record [("Effect", .text "Allow"), ("Action", scalarOrList statement.actions),
    ("Resource", scalarOrList statement.resources)]

end Statement

end CloudSynth
