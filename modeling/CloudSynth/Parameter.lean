import CloudSynth.Identifier

/-!
# Published parameters

Values that a running function needs, such as the identifier of a user pool, are published as
parameters of the backend. A function is given the path of the parameter, not its value.
-/

namespace CloudSynth

/-- A variable name and the path of the parameter that holds its value. -/
structure ParameterEntry where
  name : String
  path : String
  deriving DecidableEq, Repr

/-- The parameters published so far, by path. -/
structure ParameterStore where
  identifier : BackendIdentifier
  values : SortedMap String

namespace ParameterStore

/-- The store of a backend that has published nothing. -/
def new (identifier : BackendIdentifier) : ParameterStore := ⟨identifier, {}⟩

/-- The entry under which a value of the given name is published. -/
def entryFor (store : ParameterStore) (name : String) : ParameterEntry :=
  ⟨name, "/amplify/resource_reference/" ++ store.identifier.parameterPath ++ "/" ++ name⟩

/-- Publishes named values; the entries are in the order of the values. -/
def publish (store : ParameterStore) (named : List (String × String)) :
    List ParameterEntry × ParameterStore :=
  let values := named.foldl
    (fun values pair => values.insert (store.entryFor pair.1).path pair.2) store.values
  (named.map fun pair => store.entryFor pair.1, { store with values })

/-- The value published under a path. -/
def value? (store : ParameterStore) (path : String) : Option String := store.values.find? path

end ParameterStore

end CloudSynth
