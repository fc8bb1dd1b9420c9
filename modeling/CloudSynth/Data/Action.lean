import CloudSynth.Access.Grant

/-!
# Data actions

The operations on the data resource that others can be granted. Every one of them allows one type
of operations on the API, and reading the introspection schema of the models.
-/

namespace CloudSynth

/-- The object that holds the introspection schema of the models. -/
def introspectionSchemaKey : String := "modelIntrospectionSchema.json"

/-- Operations on the data resource. -/
inductive DataAction
  | query
  | mutate
  | listen
  deriving DecidableEq, Repr

namespace DataAction

/-- Every action in order. -/
def every : List DataAction := [query, mutate, listen]

/-- The name that users write. -/
def name : DataAction → String
  | query => "query"
  | mutate => "mutate"
  | listen => "listen"

/-- The type of operations on the API. -/
def operationType : DataAction → String
  | query => "Query"
  | mutate => "Mutation"
  | listen => "Subscription"

instance : ActionVocabulary DataAction where
  defaults := every
  name := name

/-- The action with the given name. -/
def ofName? (name : String) : Option DataAction := every.find? (·.name = name)

/-- What the action allows on an API and the bucket of its schema. -/
def statements (apiArn bucketArn : String) (action : DataAction) : List Statement :=
  [.allow ["appsync:GraphQL"] [apiArn ++ "/types/" ++ action.operationType ++ "/*"],
   .allow ["s3:GetObject"] [bucketArn ++ "/" ++ introspectionSchemaKey]]

end DataAction

end CloudSynth
