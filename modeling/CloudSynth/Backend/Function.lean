import CloudSynth.Backend.Assembly
import CloudSynth.Identifier

/-!
# Building functions

A function registers its role, itself, its schedules and its log retention in the function stack.
Plain variables go into its environment; variables that hold secrets, and parameters that come with
grants, are filled at run time from the paths that one variable lists.
-/

namespace CloudSynth

/-- The variable that lists the variables filled from parameters. -/
def parameterListVariable : String := "AMPLIFY_SSM_ENV_CONFIG"

/-- The value of a variable that is filled at run time. -/
def runTimePlaceholder : String := "<value will be resolved during runtime>"

/-- The output field that lists every function. -/
def definedFunctionsField : String := "definedFunctions"

/-- The type of function resources. -/
def functionResourceType : String := "AWS::Lambda::Function"

namespace ResolvedFunction

/-- The name of the function's role. -/
def roleName (resolved : ResolvedFunction) : String := resolved.name ++ "lambdaServiceRole"

/-- The resources that the function registers, in order. -/
def registrations (resolved : ResolvedFunction) : List StackResource :=
  [⟨resolved.roleName, "AWS::IAM::Role"⟩, ⟨resolved.name ++ "lambda", functionResourceType⟩] ++
  (List.range resolved.schedules.length).map (fun index =>
    ⟨resolved.name ++ "schedule" ++ toString index, "AWS::Events::Rule"⟩) ++
  (if resolved.logging.retention.isSome then
    [⟨resolved.name ++ "LogRetention", "Custom::LogRetention"⟩] else [])

/-- The variables that hold plain values. -/
def plainVariables (resolved : ResolvedFunction) : List (String × String) :=
  resolved.environment.entries.filterMap fun entry =>
    match entry.2 with
    | .plain value => some (entry.1, value)
    | .secret _ => none

/-- The variables that hold secrets, with the paths of the secrets. -/
def secretEntries (resolved : ResolvedFunction) (identifier : BackendIdentifier) :
    List ParameterEntry :=
  resolved.environment.entries.filterMap fun entry =>
    match entry.2 with
    | .plain _ => none
    | .secret secret => some ⟨entry.1, (identifier.secretToken secret).parameterPath⟩

end ResolvedFunction

/-- The written list of variables with the paths they are filled from. -/
def writtenParameters (parameters : SortedMap String) : String :=
  Json.render (.ofMap (parameters.mapValues fun path => .record [("path", .text path)]))

/-- The function whose listed variables are filled at run time. -/
def Lambda.withParameters (function : Lambda) (entries : List ParameterEntry)
    (parameters : SortedMap String) : Lambda :=
  (entries.foldl (fun function entry => function.setVariable entry.name runTimePlaceholder)
    function).setVariable parameterListVariable (writtenParameters parameters)

/-- The paths with those of more entries. -/
def addParameters (parameters : SortedMap String) (entries : List ParameterEntry) :
    SortedMap String :=
  entries.foldl (fun parameters entry => parameters.insert entry.name entry.path) parameters

/-- A function of a name, running under a role of a name. -/
def Stack.newLambda (stack : Stack) (name roleName : String) : Lambda :=
  .new name (stack.arn "lambda" ("function:" ++ name))
    (.new roleName (stack.arn "iam" ("role/" ++ roleName)))

namespace BuiltFunction

/-- Who accepts policies for the function. -/
def acceptorId (built : BuiltFunction) : String :=
  built.lambda.name ++ "LambdaResourceAccessAcceptor"

/-- The function with more variables that are filled at run time. -/
def exposeParameters (built : BuiltFunction) (entries : List ParameterEntry) : BuiltFunction :=
  match built.origin, entries with
  | .defined resolved parameters, _ :: _ =>
    let parameters := addParameters parameters entries
    { built with
      lambda := built.lambda.withParameters entries parameters
      origin := .defined resolved parameters }
  | _, _ => built

/-- The function after it has accepted a policy and the parameters that come along. -/
def accept (built : BuiltFunction) (issued : IssuedPolicy) (entries : List ParameterEntry) :
    BuiltFunction :=
  let built := { built with lambda := built.lambda.attach issued }
  match built.origin with
  | .defined .. => built.exposeParameters entries
  | .stub accepted =>
    { built with origin := .stub (accepted ++ [⟨issued.policy, entries⟩]) }

/-- The function with an environment variable set. -/
def setVariable (built : BuiltFunction) (name value : String) : BuiltFunction :=
  { built with lambda := built.lambda.setVariable name value }

/-- A function just built from its settings. -/
def ofResolved (stack : Stack) (identifier : BackendIdentifier) (resolved : ResolvedFunction) :
    BuiltFunction :=
  let lambda := stack.newLambda resolved.name resolved.roleName
  let lambda := { lambda with tags := Tags.withFriendlyName lambda.tags resolved.name }
  let lambda := resolved.plainVariables.foldl
    (fun function pair => function.setVariable pair.1 pair.2) lambda
  let built : BuiltFunction :=
    { lambda, stackName := stack.name, origin := .defined resolved {} }
  built.exposeParameters (resolved.secretEntries identifier)

/-- A stub function; it registers no resources. -/
def ofStub (stack : Stack) (name : String) : BuiltFunction where
  lambda := stack.newLambda name (name ++ "LambdaRole")
  stackName := stack.name
  origin := .stub []

end BuiltFunction

namespace Assembly

/-- Builds a function from its settings. -/
def buildFunction (factory : Nat) (resolved : ResolvedFunction) (assembly : Assembly) :
    Except BackendError Instance × Assembly :=
  let group := ResourceKind.function.group
  let stack := assembly.stackSet.stackFor group
  match stack.addAll resolved.registrations with
  | (.error failure, stack) =>
    (.error (.ofConstruct .function failure),
      { assembly with stackSet := assembly.stackSet.put group stack })
  | (.ok (), stack) =>
    (.ok ⟨.function, factory⟩,
      { assembly with
        stackSet := assembly.stackSet.put group stack
        functions := assembly.functions.insert factory
          (.ofResolved stack assembly.parameters.identifier resolved)
        outputs := assembly.outputs.append functionOutputKey
          (.ofFields "1" [(definedFunctionsField, resolved.name)]) })

/-- Builds a stub function. -/
def buildStub (factory : Nat) (name : String) (assembly : Assembly) :
    Except BackendError Instance × Assembly :=
  let stack := assembly.stackSet.stackFor ResourceKind.stub.group
  (.ok ⟨.stub, factory⟩,
    { assembly with
      functions := assembly.functions.insert factory (.ofStub stack name)
      journal := assembly.journal.noteGeneration factory })

end Assembly

end CloudSynth
