import CloudSynth.Auth.Construct
import CloudSynth.Backend.Check
import CloudSynth.Data.Construct
import CloudSynth.Function.Resolution
import CloudSynth.Lambda
import CloudSynth.Parameter

/-!
# What a backend has built

The assembly is the state that generators of a backend work on: its stacks, parameters and outputs,
and the functions, auth and data resources that are built, by the number of the factory that built
them. Functions are referred to by that number, so that two resources that use the same function
see each other's changes to it.
-/

namespace CloudSynth

/-- Kinds of resources that a factory builds. -/
inductive ResourceKind
  | function
  | stub
  | auth
  | data
  deriving DecidableEq, Repr

namespace ResourceKind

/-- The group of stacks that resources of the kind are built in. -/
def group : ResourceKind → String
  | function => "function"
  | stub => "function"
  | auth => "auth"
  | data => "data"

end ResourceKind

/-- The entry of a built resource: its kind and the factory that built it. -/
structure Instance where
  kind : ResourceKind
  factory : Nat
  deriving DecidableEq, Repr

/-- A policy that was handed over, with the parameters that came along. -/
structure AcceptedAccess where
  policy : Policy
  entries : List ParameterEntry
  deriving DecidableEq, Repr

/-- Where a built function comes from. -/
inductive FunctionOrigin
  /-- From a user's settings; parameters are paths by the variable that reads them. -/
  | defined (resolved : ResolvedFunction) (parameters : SortedMap String)
  /-- From a stub, which notes what it accepts. -/
  | stub (accepted : List AcceptedAccess)

/-- A built function. -/
structure BuiltFunction where
  lambda : Lambda
  stackName : String
  origin : FunctionOrigin

/-- A built auth resource; its handlers are functions by the number of their factory. -/
structure BuiltAuth where
  construct : AuthConstruct Nat
  stackName : String

/-- A built data resource; its sources are functions by the number of their factory. -/
structure BuiltData where
  construct : DataConstruct Nat
  stackName : String

/-- What a backend has built so far. -/
structure Assembly where
  stackSet : StackSet
  parameters : ParameterStore
  outputs : OutputStorage
  /-- The factories that provide a capability, by its token. -/
  providers : OrderedMap String Nat
  functions : OrderedMap Nat BuiltFunction
  auths : OrderedMap Nat BuiltAuth
  datas : OrderedMap Nat BuiltData
  nextPolicy : Nat
  journal : Journal

namespace Assembly

/-- The assembly of a backend that has built nothing. -/
def new (identifier : BackendIdentifier) (region account : String) (journal : Journal) :
    Assembly where
  stackSet := .new identifier.stackName region account
  parameters := .new identifier
  outputs := .empty
  providers := {}
  functions := {}
  auths := {}
  datas := {}
  nextPolicy := 0
  journal := journal

/-- Gives a policy its number. -/
def issue (assembly : Assembly) (policy : Policy) : IssuedPolicy × Assembly :=
  (⟨assembly.nextPolicy, policy⟩, { assembly with nextPolicy := assembly.nextPolicy + 1 })

/-- Publishes named values as parameters. -/
def publish (assembly : Assembly) (named : List (String × String)) :
    List ParameterEntry × Assembly :=
  let (entries, parameters) := assembly.parameters.publish named
  (entries, { assembly with parameters })

/-- Changes a built function. -/
def changeFunction (assembly : Assembly) (factory : Nat)
    (change : BuiltFunction → BuiltFunction) : Assembly :=
  { assembly with functions := assembly.functions.modify factory change }

/-- Changes the resources of a built auth resource. -/
def changeAuth (assembly : Assembly) (factory : Nat)
    (change : AuthResources Nat → AuthResources Nat) : Assembly :=
  { assembly with auths := assembly.auths.modify factory fun built =>
      let construct := { built.construct with resources := change built.construct.resources }
      { built with construct } }

end Assembly

end CloudSynth
