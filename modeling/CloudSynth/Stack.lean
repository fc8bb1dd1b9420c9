import CloudSynth.Collection.OrderedMap
import CloudSynth.Error

/-!
# Stacks

A stack is a unit of deployment. It owns the resources of one resource group, each under a logical
id of its own. The stacks of a backend come into being when they are first asked for.
-/

namespace CloudSynth

/-- A resource and the logical id it is registered under. -/
structure StackResource where
  logicalId : String
  resourceType : String
  deriving DecidableEq, Repr

/-- A unit of deployment with its resources in order of registration. -/
structure Stack where
  name : String
  region : String
  account : String
  resources : List StackResource
  deriving DecidableEq, Repr, Inhabited

namespace Stack

/-- A stack without resources. -/
def new (name region account : String) : Stack := ⟨name, region, account, []⟩

/-- The name of a resource in the stack's region and account; identity management has no region. -/
def arn (stack : Stack) (service resource : String) : String :=
  let region := if service = "iam" then "" else stack.region
  "arn:aws:" ++ service ++ ":" ++ region ++ ":" ++ stack.account ++ ":" ++ resource

/-- The stack has a resource under the logical id. -/
def has (stack : Stack) (logicalId : String) : Bool :=
  stack.resources.any (·.logicalId = logicalId)

/-- Registers a resource under a logical id that is still free. -/
def add (stack : Stack) (logicalId resourceType : String) : Except ConstructError Stack :=
  if stack.has logicalId then .error (.duplicateLogicalId logicalId stack.name)
  else .ok { stack with resources := stack.resources ++ [⟨logicalId, resourceType⟩] }

/-- Registers resources in order until one is refused; what was registered before stays. -/
def addAll (stack : Stack) : List StackResource → Except ConstructError Unit × Stack
  | [] => (.ok (), stack)
  | resource :: rest =>
    match stack.add resource.logicalId resource.resourceType with
    | .ok stack => stack.addAll rest
    | .error failure => (.error failure, stack)

/-- The logical ids of the resources of a type, in order of registration. -/
def logicalIdsOf (stack : Stack) (resourceType : String) : List String :=
  (stack.resources.filter (·.resourceType = resourceType)).map (·.logicalId)

end Stack

/-- The stacks of a backend by resource group. -/
structure StackSet where
  rootName : String
  region : String
  account : String
  byGroup : OrderedMap String Stack

namespace StackSet

/-- The stacks of a backend that has none yet. -/
def new (rootName region account : String) : StackSet := ⟨rootName, region, account, {}⟩

/-- The stack that a group gets when it is first asked for. -/
def newStack (set : StackSet) (group : String) : Stack :=
  .new (set.rootName ++ "-" ++ group) set.region set.account

/-- The stack of a group. -/
def stackFor (set : StackSet) (group : String) : Stack :=
  (set.byGroup.find? group).getD (set.newStack group)

/-- The set with the given stack for a group. -/
def put (set : StackSet) (group : String) (stack : Stack) : StackSet :=
  { set with byGroup := set.byGroup.insert group stack }

/-- The set with a stack for the group. -/
def touch (set : StackSet) (group : String) : StackSet := set.put group (set.stackFor group)

end StackSet

end CloudSynth
