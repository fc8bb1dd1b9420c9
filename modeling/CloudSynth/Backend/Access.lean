import CloudSynth.Access.Arbitration
import CloudSynth.Backend.Blueprint
import CloudSynth.Backend.Function

/-!
# Who accepts policies

A function accepts policies for its only role and exposes the parameters that come along. An auth
resource has a role for logged-in users, one for guests and one for each group, and accepts policies
for the role that is named.
-/

namespace CloudSynth

/-- The roles of an auth resource. -/
inductive AuthRole
  | authenticated
  | unauthenticated
  | group (name : String)
  deriving DecidableEq, Repr

namespace AuthResources

variable {φ : Type}

/-- The role that an identifier names: one of two reserved names, or a group. -/
def roleNamed? (resources : AuthResources φ) (identifier : String) : Option AuthRole :=
  if identifier = "authenticatedUserIamRole" then some .authenticated
  else if identifier = "unauthenticatedUserIamRole" then some .unauthenticated
  else if resources.groups.contains identifier then some (.group identifier)
  else none

/-- The resources with a policy attached to one of their roles. -/
def attach (resources : AuthResources φ) (role : AuthRole) (issued : IssuedPolicy) :
    AuthResources φ :=
  match role with
  | .authenticated =>
    { resources with authenticatedRole := resources.authenticatedRole.attach issued }
  | .unauthenticated =>
    { resources with unauthenticatedRole := resources.unauthenticatedRole.attach issued }
  | .group name =>
    { resources with groups := resources.groups.modify name fun group =>
        { group with role := group.role.attach issued } }

/-- The roles of logged-in users and guests. -/
def identityRoles (resources : AuthResources φ) : List Role :=
  [resources.authenticatedRole, resources.unauthenticatedRole]

/-- The resources with the roles of logged-in users and guests replaced. -/
def withIdentityRoles (resources : AuthResources φ) (roles : List Role) : AuthResources φ :=
  match roles with
  | [authenticatedRole, unauthenticatedRole] =>
    { resources with authenticatedRole, unauthenticatedRole }
  | _ => resources

end AuthResources

namespace Blueprint

variable (blueprint : Blueprint)

/-- The function that a factory has built. -/
def builtFunction (factory : Nat) : blueprint.Build BuiltFunction := do
  match (← get).functions.find? factory with
  | some built => return built
  | none => throw (.entryTypeMismatch ResourceKind.function.group)

/-- The failure to find a role of a function. -/
def noFunctionRole (built : BuiltFunction) (role : String) : BackendError :=
  match built.origin with
  | .defined resolved _ =>
    .invalidResourceAccess
      ("No role found for \"" ++ role ++ "\" on function " ++ resolved.name ++ ".")
      "Functions have a single execution role; grant access without a role identifier."
  | .stub _ =>
    .invalidResourceAccess ("No role found for \"" ++ role ++ "\".")
      "Function resources have a single execution role."

/-- The failure to find a role of an auth resource. -/
def noAuthRole (role : String) : BackendError :=
  .invalidResourceAccess ("No auth IAM role found for \"" ++ role ++ "\".")
    ("If you are trying to configure UserPool group access, " ++
      "ensure that the group name is specified correctly.")

/-- Who accepts policies for a function; it has one role, which is not named. -/
def functionAcceptor (factory : Nat) (role : Option String) :
    blueprint.Build (Acceptor blueprint.Build) := do
  let built ← blueprint.builtFunction factory
  match role with
  | none => return {
      identifier := built.acceptorId
      accept := fun issued entries =>
        modify fun assembly => assembly.changeFunction factory (·.accept issued entries) }
  | some role => throw (noFunctionRole built role)

/-- Who accepts policies for a role of an auth resource. -/
def authAcceptor (factory : Nat) (role : Option String) :
    blueprint.Build (Acceptor blueprint.Build) := do
  let built ← blueprint.builtAuth factory
  match role with
  | none => throw (noAuthRole "")
  | some identifier =>
    match built.construct.resources.roleNamed? identifier with
    | none => throw (noAuthRole identifier)
    | some named => return {
        identifier := identifier ++ "ResourceAccessAcceptor"
        accept := fun issued _ =>
          modify fun assembly => assembly.changeAuth factory (·.attach named issued) }

/-- Who accepts policies for a role of an instance. A data resource owns no roles. -/
def acceptorOf (holder : Instance) (role : Option String) :
    blueprint.Build (Acceptor blueprint.Build) :=
  match holder.kind with
  | .function => blueprint.functionAcceptor holder.factory role
  | .stub => blueprint.functionAcceptor holder.factory role
  | .auth => blueprint.authAcceptor holder.factory role
  | .data => throw (.invalidResourceAccess "Data resources own no roles." "")

/-- Who accepts policies for a grantee, once it is resolved. -/
def granteeAcceptor (reference : Reference) : blueprint.Build (Acceptor blueprint.Build) := do
  let grantee ← blueprint.resolveReference reference isGrantee
  blueprint.acceptorOf grantee none

/-- The arbiter of a resource's grants. -/
def arbiter {α : Type} (resource : String) (entries : List ParameterEntry)
    (statementsFor : α → List Statement) : Arbiter blueprint.Build Reference α where
  resource := resource
  acceptorOf := blueprint.granteeAcceptor
  issue policy := modifyGet fun assembly => assembly.issue policy
  statementsFor := statementsFor
  entries := entries

end Blueprint

end CloudSynth
