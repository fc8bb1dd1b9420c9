import CloudSynth.Proofs.Auth.Registration
import CloudSynth.Proofs.Backend.Bestowal

/-!
# Roles of the auth resource

The auth resource has a role for logged-in users, one for guests, and one for each declared group.
A construct that is built has exactly these, each under a name of its own
(`AuthResources.provides_of_create`), and whatever is attached to them later, they stay the same
roles (`AuthResources.Provides.congr`).

Roles are asked for by identifiers. Two identifiers are reserved for the roles of logged-in users
and guests; any other names the role of the group of this name, if there is one. So different
identifiers name different roles, and a group cannot be asked for by its name if that is a reserved
one (`AuthResources.roleNamed?_eq_some_iff`).
-/

namespace CloudSynth

variable {φ : Type}

namespace AuthRole

/-- The name of a role of a construct. -/
def nameIn (id : String) : AuthRole → String
  | authenticated => id ++ "AuthenticatedUserRole"
  | unauthenticated => id ++ "UnauthenticatedUserRole"
  | group name => id ++ name ++ "GroupRole"

/-- The part of the name that tells the role. -/
def label : AuthRole → String
  | authenticated => "AuthenticatedUser"
  | unauthenticated => "UnauthenticatedUser"
  | group name => name ++ "Group"

theorem nameIn_eq (id : String) (role : AuthRole) :
    role.nameIn id = id ++ (role.label ++ "Role") := by
  cases role with
  | authenticated | unauthenticated => rfl
  | group name => simp [nameIn, label, String.append_assoc]

theorem label_inj {first second : AuthRole} (same : first.label = second.label) :
    first = second := by
  have noUser := AuthProperties.append_group_ne_user
  cases first <;> cases second <;> simp only [label] at same
  case authenticated.authenticated => rfl
  case unauthenticated.unauthenticated => rfl
  case group.group => rw [(String.append_left_inj _).mp same]
  case authenticated.group name => exact absurd same.symm (noUser name "Authenticated")
  case unauthenticated.group name => exact absurd same.symm (noUser name "Unauthenticated")
  case group.authenticated name => exact absurd same (noUser name "Authenticated")
  case group.unauthenticated name => exact absurd same (noUser name "Unauthenticated")
  all_goals exact absurd same (by decide)

/-- No two roles of a construct have one name. -/
theorem nameIn_inj {id : String} {first second : AuthRole}
    (same : first.nameIn id = second.nameIn id) : first = second := by
  rw [nameIn_eq, nameIn_eq, String.append_right_inj, String.append_left_inj] at same
  exact label_inj same

/-- The role belongs to a construct with the given groups. -/
def Offered (groups : List String) : AuthRole → Prop
  | authenticated | unauthenticated => True
  | group name => name ∈ groups

/-- The identifiers that are reserved. -/
def reserved : List String := ["authenticatedUserIamRole", "unauthenticatedUserIamRole"]

/-- Which identifier asks for which role of a construct with the given groups. -/
inductive Named (groups : List String) : String → AuthRole → Prop
  | authenticated : Named groups "authenticatedUserIamRole" .authenticated
  | unauthenticated : Named groups "unauthenticatedUserIamRole" .unauthenticated
  | group {name : String} (declared : name ∈ groups) (free : name ∉ reserved) :
      Named groups name (.group name)

theorem Named.offered {groups : List String} {identifier : String} {role : AuthRole}
    (named : Named groups identifier role) : role.Offered groups := by
  cases named with
  | authenticated | unauthenticated => trivial
  | group declared free => exact declared

/-- A group of a reserved name is not named. -/
theorem Named.free {groups : List String} {identifier name : String}
    (named : Named groups identifier (.group name)) : name ∉ reserved := by
  cases named with
  | group _ free => exact free

theorem Named.inj {groups : List String} {first second : String} {role : AuthRole}
    (named : Named groups first role) (other : Named groups second role) : first = second := by
  cases named <;> cases other <;> rfl

end AuthRole

theorem SortedMap.find?_modify {ν : Type} (map : SortedMap ν) (name other : String)
    (change : ν → ν) :
    (map.modify name change).find? other =
      if name = other then (map.find? other).map change else map.find? other := by
  unfold SortedMap.modify
  by_cases same : name = other
  · subst same
    cases stored : map.find? name with
    | none => simp [stored]
    | some value => simp
  · cases map.find? name with
    | none => rw [if_neg same]
    | some value => rw [find?_insert, if_neg same, if_neg same]

theorem Role.name_attach (role : Role) (issued : IssuedPolicy) :
    (role.attach issued).name = role.name := by
  unfold attach
  split <;> rfl

namespace AuthResources

/-- A role of the resources. -/
def roleOf? (resources : AuthResources φ) : AuthRole → Option Role
  | .authenticated => some resources.authenticatedRole
  | .unauthenticated => some resources.unauthenticatedRole
  | .group name => (resources.groups.find? name).map (·.role)

/-- The roles are those of a construct with the given groups, under their names. -/
structure Provides (id : String) (groups : List String) (resources : AuthResources φ) : Prop where
  offered : ∀ role, (resources.roleOf? role).isSome ↔ role.Offered groups
  named : ∀ role holder, resources.roleOf? role = some holder → holder.name = role.nameIn id

variable {resources after : AuthResources φ} {id : String} {groups : List String}

/-- Only the names of the roles count. -/
theorem Provides.congr (provides : resources.Provides id groups)
    (same : ∀ role, (after.roleOf? role).map (·.name) = (resources.roleOf? role).map (·.name)) :
    after.Provides id groups where
  offered role := by
    rw [← provides.offered role, ← Option.isSome_map, same role, Option.isSome_map]
  named role holder found := by
    have kept := same role
    rw [found, Option.map_some] at kept
    rcases Option.map_eq_some_iff.mp kept.symm with ⟨before, there, named⟩
    rw [← named, provides.named role before there]

/-! ## Building -/

theorem users_of_create {stack later : Stack} {properties : AuthProperties φ}
    {construct : AuthConstruct φ}
    (created : AuthConstruct.create stack id properties = (.ok construct, later)) :
    construct.resources.authenticatedRole =
        AuthProperties.role later (AuthRole.authenticated.nameIn id) ∧
      construct.resources.unauthenticatedRole =
        AuthProperties.role later (AuthRole.unauthenticated.nameIn id) := by
  have assembled : AuthConstruct.assemble later id properties = .ok construct := by
    unfold AuthConstruct.create at created
    split at created
    · cases created
    · split at created
      · cases created
      · rcases Prod.mk.inj created with ⟨assembled, rfl⟩
        exact assembled
  rcases properties.exists_userPool later with ⟨pool, pooled⟩
  rw [AuthConstruct.assemble, pooled] at assembled
  cases assembled
  exact ⟨rfl, rfl⟩

/-- A construct that is built has its roles under their names. -/
theorem provides_of_create {stack later : Stack} {properties : AuthProperties φ}
    {construct : AuthConstruct φ}
    (created : AuthConstruct.create stack id properties = (.ok construct, later)) :
    construct.resources.Provides id properties.groups := by
  rcases users_of_create created with ⟨authenticated, unauthenticated⟩
  have groups := (AuthConstruct.completed_of_create created).groups
  constructor
  · intro role
    cases role with
    | authenticated | unauthenticated => exact iff_of_true rfl trivial
    | group name =>
        rw [roleOf?, Option.isSome_map, Option.isSome_iff_exists, AuthRole.Offered,
          List.mem_iff_getElem?]
        constructor
        · rintro ⟨group, found⟩
          rcases (groups name group).mp found with ⟨position, there, _⟩
          exact ⟨position, there⟩
        · rintro ⟨position, there⟩
          exact ⟨_, (groups name _).mpr ⟨position, there, rfl⟩⟩
  · intro role holder found
    cases role with
    | authenticated => cases found; rw [authenticated]; rfl
    | unauthenticated => cases found; rw [unauthenticated]; rfl
    | group name =>
        rcases Option.map_eq_some_iff.mp found with ⟨group, there, rfl⟩
        rcases (groups name group).mp there with ⟨_, _, rfl⟩
        rfl

/-! ## Attaching -/

theorem roleOf?_attach (role other : AuthRole) (issued : IssuedPolicy) :
    (resources.attach role issued).roleOf? other =
      if other = role then (resources.roleOf? other).map (·.attach issued)
      else resources.roleOf? other := by
  cases role with
  | authenticated => cases other <;> simp [attach, roleOf?]
  | unauthenticated => cases other <;> simp [attach, roleOf?]
  | group name =>
      cases other with
      | authenticated | unauthenticated => simp [attach, roleOf?]
      | group another =>
          simp only [attach, roleOf?, AuthRole.group.injEq, SortedMap.find?_modify]
          by_cases same : name = another
          · rw [if_pos same, if_pos same.symm, Option.map_map, Option.map_map]
            rfl
          · rw [if_neg same, if_neg (Ne.symm same)]

theorem Provides.attach (provides : resources.Provides id groups) (role : AuthRole)
    (issued : IssuedPolicy) : (resources.attach role issued).Provides id groups := by
  refine provides.congr fun other => ?_
  rw [roleOf?_attach]
  split
  · rw [Option.map_map]
    exact congrArg (Option.map · _) (funext fun holder => holder.name_attach issued)
  · rfl

/-- The roles of logged-in users and guests are replaced by others of the same names. -/
theorem Provides.withIdentityRoles (provides : resources.Provides id groups) {roles : List Role}
    (same : roles.map (·.name) = resources.identityRoles.map (·.name)) :
    (resources.withIdentityRoles roles).Provides id groups := by
  refine provides.congr fun role => ?_
  rcases roles with _ | ⟨first, _ | ⟨second, _ | ⟨third, more⟩⟩⟩
  all_goals try rfl
  simp only [identityRoles, List.map_cons, List.map_nil, List.cons.injEq, and_true] at same
  cases role <;> simp [AuthResources.withIdentityRoles, roleOf?, same]

/-! ## Identifiers -/

/-- The reserved identifiers come first, and all others are names of groups. -/
theorem roleNamed?_eq_some_iff (provides : resources.Provides id groups) {identifier : String}
    {role : AuthRole} :
    resources.roleNamed? identifier = some role ↔ AuthRole.Named groups identifier role := by
  have declared : resources.groups.contains identifier = true ↔ identifier ∈ groups := by
    have offered := provides.offered (.group identifier)
    rwa [roleOf?, Option.isSome_map] at offered
  unfold roleNamed?
  constructor
  · intro found
    split at found
    · next same =>
      cases found
      rw [same]
      exact .authenticated
    split at found
    · next same =>
      cases found
      rw [same]
      exact .unauthenticated
    split at found
    · next noUser noGuest there =>
      cases found
      refine .group (declared.mp there) ?_
      simp [AuthRole.reserved, noUser, noGuest]
    · cases found
  · rintro (_ | _ | ⟨there, free⟩)
    · rfl
    · rfl
    · simp only [AuthRole.reserved, List.mem_cons, List.not_mem_nil, or_false, not_or] at free
      rw [if_neg free.1, if_neg free.2, if_pos (declared.mpr there)]

end AuthResources

end CloudSynth
