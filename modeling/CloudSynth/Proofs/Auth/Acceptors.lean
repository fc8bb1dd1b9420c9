import Mathlib.Data.Fintype.EquivFin
import CloudSynth.Proofs.Auth.Upkeep

/-!
# Who accepts policies for an auth resource

An auth resource gives out acceptors by identifiers. The acceptor of an identifier attaches policies
to the role that the identifier names and to no other role of the backend, whenever it is used
(`Blueprint.AttachesTo`); different identifiers have acceptors for different roles, and identifiers
that name nothing are refused (`Blueprint.acceptsByName`). The reserved identifiers come before the
names of groups, so nobody accepts policies for a group of a reserved name.
-/

namespace CloudSynth

/-- Whose role it is: a function's, or the one of an auth resource that is meant. -/
inductive RoleOwner
  | function (factory : Nat)
  | auth (factory : Nat) (role : AuthRole)
  deriving DecidableEq

/-- The role of an owner, if there is one. -/
def Assembly.roleOf? (assembly : Assembly) : RoleOwner → Option Role
  | .function factory => (assembly.functions.find? factory).map (·.lambda.role)
  | .auth factory role =>
    (assembly.auths.find? factory).bind (·.construct.resources.roleOf? role)

theorem Assembly.roleOf?_changeAuth (assembly : Assembly) (factory : Nat) (role : AuthRole)
    (issued : IssuedPolicy) (owner : RoleOwner) :
    (assembly.changeAuth factory (·.attach role issued)).roleOf? owner =
      if owner = .auth factory role then (assembly.roleOf? owner).map (·.attach issued)
      else assembly.roleOf? owner := by
  cases owner with
  | function number => rfl
  | auth number other =>
      simp only [roleOf?, changeAuth, OrderedMap.find?_modify, RoleOwner.auth.injEq]
      by_cases same : factory = number
      · subst same
        cases assembly.auths.find? factory with
        | none => simp
        | some built => simp [AuthResources.roleOf?_attach]
      · simp [same, Ne.symm same]

/-- Some policy is not attached to the role yet. -/
theorem Role.exists_attach_ne (role : Role) : ∃ issued, role.attach issued ≠ role := by
  rcases Infinite.exists_notMem_finset (role.attached.map (·.serial)).toFinset with ⟨serial, new⟩
  have absent : ∀ other ∈ role.attached, other.serial ≠ serial := by
    intro other there same
    exact new (List.mem_toFinset.mpr (List.mem_map.mpr ⟨other, there, same⟩))
  refine ⟨⟨serial, "", []⟩, fun same => ?_⟩
  have longer := congrArg Role.attached same
  rw [Role.attached_attach absent] at longer
  simp at longer

namespace Blueprint

variable {blueprint : Blueprint}

/-! ## The roles of auth resources -/

/-- Every auth resource has the roles of the groups that its settings declare. -/
def AuthsProvide (blueprint : Blueprint) (assembly : Assembly) : Prop :=
  ∀ (own : blueprint.Factory) built, assembly.auths.find? own.val = some built →
    ∃ settings site, blueprint.definition own = .auth settings site ∧
      built.construct.resources.Provides settings.resolvedName settings.groups

theorem roleOf?_wireAuth {name : String} {triggers : List (TriggerEvent × Nat)}
    {created wired : AuthConstruct Nat} (wiring : wireAuth name triggers created = .ok wired)
    (role : AuthRole) : wired.resources.roleOf? role = created.resources.roleOf? role := by
  unfold wireAuth at wiring
  cases pool : triggers.foldlM (fun (pool : UserPool Nat) trigger =>
      pool.addTrigger trigger.1.name trigger.2) created.resources.userPool with
  | error failure =>
      rw [pool] at wiring
      cases wiring
  | ok userPool =>
      rw [pool] at wiring
      cases wiring
      rfl

theorem AuthsProvide.changeAuth {assembly : Assembly} (provide : blueprint.AuthsProvide assembly)
    (number : Nat) {change : AuthResources Nat → AuthResources Nat}
    (keeps : ∀ built, assembly.auths.find? number = some built → ∀ id groups,
      built.construct.resources.Provides id groups →
        (change built.construct.resources).Provides id groups) :
    blueprint.AuthsProvide (assembly.changeAuth number change) := by
  intro own found there
  rw [Assembly.changeAuth, OrderedMap.find?_modify] at there
  split at there
  · next same =>
    rcases Option.map_eq_some_iff.mp there with ⟨built, stored, rfl⟩
    rcases provide own built stored with ⟨settings, site, defined, provides⟩
    exact ⟨settings, site, defined, keeps built (same ▸ stored) _ _ provides⟩
  · exact provide own found there

theorem AuthsProvide.congr {assembly other : Assembly} (provide : blueprint.AuthsProvide assembly)
    (same : other.auths = assembly.auths) : blueprint.AuthsProvide other := by
  intro own built there
  exact provide own built (same ▸ there)

theorem lasts_authsProvide : blueprint.Lasts blueprint.AuthsProvide := by
  intro before after change provide
  cases change with
  | none same => exact provide.congr same
  | @build own settings site defined properties declared stack later created wired creation _ wiring
      stackName built =>
      intro other found there
      rw [built, OrderedMap.find?_insert] at there
      split at there
      · next same =>
        cases there
        rw [← Fin.ext same]
        have provides := AuthResources.provides_of_create creation
        rw [declared] at provides
        refine ⟨settings, site, defined, provides.congr fun role => ?_⟩
        rw [roleOf?_wireAuth wiring]
      · exact provide other found there
  | @attach number role issued attached =>
      rw [attached]
      exact provide.changeAuth number fun _ _ _ _ provides => provides.attach role issued
  | @callers number roles same replaced =>
      refine AuthsProvide.congr (provide.changeAuth number ?_) replaced
      exact fun built stored _ _ provides => provides.withIdentityRoles (same built stored)

theorem Reached.provides {container : BackendContainer} (reached : blueprint.Reached container)
    {own : blueprint.Factory} {settings : AuthSettings Reference} {site : DefinitionSite}
    (defined : blueprint.definition own = .auth settings site) {built : BuiltAuth}
    (stored : container.state.auths.find? own.val = some built) :
    built.construct.resources.Provides settings.resolvedName settings.groups := by
  have nothing : ∀ assembly : Assembly, assembly.auths = {} → blueprint.AuthsProvide assembly := by
    intro assembly empty own built there
    rw [empty] at there
    cases there
  rcases reached.keeps lasts_authsProvide nothing own built stored with
    ⟨others, otherSite, same, provides⟩
  rw [defined] at same
  cases same
  exact provides

/-! ## Acceptors -/

/-- The acceptor attaches policies to the role of the owner and to no other role, on whatever
container it is used. -/
def AttachesTo (blueprint : Blueprint) (acceptor : Acceptor blueprint.Build) (owner : RoleOwner) :
    Prop :=
  ∀ issued entries (container : BackendContainer), ∃ state,
    blueprint.catalogue.run (acceptor.accept issued entries) container =
        (.ok (), { container with state }) ∧
      ∀ other, state.roleOf? other =
        if other = owner then (container.state.roleOf? other).map (·.attach issued)
        else container.state.roleOf? other

/-- An acceptor attaches to one role only. -/
theorem AttachesTo.unique {acceptor : Acceptor blueprint.Build} {owner other : RoleOwner}
    (attaches : blueprint.AttachesTo acceptor owner) (again : blueprint.AttachesTo acceptor other)
    {container : BackendContainer} {role : Role}
    (there : container.state.roleOf? owner = some role) : owner = other := by
  by_contra different
  rcases role.exists_attach_ne with ⟨issued, changed⟩
  rcases attaches issued [] container with ⟨state, done, roles⟩
  rcases again issued [] container with ⟨state', done', roles'⟩
  rw [done] at done'
  cases done'
  have attached := roles owner
  rw [roles' owner, if_neg different, if_pos rfl, there] at attached
  exact changed (Option.some.inj attached).symm

/-- Who accepts policies for a role of an auth resource. -/
def acceptorFor (blueprint : Blueprint) (factory : Nat) (identifier : String) (role : AuthRole) :
    Acceptor blueprint.Build where
  identifier := identifier ++ "ResourceAccessAcceptor"
  accept := fun issued _ =>
    modify fun assembly => assembly.changeAuth factory (·.attach role issued)

theorem attachesTo_acceptorFor (factory : Nat) (identifier : String) (role : AuthRole) :
    blueprint.AttachesTo (blueprint.acceptorFor factory identifier role) (.auth factory role) :=
  fun issued _ container => ⟨container.state.changeAuth factory (·.attach role issued), rfl,
    container.state.roleOf?_changeAuth factory role issued⟩

/-- Asking the auth resource by the identifier gives the acceptor, which attaches to the role of the
owner. -/
structure Gives (blueprint : Blueprint) (own : blueprint.Factory) (container : BackendContainer)
    (identifier : String) (acceptor : Acceptor blueprint.Build) (owner : RoleOwner) : Prop where
  given : blueprint.catalogue.run (blueprint.acceptorOf ⟨.auth, own⟩ (some identifier)) container =
    (.ok acceptor, container)
  called : acceptor.identifier = identifier ++ "ResourceAccessAcceptor"
  attaches : blueprint.AttachesTo acceptor owner

section Named

variable {own : blueprint.Factory} {container : BackendContainer} {built : BuiltAuth}
  (stored : container.state.auths.find? own.val = some built)

include stored

theorem run_acceptorOf_none :
    blueprint.catalogue.run (blueprint.acceptorOf ⟨.auth, own⟩ none) container =
      (.error (noAuthRole ""), container) := by
  simp only [acceptorOf, authAcceptor, Catalogue.run_bind blueprint.listed, run_builtAuth, stored,
    Catalogue.run_throw]

theorem run_acceptorOf_some (identifier : String) :
    blueprint.catalogue.run (blueprint.acceptorOf ⟨.auth, own⟩ (some identifier)) container =
      (match built.construct.resources.roleNamed? identifier with
        | none => .error (noAuthRole identifier)
        | some role => .ok (blueprint.acceptorFor own identifier role), container) := by
  simp only [acceptorOf, authAcceptor, Catalogue.run_bind blueprint.listed, run_builtAuth, stored]
  cases built.construct.resources.roleNamed? identifier <;> rfl

variable {id : String} {groups : List String}
  (provides : built.construct.resources.Provides id groups)

include provides

theorem exists_roleOf? {role : AuthRole} (offered : role.Offered groups) :
    ∃ holder, container.state.roleOf? (.auth own role) = some holder ∧
      holder.name = role.nameIn id := by
  rcases Option.isSome_iff_exists.mp ((provides.offered role).mpr offered) with ⟨holder, there⟩
  exact ⟨holder, by simp [Assembly.roleOf?, stored, there], provides.named role holder there⟩

theorem gives_of_named {identifier : String} {role : AuthRole}
    (named : AuthRole.Named groups identifier role) :
    blueprint.Gives own container identifier (blueprint.acceptorFor own identifier role)
      (.auth own role) where
  given := by
    rw [run_acceptorOf_some stored, (AuthResources.roleNamed?_eq_some_iff provides).mpr named]
  called := rfl
  attaches := attachesTo_acceptorFor own identifier role

/-- Acceptors are given out by names of roles only. -/
theorem Gives.named {identifier : String} {acceptor : Acceptor blueprint.Build} {owner : RoleOwner}
    (gives : blueprint.Gives own container identifier acceptor owner) :
    ∃ role, AuthRole.Named groups identifier role ∧ owner = .auth own role := by
  have given := gives.given
  rw [run_acceptorOf_some stored] at given
  cases found : built.construct.resources.roleNamed? identifier with
  | none =>
      rw [found] at given
      cases given
  | some role =>
      rw [found] at given
      cases given
      have named := (AuthResources.roleNamed?_eq_some_iff provides).mp found
      rcases exists_roleOf? stored provides named.offered with ⟨holder, there, _⟩
      have same := (attachesTo_acceptorFor own identifier role).unique gives.attaches there
      exact ⟨role, named, same.symm⟩

theorem run_acceptorOf_of_unnamed {identifier : String} (undeclared : identifier ∉ groups)
    (free : identifier ∉ AuthRole.reserved) :
    blueprint.catalogue.run (blueprint.acceptorOf ⟨.auth, own⟩ (some identifier)) container =
      (.error (noAuthRole identifier), container) := by
  rw [run_acceptorOf_some stored]
  cases found : built.construct.resources.roleNamed? identifier with
  | none => rfl
  | some role =>
      cases (AuthResources.roleNamed?_eq_some_iff provides).mp found with
      | authenticated | unauthenticated => exact absurd (by decide) free
      | group declared _ => exact absurd declared undeclared

end Named

/-- Who accepts policies for the roles of a built auth resource. -/
structure AcceptsByName (blueprint : Blueprint) (own : blueprint.Factory) (id : String)
    (groups : List String) (container : BackendContainer) : Prop where
  /-- There are the roles of logged-in users and guests, and one for each group. -/
  roles : ∀ role, role.Offered groups → ∃ holder,
    container.state.roleOf? (.auth own role) = some holder ∧ holder.name = role.nameIn id
  group : ∀ name ∈ groups, name ∉ AuthRole.reserved →
    ∃ acceptor, blueprint.Gives own container name acceptor (.auth own (.group name))
  authenticated : ∃ acceptor, blueprint.Gives own container "authenticatedUserIamRole" acceptor
    (.auth own .authenticated)
  unauthenticated : ∃ acceptor, blueprint.Gives own container "unauthenticatedUserIamRole" acceptor
    (.auth own .unauthenticated)
  /-- Different roles have different names. -/
  apart : ∀ {role other : AuthRole}, role ≠ other → role.nameIn id ≠ other.nameIn id
  /-- Different identifiers attach to different roles. -/
  distinct : ∀ {first second : String} {acceptor other owner another}, first ≠ second →
    blueprint.Gives own container first acceptor owner →
      blueprint.Gives own container second other another → owner ≠ another
  /-- A reserved identifier never names a group. -/
  shadowed : ∀ name ∈ AuthRole.reserved, ∀ identifier acceptor,
    ¬ blueprint.Gives own container identifier acceptor (.auth own (.group name))
  refused : ∀ identifier, identifier ∉ groups → identifier ∉ AuthRole.reserved →
    blueprint.catalogue.run (blueprint.acceptorOf ⟨.auth, own⟩ (some identifier)) container =
      (.error (noAuthRole identifier), container)
  unnamed : blueprint.catalogue.run (blueprint.acceptorOf ⟨.auth, own⟩ none) container =
    (.error (noAuthRole ""), container)

/-! ## A club -/

/-- The settings of a club whose members log in with their mail address. -/
def clubSettings (groups : List String) : AuthSettings Reference where
  name := some "club"
  login := ⟨some .default, none, none⟩
  multifactor := none
  emailSender := none
  smsSender := none
  groups := groups
  triggers := .empty
  access := none

/-- A backend of the club. -/
def club (groups : List String) : Blueprint where
  configuration := .default
  siteCheck := none
  nameCheck := none
  definitions := [.auth (clubSettings groups) ⟨"auth.rs", 1, 1⟩]
  names := OrderedMap.ofList [("club", 0)]

/-- Its auth resource. -/
def members (groups : List String) : (club groups).Factory := ⟨0, Nat.zero_lt_one⟩

/-- The backend when the auth resource has been requested. -/
def openClub (groups : List String) : BackendContainer :=
  ((club groups).catalogue.run ((club groups).instanceOf (members groups))
    (Backend.new (club groups).configuration .empty).container).2

theorem reached_openClub (groups : List String) : (club groups).Reached (openClub groups) :=
  .use (.new .empty) (.asks (.instanceOf (members groups)))
    (Catalogue.passes_run (club groups).listed _ _)

/-- However a backend is used, its auth resource gives out acceptors by the names of its roles. -/
theorem acceptsByName {own : blueprint.Factory} {container : BackendContainer}
    (reached : blueprint.Reached container) {settings : AuthSettings Reference}
    {site : DefinitionSite} (defined : blueprint.definition own = .auth settings site)
    {built : BuiltAuth} (stored : container.state.auths.find? own.val = some built) :
    blueprint.AcceptsByName own settings.resolvedName settings.groups container := by
  have provides := reached.provides defined stored
  constructor
  case roles => exact fun role offered => exists_roleOf? stored provides offered
  case group =>
    exact fun name declared free => ⟨_, gives_of_named stored provides (.group declared free)⟩
  case authenticated => exact ⟨_, gives_of_named stored provides .authenticated⟩
  case unauthenticated => exact ⟨_, gives_of_named stored provides .unauthenticated⟩
  case apart => exact fun different same => different (AuthRole.nameIn_inj same)
  case distinct =>
    intro first second acceptor other owner another different gives givesOther same
    rcases gives.named stored provides with ⟨role, named, rfl⟩
    rcases givesOther.named stored provides with ⟨role', named', rfl⟩
    cases same
    exact different (named.inj named')
  case shadowed =>
    intro name reserved identifier acceptor gives
    rcases gives.named stored provides with ⟨role, named, same⟩
    cases same
    exact named.free reserved
  case refused => exact fun _ => run_acceptorOf_of_unnamed stored provides
  case unnamed => exact run_acceptorOf_none stored

theorem acceptsByName_club :
    let groups := ["admins", "authenticatedUserIamRole"]
    (club groups).Reached (openClub groups) ∧
      ∃ built, (openClub groups).state.auths.find? (members groups).val = some built ∧
        (club groups).AcceptsByName (members groups) "club" groups (openClub groups) := by
  intro groups
  have found : ((openClub groups).state.auths.find? (members groups).val).isSome = true := by
    decide +kernel
  rcases Option.isSome_iff_exists.mp found with ⟨built, stored⟩
  have reached := reached_openClub groups
  have defined : (club groups).definition (members groups) =
      .auth (clubSettings groups) ⟨"auth.rs", 1, 1⟩ := rfl
  exact ⟨reached, built, stored, acceptsByName reached defined stored⟩

/-- A group has a role of its own, and nobody accepts policies for it: whoever asks by the name of
the group is given the acceptor of logged-in users. -/
theorem shadowed_group :
    let groups := ["authenticatedUserIamRole"]
    let ownRole := RoleOwner.auth (members groups) (.group "authenticatedUserIamRole")
    "authenticatedUserIamRole" ∈ (clubSettings groups).groups ∧
      (∃ holder, (openClub groups).state.roleOf? ownRole = some holder ∧
        holder.name = "clubauthenticatedUserIamRoleGroupRole") ∧
      (∃ acceptor, (club groups).Gives (members groups) (openClub groups)
        "authenticatedUserIamRole" acceptor (.auth (members groups) .authenticated)) ∧
      ¬ ∃ acceptor, (club groups).Gives (members groups) (openClub groups)
        "authenticatedUserIamRole" acceptor ownRole := by
  intro groups ownRole
  have found : ((openClub groups).state.auths.find? (members groups).val).isSome = true := by
    decide +kernel
  rcases Option.isSome_iff_exists.mp found with ⟨built, stored⟩
  have provides := (reached_openClub groups).provides rfl stored
  have declared : "authenticatedUserIamRole" ∈ groups := List.mem_singleton_self _
  have offered : (AuthRole.group "authenticatedUserIamRole").Offered groups := declared
  refine ⟨declared, exists_roleOf? stored provides offered,
    ⟨_, gives_of_named stored provides .authenticated⟩, ?_⟩
  rintro ⟨acceptor, gives⟩
  rcases gives.named stored provides with ⟨role, named, same⟩
  obtain rfl : AuthRole.group "authenticatedUserIamRole" = role := (RoleOwner.auth.inj same).2
  exact named.free (by decide)

end Blueprint

end CloudSynth
