import CloudSynth.Backend.Access
import CloudSynth.Proofs.Backend.Stacks
import CloudSynth.Proofs.Text.Joined

/-!
# Registration of the auth construct

The logical ids of the auth construct are its own id, the name of a group or provider or a fixed
word, and an ending that says what the resource is (`AuthProperties.labels`). The last letter of an
id tells the ending, and so the rest, whatever characters the names hold. The ids of a construct
therefore collide with each other only if two groups or two providers have one name
(`AuthProperties.nodup_logicalIds_iff`).

A construct whose properties are consistent is built exactly if its ids are distinct and new in the
stack. It is otherwise refused at the first id that is not, and what comes before stays registered
(`AuthConstruct.creation`).
-/

namespace CloudSynth

variable {φ : Type}

namespace AuthProperties

/-! ## Logical ids -/

/-- The names of the external providers. -/
def providerNames (properties : AuthProperties φ) : List String :=
  (properties.federation.map (·.providers.map (·.name))).getD []

/-- What the logical ids of the construct end in. -/
def idEndings : List String := ["Pool", "Client", "Role", "Group", "IdP", "Domain"]

/-- What follows the id of the construct in its logical ids: a stem and an ending. -/
def labels (properties : AuthProperties φ) : List (String × String) :=
  [("User", "Pool"), ("UserPoolApp", "Client"), ("Identity", "Pool"),
   ("AuthenticatedUser", "Role"), ("UnauthenticatedUser", "Role")] ++
  properties.groups.flatMap (fun group => [(group, "Group"), (group ++ "Group", "Role")]) ++
  properties.providerNames.map (fun name => (name, "IdP")) ++
  (if (properties.federation.bind (·.domainStart)).isSome then [("UserPool", "Domain")] else [])

/-- The logical id of a label. -/
def labelled (id : String) (label : String × String) : String := id ++ (label.1 ++ label.2)

theorem logicalIds_eq (properties : AuthProperties φ) (id : String) :
    (properties.registrations id).map (·.logicalId) = properties.labels.map (labelled id) := by
  unfold registrations labels providerNames
  rcases properties.federation with _ | federation
  · simp [labelled, List.map_flatMap, String.append_assoc]
  · by_cases domain : federation.domainStart.isSome <;>
      simp [labelled, domain, List.map_flatMap, String.append_assoc]

/-- The last letter tells the endings apart. -/
theorem eq_of_append_idEnding {first second stem other : String} (isFirst : first ∈ idEndings)
    (isSecond : second ∈ idEndings) (same : stem ++ first = other ++ second) :
    stem = other ∧ first = second := by
  have long : ∀ ending ∈ idEndings, 1 ≤ ending.toList.length := by decide
  have apart : ∀ first ∈ idEndings, ∀ second ∈ idEndings,
      first.toList.reverse.take 1 = second.toList.reverse.take 1 → first = second := by decide
  exact eq_of_append_ending long apart isFirst isSecond same

theorem ending_mem_of_mem_labels {properties : AuthProperties φ} {label : String × String}
    (label_mem : label ∈ properties.labels) : label.2 ∈ idEndings := by
  simp only [labels, List.mem_append, List.mem_cons, List.not_mem_nil, or_false,
    List.mem_flatMap, List.mem_map] at label_mem
  rcases label_mem with ((fixed | ⟨group, _, rfl | rfl⟩) | ⟨name, _, rfl⟩) | domain
  · rcases fixed with rfl | rfl | rfl | rfl | rfl <;> decide
  · simp [idEndings]
  · simp [idEndings]
  · simp [idEndings]
  · split at domain
    · rw [List.mem_singleton.mp domain]
      decide
    · cases domain

theorem labelled_inj {id : String} {first second : String × String} (isFirst : first.2 ∈ idEndings)
    (isSecond : second.2 ∈ idEndings) (same : labelled id first = labelled id second) :
    first = second := by
  rcases eq_of_append_idEnding isFirst isSecond ((String.append_right_inj id).mp same) with
    ⟨stems, endings⟩
  exact Prod.ext stems endings

/-- The role of a group is never that of logged-in users or guests. -/
theorem append_group_ne_user (group user : String) : group ++ "Group" ≠ user ++ "User" := by
  intro same
  have long : ∀ ending ∈ ["Group", "User"], 1 ≤ ending.toList.length := by decide
  have apart : ∀ first ∈ ["Group", "User"], ∀ second ∈ ["Group", "User"],
      first.toList.reverse.take 1 = second.toList.reverse.take 1 → first = second := by decide
  exact absurd (eq_of_append_ending long apart (by decide) (by decide) same).2 (by decide)

theorem nodup_groupLabels_iff (groups : List String) :
    (groups.flatMap fun group => [(group, "Group"), (group ++ "Group", "Role")]).Nodup ↔
      groups.Nodup := by
  have apart : ∀ first second : String,
      List.Disjoint [(first, "Group"), (first ++ "Group", "Role")]
        [(second, "Group"), (second ++ "Group", "Role")] ↔ first ≠ second := by
    intro first second
    simp [String.append_left_inj, eq_comm]
  have each : ∀ group ∈ groups,
      ([(group, "Group"), (group ++ "Group", "Role")] : List (String × String)).Nodup := by simp
  rw [List.nodup_flatMap, and_iff_right each]
  exact List.Pairwise.iff apart

/-- Labels of different families differ in their endings, except for the roles. -/
theorem nodup_labels_iff (properties : AuthProperties φ) :
    properties.labels.Nodup ↔ properties.groups.Nodup ∧ properties.providerNames.Nodup := by
  have roles : ∀ group : String,
      ¬ group ++ "Group" = "AuthenticatedUser" ∧ ¬ group ++ "Group" = "UnauthenticatedUser" :=
    fun group =>
      ⟨append_group_ne_user group "Authenticated", append_group_ne_user group "Unauthenticated"⟩
  have providers : (properties.providerNames.map fun name => (name, "IdP")).Nodup ↔
      properties.providerNames.Nodup :=
    List.nodup_map_iff fun first second same => (Prod.mk.inj same).1
  unfold labels
  simp only [List.nodup_append', nodup_groupLabels_iff, providers]
  constructor
  · rintro ⟨⟨⟨_, groups, _⟩, providers, _⟩, _⟩
    exact ⟨groups, providers⟩
  · rintro ⟨groups, providers⟩
    refine ⟨⟨⟨by decide, groups, ?_⟩, providers, ?_⟩, by split <;> simp, ?_⟩
    · intro label fixed there
      rcases List.mem_flatMap.mp there with ⟨group, _, there⟩
      rw [List.mem_pair] at there
      rcases there with rfl | rfl
      · simp at fixed
      · simp [roles] at fixed
    · intro label earlier there
      rcases List.mem_map.mp there with ⟨name, _, rfl⟩
      simp at earlier
    · intro label earlier there
      split at there
      · rw [List.mem_singleton.mp there] at earlier
        simp at earlier
      · cases there

/-- The logical ids are distinct exactly if no two groups and no two providers have one name. -/
theorem nodup_logicalIds_iff (properties : AuthProperties φ) (id : String) :
    ((properties.registrations id).map (·.logicalId)).Nodup ↔
      properties.groups.Nodup ∧ properties.providerNames.Nodup := by
  rw [logicalIds_eq, ← nodup_labels_iff]
  constructor
  · exact List.Nodup.of_map (labelled id)
  · refine List.Nodup.map_on ?_
    intro first first_mem second second_mem same
    exact labelled_inj (ending_mem_of_mem_labels first_mem) (ending_mem_of_mem_labels second_mem)
      same

/-! ## Resources of the construct -/

/-- An event that has no handler gets one, and the other events keep theirs. -/
theorem exists_attachSender {event : String} {pool : UserPool φ}
    (free : pool.triggers.find? event = none) (sender : Option (CustomSender φ)) :
    ∃ attached, attachSender event sender pool = .ok attached ∧
      ∀ other, event ≠ other → attached.triggers.find? other = pool.triggers.find? other := by
  rcases sender with _ | sender
  · exact ⟨pool, rfl, fun _ _ => rfl⟩
  · have added : pool.addTrigger event sender.handler =
        .ok { pool with triggers := pool.triggers.insert event sender.handler } := by
      simp [UserPool.addTrigger, SortedMap.contains, free]
    rw [attachSender, added]
    refine ⟨_, rfl, ?_⟩
    intro other different
    unfold UserPool.withKey
    split <;> simp only [SortedMap.find?_insert, if_neg different]

/-- The functions that send mail and text messages are called on different events. -/
theorem exists_attachSenders {pool : UserPool φ} (free : ∀ event, pool.triggers.find? event = none)
    (emailSender smsSender : Option (CustomSender φ)) :
    ∃ attached, (attachSender "customEmailSender" emailSender pool).bind
      (attachSender "customSmsSender" smsSender) = .ok attached := by
  rcases exists_attachSender (free "customEmailSender") emailSender with ⟨mailing, first, others⟩
  have freeSms : mailing.triggers.find? "customSmsSender" = none := by
    rw [others _ (by decide), free]
  rcases exists_attachSender freeSms smsSender with ⟨attached, second, _⟩
  exact ⟨attached, by rw [first]; exact second⟩

theorem exists_userPool (properties : AuthProperties φ) (stack : Stack) :
    ∃ pool, properties.userPool stack = .ok pool :=
  exists_attachSenders (fun _ => rfl) _ _

/-- The groups that the construct has, each with the role of its name and its position. -/
theorem find?_userGroups_iff {properties : AuthProperties φ} (distinct : properties.groups.Nodup)
    {stack : Stack} {id name : String} {group : UserGroup} :
    (properties.userGroups stack id).find? name = some group ↔
      ∃ position, properties.groups[position]? = some name ∧
        group = ⟨name, role stack (id ++ name ++ "GroupRole"), position⟩ := by
  constructor
  · intro found
    rcases Option.map_eq_some_iff.mp found with ⟨entry, entry_found, rfl⟩
    have named : entry.1 = name := by simpa using List.find?_some entry_found
    have entry_mem := SortedMap.mem_of_mem_ofList (List.mem_of_find?_eq_some entry_found)
    rcases List.mem_map.mp entry_mem with ⟨⟨group, position⟩, pair_mem, rfl⟩
    subst named
    exact ⟨position, List.mem_zipIdx_iff_getElem?.mp pair_mem, rfl⟩
  · rintro ⟨position, there, rfl⟩
    have names : ((properties.groups.zipIdx.map fun pair =>
        (pair.1, (⟨pair.1, role stack (id ++ pair.1 ++ "GroupRole"), pair.2⟩ : UserGroup))).map
          (·.1)).Nodup := by
      simpa [Function.comp_def] using distinct
    exact SortedMap.find?_foldl_insert_of_mem Prod.fst Prod.snd names
      (List.mem_map.mpr ⟨(name, position), List.mem_zipIdx_iff_getElem?.mpr there, rfl⟩) _

/-- The roles of groups are named after the groups. -/
theorem roleNames_userGroups (properties : AuthProperties φ) (stack : Stack) (id : String) :
    (properties.userGroups stack id).values.map (·.role.name) =
      (properties.userGroups stack id).keys.map fun group =>
        id ++ (group ++ "Group" ++ "Role") := by
  simp only [SortedMap.values, SortedMap.keys, List.map_map]
  refine List.map_congr_left ?_
  intro entry entry_mem
  rcases List.mem_map.mp (SortedMap.mem_of_mem_ofList entry_mem) with ⟨pair, _, rfl⟩
  simp [role, Role.new, String.append_assoc]

end AuthProperties

namespace AuthConstruct

variable {stack after : Stack} {id : String} {properties : AuthProperties φ}
  {construct : AuthConstruct φ}

/-! ## Building -/

theorem create_of_addAll_ok (consistent : properties.check = .ok ())
    (registered : stack.addAll (properties.registrations id) = (.ok (), after)) :
    ∃ construct, create stack id properties = (.ok construct, after) ∧
      assemble after id properties = .ok construct := by
  rcases properties.exists_userPool after with ⟨pool, pooled⟩
  have assembled : ∃ construct, assemble after id properties = .ok construct := by
    rw [assemble, pooled]
    exact ⟨_, rfl⟩
  rcases assembled with ⟨construct, assembled⟩
  exact ⟨construct, by simp only [create, consistent, registered, assembled], assembled⟩

theorem create_of_addAll_error (consistent : properties.check = .ok ()) {failure : ConstructError}
    (refused : stack.addAll (properties.registrations id) = (.error failure, after)) :
    create stack id properties = (.error failure, after) := by
  simp only [create, consistent, refused]

/-- Consistent properties are built exactly if all resources can be registered. -/
theorem exists_construct_iff (consistent : properties.check = .ok ()) :
    (∃ construct, (create stack id properties).1 = .ok construct) ↔
      ∃ after, stack.addAll (properties.registrations id) = (.ok (), after) := by
  rcases registered : stack.addAll (properties.registrations id) with ⟨failure | _, after⟩
  · rw [create_of_addAll_error consistent registered]
    simp
  · rcases create_of_addAll_ok consistent registered with ⟨construct, built, _⟩
    rw [built]
    simp

/-- What a construct consists of, and what it leaves in the stack that it is built in. -/
structure Completed (stack : Stack) (id : String) (properties : AuthProperties φ)
    (construct : AuthConstruct φ) (after : Stack) : Prop where
  registered : after = { stack with resources := stack.resources ++ properties.registrations id }
  /-- The groups are those of the properties, each with the role of its name and its position. -/
  groups : ∀ name group, construct.resources.groups.find? name = some group ↔
    ∃ position, properties.groups[position]? = some name ∧
      group = ⟨name, AuthProperties.role stack (id ++ name ++ "GroupRole"), position⟩
  /-- No two roles of the construct have one name. -/
  roles : ((construct.resources.identityRoles ++
    construct.resources.groups.values.map (·.role)).map (·.name)).Nodup

theorem nodup_roleNames (assembled : assemble stack id properties = .ok construct) :
    ((construct.resources.identityRoles ++
      construct.resources.groups.values.map (·.role)).map (·.name)).Nodup := by
  rcases properties.exists_userPool stack with ⟨pool, pooled⟩
  rw [assemble, pooled] at assembled
  cases assembled
  have keys : (properties.userGroups stack id).keys.Nodup :=
    List.pairwise_map.mpr ((properties.userGroups stack id).ascending.imp String.ne_of_lt)
  have stems : (["AuthenticatedUser", "UnauthenticatedUser"] ++
      (properties.userGroups stack id).keys.map (· ++ "Group")).Nodup := by
    refine List.nodup_append'.mpr ⟨by decide, ?_, ?_⟩
    · exact keys.map fun first second => (String.append_left_inj _).mp
    · intro stem user group
      rcases List.mem_map.mp group with ⟨name, _, rfl⟩
      rcases List.mem_pair.mp user with same | same
      · exact AuthProperties.append_group_ne_user name "Authenticated" same
      · exact AuthProperties.append_group_ne_user name "Unauthenticated" same
  have injective : Function.Injective fun stem => id ++ (stem ++ "Role") := fun first second same =>
    (String.append_left_inj _).mp ((String.append_right_inj _).mp same)
  have named := stems.map injective
  have groups := properties.roleNames_userGroups stack id
  rw [List.map_append, List.map_map] at named
  rw [List.map_append, List.map_map]
  -- The names are the same texts, joined in another order.
  simp only [Function.comp_def, groups] at named ⊢
  simpa [AuthResources.identityRoles, AuthProperties.role, Role.new, String.append_assoc] using
    named

theorem completed_of_create (built : create stack id properties = (.ok construct, after)) :
    Completed stack id properties construct after := by
  unfold create at built
  split at built
  · cases built
  rcases registered : stack.addAll (properties.registrations id) with ⟨failure | _, later⟩
  · rw [registered] at built
    cases built
  simp only [registered, Prod.mk.injEq] at built
  rcases built with ⟨assembled, rfl⟩
  rcases Stack.addAll_eq_ok.mp registered with ⟨rfl, distinct, _⟩
  have groups : construct.resources.groups = properties.userGroups stack id := by
    rcases properties.exists_userPool _ with ⟨pool, pooled⟩
    rw [assemble, pooled] at assembled
    cases assembled
    rfl
  refine ⟨rfl, ?_, nodup_roleNames assembled⟩
  intro name group
  rw [groups]
  exact AuthProperties.find?_userGroups_iff ((properties.nodup_logicalIds_iff id).mp distinct).1

theorem stopsAt_of_create (consistent : properties.check = .ok ()) {failure : ConstructError}
    (refused : create stack id properties = (.error failure, after)) :
    ∃ before next rest, properties.registrations id = before ++ next :: rest ∧
      stack.StopsAt before next ∧ failure = .duplicateLogicalId next.logicalId stack.name ∧
      after = { stack with resources := stack.resources ++ before } := by
  rcases registered : stack.addAll (properties.registrations id) with ⟨reported | _, later⟩
  · rw [create_of_addAll_error consistent registered] at refused
    cases refused
    exact Stack.exists_stopsAt registered
  · rcases create_of_addAll_ok consistent registered with ⟨construct, built, _⟩
    rw [built] at refused
    cases refused

/-- What becomes of a construct with any properties, in any stack. -/
structure Creation (stack : Stack) (id : String) (properties : AuthProperties φ) : Prop where
  /-- Inconsistent properties change nothing. -/
  inconsistent : ∀ fault, properties.check = .error fault →
    create stack id properties = (.error (.invalidProps fault.message), stack)
  /-- Consistent properties are built exactly if the logical ids are distinct and new. -/
  built_iff : properties.check = .ok () →
    ((∃ construct, (create stack id properties).1 = .ok construct) ↔
      ((properties.registrations id).map (·.logicalId)).Nodup ∧
        (stack.resources.map (·.logicalId)).Disjoint
          ((properties.registrations id).map (·.logicalId)))
  completed : ∀ construct after, create stack id properties = (.ok construct, after) →
    Completed stack id properties construct after
  /-- Otherwise the first logical id that is taken is reported. -/
  stopped : properties.check = .ok () → ∀ failure after,
    create stack id properties = (.error failure, after) →
      ∃ before next rest, properties.registrations id = before ++ next :: rest ∧
        stack.StopsAt before next ∧
        failure = .duplicateLogicalId next.logicalId stack.name ∧
        after = { stack with resources := stack.resources ++ before }
  /-- In an empty stack the names of the groups and those of the providers decide. -/
  built_iff_of_empty : properties.check = .ok () → stack.resources = [] →
    ((∃ construct, (create stack id properties).1 = .ok construct) ↔
      properties.groups.Nodup ∧ properties.providerNames.Nodup)
  /-- The handlers of events do not collide. -/
  noDuplicateTrigger : ∀ event pool,
    (create stack id properties).1 ≠ .error (.duplicateTrigger event pool)

theorem creation (stack : Stack) (id : String) (properties : AuthProperties φ) :
    Creation stack id properties := by
  have built_iff : properties.check = .ok () →
      ((∃ construct, (create stack id properties).1 = .ok construct) ↔
        ((properties.registrations id).map (·.logicalId)).Nodup ∧
          (stack.resources.map (·.logicalId)).Disjoint
            ((properties.registrations id).map (·.logicalId))) := by
    intro consistent
    rw [exists_construct_iff consistent]
    simp only [Stack.addAll_eq_ok, exists_eq_left]
  have inconsistent : ∀ fault, properties.check = .error fault →
      create stack id properties = (.error (.invalidProps fault.message), stack) := by
    intro fault refused
    rw [create, refused]
  refine ⟨inconsistent, built_iff, fun _ _ => completed_of_create,
    fun consistent _ _ => stopsAt_of_create consistent, ?empty, ?trigger⟩
  case empty =>
    intro consistent empty
    rw [built_iff consistent, empty, properties.nodup_logicalIds_iff]
    simp
  case trigger =>
    intro event pool
    cases checked : properties.check with
    | error fault =>
        rw [inconsistent fault checked]
        intro same
        cases same
    | ok =>
        rcases built : create stack id properties with ⟨failure | construct, after⟩
        · rcases stopsAt_of_create checked built with ⟨_, _, _, _, _, rfl, _⟩
          intro same
          cases same
        · intro same
          cases same

/-- Groups with similar names do not collide, and a group that is named twice does. -/
theorem creation_lookalikes :
    let properties : AuthProperties Nat :=
      ⟨none, some ⟨none⟩, none, none, none, none, ["admin", "adminGroup"], ""⟩
    let stack := Stack.new "auth" "us-east-1" "000000000000"
    (∃ construct, (create stack "app" properties).1 = .ok construct) ∧
      ¬ ∃ construct,
        (create stack "app" { properties with groups := ["admin", "admin"] }).1 = .ok construct :=
  ⟨((creation _ _ _).built_iff_of_empty rfl rfl).mpr (by decide),
    fun built => absurd (((creation _ _ _).built_iff_of_empty rfl rfl).mp built) (by decide)⟩

end AuthConstruct

end CloudSynth
