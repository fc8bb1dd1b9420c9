import CloudSynth.Proofs.Backend.Functions
import CloudSynth.Proofs.Text.Joined

/-!
# Registration of functions

The logical ids of a function's resources are its name, followed by what the resource is and, for a
schedule, by a number (`ResolvedFunction.labels`). An id determines all three parts, so functions of
different names do not collide, and two functions of one name collide in their first resource. A
function is therefore registered as a whole or not at all.
-/

namespace CloudSynth

namespace ResolvedFunction

/-! ## Logical ids -/

/-- What follows the name of a function in a logical id, without a number. -/
def stems : List String := ["lambdaServiceRole", "lambda", "schedule", "LogRetention"]

/-- What follows the name of the function in its logical ids: a stem, and the digits of a number. -/
def labels (resolved : ResolvedFunction) : List (String × List Char) :=
  [("lambdaServiceRole", []), ("lambda", [])] ++
  (List.range resolved.schedules.length).map (fun index => ("schedule", Nat.toDigits 10 index)) ++
  (if resolved.logging.retention.isSome then [("LogRetention", [])] else [])

/-- The logical id of a label. -/
def labelled (name : String) (label : String × List Char) : String :=
  name ++ label.1 ++ String.ofList label.2

theorem logicalIds_eq (resolved : ResolvedFunction) :
    resolved.registrations.map (·.logicalId) = resolved.labels.map (labelled resolved.name) := by
  have number : ∀ index : Nat, toString index = String.ofList (Nat.toDigits 10 index) :=
    fun index => by rw [Nat.toString_eq_repr, Nat.repr_eq_ofList_toDigits]
  unfold registrations labels
  split <;> simp [labelled, roleName, number]

/-- The label of a resource: a stem, and nothing but digits. -/
structure IsLabel (label : String × List Char) : Prop where
  stem : label.1 ∈ stems
  digits : ∀ digit ∈ label.2, digit.isDigit

theorem isLabel_of_mem {resolved : ResolvedFunction} {label : String × List Char}
    (label_mem : label ∈ resolved.labels) : IsLabel label := by
  have fixed : ∀ stem ∈ stems, IsLabel (stem, []) := fun stem stem_mem => ⟨stem_mem, by simp⟩
  simp only [labels, List.mem_append, List.mem_cons, List.not_mem_nil, or_false, List.mem_map]
    at label_mem
  rcases label_mem with ((rfl | rfl) | ⟨index, _, rfl⟩) | last
  · exact fixed _ (by decide)
  · exact fixed _ (by decide)
  · exact ⟨by simp [stems], fun digit digit_mem =>
      Nat.isDigit_of_mem_toDigits (by decide) (by decide) digit_mem⟩
  · split at last
    · rw [List.mem_singleton.mp last]
      exact fixed _ (by decide)
    · cases last

/-- The last three letters tell the stems apart. -/
theorem eq_of_append_stem {first second name other : String} (isFirst : first ∈ stems)
    (isSecond : second ∈ stems) (same : name ++ first = other ++ second) :
    name = other ∧ first = second := by
  have long : ∀ stem ∈ stems, 3 ≤ stem.toList.length := by decide
  have apart : ∀ first ∈ stems, ∀ second ∈ stems,
      first.toList.reverse.take 3 = second.toList.reverse.take 3 → first = second := by decide
  exact eq_of_append_ending long apart isFirst isSecond same

/-- The stems do not end in a digit, so the number of a label is that of the id. -/
theorem labelled_inj {name other : String} {first second : String × List Char}
    (isFirst : IsLabel first) (isSecond : IsLabel second)
    (same : labelled name first = labelled other second) : name = other ∧ first = second := by
  have ends : ∀ stem ∈ stems, EndsUnnumbered stem := by
    intro stem stem_mem
    simp only [stems, List.mem_cons, List.not_mem_nil, or_false] at stem_mem
    rcases stem_mem with rfl | rfl | rfl | rfl
    all_goals exact ⟨_, _, rfl, by decide⟩
  rcases append_digits_inj ((ends _ isFirst.stem).append name) ((ends _ isSecond.stem).append other)
    isFirst.digits isSecond.digits same with ⟨stemmed, digits⟩
  rcases eq_of_append_stem isFirst.stem isSecond.stem stemmed with ⟨named, stem⟩
  exact ⟨named, Prod.ext stem digits⟩

theorem nodup_labels (resolved : ResolvedFunction) : resolved.labels.Nodup := by
  have schedules : ((List.range resolved.schedules.length).map
      fun index => ("schedule", Nat.toDigits 10 index)).Nodup := by
    refine List.Nodup.map_on ?_ List.nodup_range
    intro first _ second _ same
    rw [← @Nat.ofDigitChars_ten_toDigits first, (Prod.mk.inj same).2, Nat.ofDigitChars_ten_toDigits]
  unfold labels
  split <;> simp [List.nodup_append', schedules]

theorem nodup_logicalIds (resolved : ResolvedFunction) :
    (resolved.registrations.map (·.logicalId)).Nodup := by
  rw [logicalIds_eq]
  refine List.Nodup.map_on ?_ resolved.nodup_labels
  intro first first_mem second second_mem same
  exact (labelled_inj (isLabel_of_mem first_mem) (isLabel_of_mem second_mem) same).2

/-- Functions that collide have the same name, and so the same role. -/
theorem roleName_eq_of_collision {first second : ResolvedFunction} {logicalId : String}
    (inFirst : logicalId ∈ first.registrations.map (·.logicalId))
    (inSecond : logicalId ∈ second.registrations.map (·.logicalId)) :
    first.roleName = second.roleName := by
  rw [logicalIds_eq, List.mem_map] at inFirst inSecond
  rcases inFirst with ⟨label, label_mem, rfl⟩
  rcases inSecond with ⟨other, other_mem, same⟩
  have named := (labelled_inj (isLabel_of_mem other_mem) (isLabel_of_mem label_mem) same).1
  rw [roleName, roleName, named]

end ResolvedFunction

namespace Blueprint

variable {blueprint : Blueprint} {factory : blueprint.Factory} {resolved : ResolvedFunction}

/-- The factory builds a function, and these are its settings. -/
def Defines (blueprint : Blueprint) (factory : blueprint.Factory) (resolved : ResolvedFunction) :
    Prop :=
  ∃ settings site, blueprint.definition factory = .function settings site ∧
    settings.resolve site = .ok resolved

theorem Defines.registrationsOf_eq (defines : blueprint.Defines factory resolved) :
    blueprint.registrationsOf factory = resolved.registrations := by
  rcases defines with ⟨settings, site, defined, resolves⟩
  simp [registrationsOf, defined, resolves, Except.toOption]

theorem listedName_eq_some_iff {name : String} :
    blueprint.listedName factory = some name ↔
      ∃ resolved, blueprint.Defines factory resolved ∧ resolved.name = name := by
  unfold listedName Defines
  cases blueprint.definition factory with
  | function settings site =>
      cases resolves : settings.resolve site with
      | ok resolved => simp [resolves, Except.toOption]
      | error fault => simp [resolves, Except.toOption]
  | stub name => simp
  | auth settings site => simp
  | data settings site => simp

theorem exists_defines_of_mem {logicalId : String}
    (there : logicalId ∈ blueprint.logicalIdsOf factory) :
    ∃ resolved, blueprint.Defines factory resolved := by
  unfold logicalIdsOf registrationsOf at there
  cases defined : blueprint.definition factory with
  | function settings site =>
      cases resolves : settings.resolve site with
      | ok resolved => exact ⟨resolved, settings, site, defined, resolves⟩
      | error fault => simp [defined, resolves, Except.toOption] at there
  | stub name => simp [defined] at there
  | auth settings site => simp [defined] at there
  | data settings site => simp [defined] at there

/-- Whoever takes a logical id of a function takes that of its role, and has its name. -/
theorem Built.exists_of_collision {container : BackendContainer} {built : List blueprint.Factory}
    (self : blueprint.Built container built) {logicalId : String}
    (there : logicalId ∈
      (container.state.stackSet.stackFor ResourceKind.function.group).resources.map (·.logicalId))
    (colliding : logicalId ∈ resolved.registrations.map (·.logicalId)) :
    ∃ other ∈ built, ∃ otherResolved, blueprint.Defines other otherResolved ∧
      otherResolved.roleName = resolved.roleName := by
  rw [self.stack, List.map_flatMap, List.mem_flatMap] at there
  rcases there with ⟨other, other_mem, there⟩
  rcases exists_defines_of_mem there with ⟨otherResolved, defines⟩
  exact ⟨other, other_mem, otherResolved, defines,
    ResolvedFunction.roleName_eq_of_collision (defines.registrationsOf_eq ▸ there) colliding⟩

/-- A function is registered as a whole, or its role is there already and nothing is registered. -/
theorem Built.register {container : BackendContainer} {built : List blueprint.Factory}
    (self : blueprint.Built container built) (resolved : ResolvedFunction) :
    (∃ after, (container.state.stackSet.stackFor ResourceKind.function.group).addAll
        resolved.registrations = (.ok (), after)) ∨
      (container.state.stackSet.stackFor ResourceKind.function.group).addAll
          resolved.registrations =
        (.error (.duplicateLogicalId resolved.roleName
            (container.state.stackSet.stackFor ResourceKind.function.group).name),
          container.state.stackSet.stackFor ResourceKind.function.group) := by
  by_cases taken :
      (container.state.stackSet.stackFor ResourceKind.function.group).has resolved.roleName
  · exact Or.inr (Stack.addAll_of_has taken _)
  · refine Or.inl ⟨_, Stack.addAll_eq_ok.mpr ⟨rfl, resolved.nodup_logicalIds, ?_⟩⟩
    intro logicalId there colliding
    rcases self.exists_of_collision there colliding with
      ⟨other, other_mem, otherResolved, defines, sameRole⟩
    apply taken
    rw [Stack.has_iff, self.stack, List.map_flatMap, List.mem_flatMap, ← sameRole]
    exact ⟨other, other_mem, defines.registrationsOf_eq ▸ List.mem_cons_self⟩

end Blueprint

end CloudSynth
