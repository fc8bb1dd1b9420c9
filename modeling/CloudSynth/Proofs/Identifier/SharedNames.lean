import CloudSynth.Proofs.Text.Joined
import CloudSynth.Secret

/-!
# Names that backends share

The root stack of a backend and the path of its parameters are named after the project and the name
of the backend, with a separator between them: a hyphen in the name of the stack, a slash in the
path. Projects and names may hold these separators themselves. So two backends of one kind can have
a root stack or the parameters in common: those where the project of one reaches over the separator
into the name of the other (`BackendIdentifier.ReachesOver`). Backends of different kinds have
neither in common, and no two backends have both.
-/

namespace CloudSynth

theorem DeploymentKind.eq_of_append_name {first second : DeploymentKind} {text other : String}
    (same : text ++ "-" ++ first.name = other ++ "-" ++ second.name) :
    text = other ∧ first = second := by
  have long : ∀ ending ∈ [sandbox.name, branch.name], 1 ≤ ending.toList.length := by decide
  have apart : ∀ first ∈ [sandbox.name, branch.name], ∀ second ∈ [sandbox.name, branch.name],
      first.toList.reverse.take 1 = second.toList.reverse.take 1 → first = second := by decide
  have isName : ∀ kind : DeploymentKind, kind.name ∈ [sandbox.name, branch.name] := by
    intro kind
    cases kind <;> decide
  rcases eq_of_append_ending long apart (isName first) (isName second) same with ⟨texts, names⟩
  refine ⟨(String.append_left_inj _).mp texts, ?_⟩
  revert names
  cases first <;> cases second <;> decide

namespace BackendIdentifier

/-- The backends are of one kind, and the project of the first one goes on beyond the separator into
what is the name of the second one. -/
structure ReachesOver (separator : String) (first second : BackendIdentifier) : Prop where
  kind : first.kind = second.kind
  texts : CloudSynth.ReachesOver separator first.project first.name second.project second.name

variable {first second : BackendIdentifier} {separator : String}

/-- A project that reaches over is the longer one. -/
theorem ReachesOver.length_lt (reaches : ReachesOver separator first second)
    (separates : 0 < separator.length) : second.project.length < first.project.length := by
  rcases reaches.texts with ⟨between, project, _⟩
  rw [project, String.length_append, String.length_append]
  omega

/-- The separator that a project reaches over stands at a place that the other project determines,
so it is the same for all separators of one character. -/
theorem ReachesOver.separator_eq {other : String} (reaches : ReachesOver separator first second)
    (reachesOther : ReachesOver other first second) (same : separator.length = other.length) :
    separator = other := by
  rcases reaches.texts with ⟨between, project, _⟩
  rcases reachesOther.texts with ⟨otherBetween, otherProject, _⟩
  have beyond := congrArg String.toList (project.symm.trans otherProject)
  simp only [String.toList_append, List.append_assoc, List.append_cancel_left_eq] at beyond
  exact String.toList_inj.mp (List.append_inj_left beyond same)

/-- The backends whose projects and names are the same when they are joined, and that are of one
kind. -/
theorem joined_eq_iff {character : Char} (single : separator = String.singleton character) :
    (first.project ++ separator ++ first.name = second.project ++ separator ++ second.name ∧
        first.kind = second.kind) ↔
      first = second ∨ ReachesOver separator first second ∨ ReachesOver separator second first := by
  rw [append_separator_eq_iff single]
  constructor
  · rintro ⟨⟨projects, names⟩ | reaches | reaches, kinds⟩
    · refine Or.inl ?_
      cases first
      cases second
      subst projects names kinds
      rfl
    · exact Or.inr (Or.inl ⟨kinds, reaches⟩)
    · exact Or.inr (Or.inr ⟨kinds.symm, reaches⟩)
  · rintro (rfl | ⟨kinds, reaches⟩ | ⟨kinds, reaches⟩)
    · exact ⟨Or.inl ⟨rfl, rfl⟩, rfl⟩
    · exact ⟨Or.inr (Or.inl reaches), kinds⟩
    · exact ⟨Or.inr (Or.inr reaches), kinds.symm⟩

theorem stackName_eq_iff :
    first.stackName = second.stackName ↔
      first = second ∨ ReachesOver "-" first second ∨ ReachesOver "-" second first := by
  rw [← @joined_eq_iff _ _ "-" '-' rfl]
  constructor
  · intro same
    rcases DeploymentKind.eq_of_append_name same with ⟨joined, kinds⟩
    simp only [String.append_assoc, String.append_right_inj] at joined
    exact ⟨by simpa only [String.append_assoc] using joined, kinds⟩
  · rintro ⟨joined, kinds⟩
    simp only [stackName, kinds, String.append_assoc] at joined ⊢
    simp only [← String.append_assoc, joined]

theorem parameterPath_eq_iff :
    first.parameterPath = second.parameterPath ↔
      first = second ∨ ReachesOver "/" first second ∨ ReachesOver "/" second first := by
  rw [← @joined_eq_iff _ _ "/" '/' rfl]
  constructor
  · exact DeploymentKind.eq_of_append_name
  · rintro ⟨joined, kinds⟩
    rw [parameterPath, parameterPath, joined, kinds]

/-- A secret is resolved from the same parameter exactly if the paths of the backends are the
same. -/
theorem secretToken_parameterPath_eq_iff (secret : Secret) :
    (first.secretToken secret).parameterPath = (second.secretToken secret).parameterPath ↔
      first.parameterPath = second.parameterPath := by
  simp [secretToken, String.append_left_inj, String.append_right_inj]

/-- A backend is determined by its root stack and the path of its parameters together. -/
theorem eq_of_stackName_of_parameterPath (roots : first.stackName = second.stackName)
    (paths : first.parameterPath = second.parameterPath) : first = second := by
  have single : (0 : Nat) < "-".length ∧ 0 < "/".length := by decide
  rcases stackName_eq_iff.mp roots with same | hyphen | hyphen
  · exact same
  · rcases parameterPath_eq_iff.mp paths with same | slash | slash
    · exact same
    · exact absurd (hyphen.separator_eq slash rfl) (by decide)
    · exact absurd (slash.length_lt single.2) (Nat.lt_asymm (hyphen.length_lt single.1))
  · rcases parameterPath_eq_iff.mp paths with same | slash | slash
    · exact same
    · exact absurd (slash.length_lt single.2) (Nat.lt_asymm (hyphen.length_lt single.1))
    · exact absurd (hyphen.separator_eq slash rfl) (by decide)

/-- Which backends have the root stack in common, and which ones the parameters and so the
secrets. -/
theorem shared_iff (first second : BackendIdentifier) :
    (first.stackName = second.stackName ↔
      first = second ∨ ReachesOver "-" first second ∨ ReachesOver "-" second first) ∧
    (first.parameterPath = second.parameterPath ↔
      first = second ∨ ReachesOver "/" first second ∨ ReachesOver "/" second first) ∧
    (∀ secret, (first.secretToken secret).parameterPath =
        (second.secretToken secret).parameterPath ↔
      first = second ∨ ReachesOver "/" first second ∨ ReachesOver "/" second first) ∧
    (first.stackName = second.stackName ∧ first.parameterPath = second.parameterPath ↔
      first = second) := by
  refine ⟨stackName_eq_iff, parameterPath_eq_iff, ?_, ?_⟩
  · intro secret
    rw [secretToken_parameterPath_eq_iff, parameterPath_eq_iff]
  · constructor
    · rintro ⟨roots, paths⟩
      exact eq_of_stackName_of_parameterPath roots paths
    · rintro rfl
      exact ⟨rfl, rfl⟩

/-- The project of one branch backend reaches over a hyphen into the name of another one, and over a
slash into the name of a third one. -/
theorem reaching_shares :
    let shop : BackendIdentifier := ⟨"orders-web/shop", "main", .branch⟩
    let orders : BackendIdentifier := ⟨"orders", "web/shop-main", .branch⟩
    let web : BackendIdentifier := ⟨"orders-web", "shop/main", .branch⟩
    (shop ≠ orders ∧ shop.stackName = orders.stackName) ∧
      (shop ≠ web ∧ shop.parameterPath = web.parameterPath ∧
        ∀ secret, (shop.secretToken secret).parameterPath =
          (web.secretToken secret).parameterPath) := by
  have paths : (⟨"orders-web/shop", "main", .branch⟩ : BackendIdentifier).parameterPath =
      (⟨"orders-web", "shop/main", .branch⟩ : BackendIdentifier).parameterPath := by decide
  exact ⟨by decide, by decide, paths, fun secret => by rw [secretToken, secretToken, paths]⟩

end BackendIdentifier

end CloudSynth
