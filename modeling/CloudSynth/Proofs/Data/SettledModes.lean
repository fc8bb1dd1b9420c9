import Mathlib.Data.List.Nodup
import CloudSynth.Data.Authorization

/-!
# Settled authorization modes

Settled modes enable exactly what is available (`AuthorizationSettings.enables_iff`), and settling
fails in four cases only (`AuthorizationSettings.settle_eq_error`). A default that is inferred is
available, so only one that is given can lack what it authorizes by.
-/

namespace CloudSynth

namespace AuthorizationSettings

variable {ρ : Type} {settings : AuthorizationSettings ρ} {hasAuth : Bool} {modes : SettledModes}
  {fault : DataFault}

/-! ## Modes that settings are given for -/

theorem mem_configured {mode : AuthorizationMode} :
    mode ∈ settings.configured ↔ (mode = .apiKey ∧ settings.apiKey.isSome = true) ∨
      (mode = .oidc ∧ settings.oidc.isSome = true) ∨
      (mode = .lambda ∧ settings.authorizer.isSome = true) := by
  simp [configured, and_comm]

theorem isAvailable_iff {mode : AuthorizationMode} :
    settings.isAvailable hasAuth mode = true ↔
      match mode with
      | .apiKey => settings.apiKey.isSome = true
      | .userPool => hasAuth = true
      | .iam => True
      | .oidc => settings.oidc.isSome = true
      | .lambda => settings.authorizer.isSome = true := by
  cases mode <;> simp [isAvailable, mem_configured]

/-! ## Settling -/

/-- A mode can be the default if it is available; requests by key need no settings. -/
theorem checkDefault_eq_ok {mode : AuthorizationMode} :
    settings.checkDefault hasAuth mode = .ok () ↔
      mode = .apiKey ∨ settings.isAvailable hasAuth mode = true := by
  rw [isAvailable_iff]
  cases mode <;> simp [checkDefault, Option.isSome_iff_ne_none]

/-- The default that is settled where none is given is available. -/
theorem isAvailable_of_inferred {mode : AuthorizationMode} (notGiven : settings.defaultMode = none)
    (settled : settings.settledDefault hasAuth = .ok mode) :
    settings.isAvailable hasAuth mode = true := by
  rw [settledDefault, notGiven] at settled
  cases isConfigured : settings.configured with
  | nil =>
      rw [isConfigured] at settled
      cases settled
      cases hasAuth <;> simp [isAvailable]
  | cons first rest =>
      cases rest with
      | nil =>
          rw [isConfigured] at settled
          cases settled
          simp [isAvailable, isConfigured]
      | cons =>
          rw [isConfigured] at settled
          cases settled

theorem settle_eq_ok :
    settings.settle hasAuth = .ok modes ↔
      settings.settledDefault hasAuth = .ok modes.defaultMode ∧
        settings.checkDefault hasAuth modes.defaultMode = .ok () ∧
        modes.additionalModes = AuthorizationMode.every.filter fun mode =>
          settings.isAvailable hasAuth mode && mode ≠ modes.defaultMode := by
  simp only [settle, bind_eq_ok]
  constructor
  · rintro ⟨_, settled, _, passes, ⟨⟩⟩
    exact ⟨settled, passes, rfl⟩
  · rintro ⟨settled, passes, additional⟩
    refine ⟨_, settled, (), passes, ?_⟩
    rw [← additional]
    rfl

theorem settledDefault_eq_error :
    settings.settledDefault hasAuth = .error fault ↔
      settings.defaultMode = none ∧ 2 ≤ settings.configured.length ∧
        fault = .defaultModeMissing := by
  unfold settledDefault
  cases settings.defaultMode with
  | some mode => simp
  | none => rcases settings.configured with _ | ⟨first, _ | ⟨second, rest⟩⟩ <;> simp [eq_comm]

theorem checkDefault_eq_error {mode : AuthorizationMode} :
    settings.checkDefault hasAuth mode = .error fault ↔
      (mode = .userPool ∧ hasAuth = false ∧ fault = .userPoolMissing) ∨
      (mode = .oidc ∧ settings.oidc.isSome = false ∧ fault = .oidcMissing) ∨
      (mode = .lambda ∧ settings.authorizer.isSome = false ∧ fault = .authorizerMissing) := by
  have refused : ∀ (given : Bool) (missing : DataFault),
      (if given = true then (.ok () : Except DataFault Unit) else .error missing) = .error fault ↔
        given = false ∧ fault = missing := by
    intro given missing
    cases given with
    | true => simp
    | false => simpa using eq_comm
  cases mode with
  | apiKey | iam => simp [checkDefault]
  | userPool | oidc | lambda => simp only [checkDefault, refused]; simp

/-- Settling fails if several modes are configured and none is the default, or if the default is
given and what it authorizes by is not there. -/
theorem settle_eq_error :
    settings.settle hasAuth = .error fault ↔
      (settings.defaultMode = none ∧ 2 ≤ settings.configured.length ∧
        fault = .defaultModeMissing) ∨
      (settings.defaultMode = some .userPool ∧ hasAuth = false ∧ fault = .userPoolMissing) ∨
      (settings.defaultMode = some .oidc ∧ settings.oidc.isSome = false ∧ fault = .oidcMissing) ∨
      (settings.defaultMode = some .lambda ∧ settings.authorizer.isSome = false ∧
        fault = .authorizerMissing) := by
  have stages : settings.settle hasAuth = .error fault ↔
      settings.settledDefault hasAuth = .error fault ∨ ∃ mode,
        settings.settledDefault hasAuth = .ok mode ∧
          settings.checkDefault hasAuth mode = .error fault := by
    simp [settle, bind_eq_error, pure, Except.pure]
  rw [stages, settledDefault_eq_error]
  refine or_congr Iff.rfl ?_
  have given : (∃ mode, settings.settledDefault hasAuth = .ok mode ∧
        settings.checkDefault hasAuth mode = .error fault) ↔
      ∃ mode, settings.defaultMode = some mode ∧
        settings.checkDefault hasAuth mode = .error fault := by
    refine exists_congr fun mode => and_congr_left fun refused => ?_
    constructor
    · intro settled
      cases isGiven : settings.defaultMode with
      | none =>
          have available := isAvailable_of_inferred isGiven settled
          rw [checkDefault_eq_ok.mpr (Or.inr available)] at refused
          cases refused
      | some other =>
          rw [settledDefault, isGiven] at settled
          cases settled
          rfl
    · intro isGiven
      rw [settledDefault, isGiven]
  rw [given]
  constructor
  · rintro ⟨mode, isGiven, refused⟩
    rcases checkDefault_eq_error.mp refused with ⟨rfl, rest⟩ | ⟨rfl, rest⟩ | ⟨rfl, rest⟩
    · exact Or.inl ⟨isGiven, rest⟩
    · exact Or.inr (Or.inl ⟨isGiven, rest⟩)
    · exact Or.inr (Or.inr ⟨isGiven, rest⟩)
  · rintro (⟨isGiven, rest⟩ | ⟨isGiven, rest⟩ | ⟨isGiven, rest⟩)
    · exact ⟨_, isGiven, checkDefault_eq_error.mpr (Or.inl ⟨rfl, rest⟩)⟩
    · exact ⟨_, isGiven, checkDefault_eq_error.mpr (Or.inr (Or.inl ⟨rfl, rest⟩))⟩
    · exact ⟨_, isGiven, checkDefault_eq_error.mpr (Or.inr (Or.inr ⟨rfl, rest⟩))⟩

/-! ## Settled modes -/

section Settled

variable (settled : settings.settle hasAuth = .ok modes)

include settled

theorem default_not_mem_additional : modes.defaultMode ∉ modes.additionalModes := by
  rw [(settle_eq_ok.mp settled).2.2]
  simp

theorem nodup_additional : modes.additionalModes.Nodup := by
  rw [(settle_eq_ok.mp settled).2.2]
  exact List.Nodup.filter _ (by decide)

/-- Apart from a key, which need not be described, a mode is enabled exactly if it is available. -/
theorem enables_iff {mode : AuthorizationMode} (other : mode ≠ .apiKey) :
    modes.enables mode = true ↔ settings.isAvailable hasAuth mode = true := by
  have additional := (settle_eq_ok.mp settled).2.2
  by_cases isDefault : modes.defaultMode = mode
  · subst isDefault
    have available := checkDefault_eq_ok.mp (settle_eq_ok.mp settled).2.1
    simp [SettledModes.enables, available.resolve_left other]
  · have every : mode ∈ AuthorizationMode.every := by cases mode <;> decide
    have different : mode ≠ modes.defaultMode := fun same => isDefault same.symm
    simp [SettledModes.enables, isDefault, additional, every, different]

/-- Signed requests are always possible. -/
theorem enables_iam : modes.enables .iam = true := by
  rw [enables_iff settled (by decide), isAvailable_iff]
  trivial

end Settled

end AuthorizationSettings

end CloudSynth
