import CloudSynth.Data.Fault
import CloudSynth.Data.Settings

/-!
# Authorization modes

The modes of an API are settled against what the backend has: the default mode, and the others that
are enabled beside it. Signed requests are always possible, and user pool tokens as soon as the
backend has an auth resource.
-/

namespace CloudSynth

/-- The default mode and the other enabled modes. -/
structure SettledModes where
  defaultMode : AuthorizationMode
  additionalModes : List AuthorizationMode
  deriving DecidableEq, Repr

namespace SettledModes

/-- The mode is enabled. -/
def enables (modes : SettledModes) (mode : AuthorizationMode) : Bool :=
  modes.defaultMode = mode || mode ∈ modes.additionalModes

end SettledModes

namespace AuthorizationSettings

variable {ρ : Type}

/-- The default mode: the given one, the only one configured, or what the backend suggests. -/
def settledDefault (settings : AuthorizationSettings ρ) (hasAuth : Bool) :
    Except DataFault AuthorizationMode :=
  match settings.defaultMode, settings.configured with
  | some mode, _ => .ok mode
  | none, [] => .ok (if hasAuth then .userPool else .iam)
  | none, [mode] => .ok mode
  | none, _ => .error .defaultModeMissing

/-- The default mode needs what it authorizes by. -/
def checkDefault (settings : AuthorizationSettings ρ) (hasAuth : Bool) :
    AuthorizationMode → Except DataFault Unit
  | .userPool => if hasAuth then .ok () else .error .userPoolMissing
  | .oidc => if settings.oidc.isSome then .ok () else .error .oidcMissing
  | .lambda => if settings.authorizer.isSome then .ok () else .error .authorizerMissing
  | .apiKey => .ok ()
  | .iam => .ok ()

/-- The mode is configured, always there, or there because of the auth resource. -/
def isAvailable (settings : AuthorizationSettings ρ) (hasAuth : Bool) (mode : AuthorizationMode) :
    Bool :=
  mode ∈ settings.configured || mode = .iam || (hasAuth && mode = .userPool)

/-- The settled modes. -/
def settle (settings : AuthorizationSettings ρ) (hasAuth : Bool) :
    Except DataFault SettledModes := do
  let defaultMode ← settings.settledDefault hasAuth
  settings.checkDefault hasAuth defaultMode
  return ⟨defaultMode, AuthorizationMode.every.filter fun mode =>
    settings.isAvailable hasAuth mode && mode ≠ defaultMode⟩

/-- How long the key is valid, if requests are authorized by a key. -/
def apiKeyDays (settings : AuthorizationSettings ρ) (modes : SettledModes) : Option Nat :=
  if modes.enables .apiKey then some (settings.apiKey.getD .default).expiresInDays else none

end AuthorizationSettings

end CloudSynth
