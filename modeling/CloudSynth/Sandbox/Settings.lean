import CloudSynth.Toml.Reader

/-!
# Sandbox settings

The only setting is the quiet period, in milliseconds, before a queued deploy starts.
-/

namespace CloudSynth

/-- The settings of a sandbox. -/
structure SandboxSettings where
  /-- The quiet period; without one a deploy starts at once. -/
  debounce : Nat
  deriving DecidableEq, Repr

namespace SandboxSettings

/-- No quiet period. -/
def default : SandboxSettings := ⟨0⟩

instance : Inhabited SandboxSettings := ⟨default⟩

/-- One more than the longest quiet period. -/
def debounceBound : Nat := Json.bound64

/-- Reads the settings; the quiet period may be missing. -/
def ofJson? (value : Json) : Option SandboxSettings :=
  (value.defaultField "debounce_ms" default.debounce (Json.asNatural? debounceBound)).map .mk

/-- Reads a settings document. -/
def read? (document : String) : Option SandboxSettings := (Toml.read? document).bind ofJson?

/-- The settings with the longest quiet period that is not longer than the given one. -/
def withDebounce (milliseconds : Nat) : SandboxSettings :=
  ⟨min milliseconds (debounceBound - 1)⟩

/-- The quiet period, if there is one. -/
def window (settings : SandboxSettings) : Option Nat :=
  if settings.debounce = 0 then none else some settings.debounce

end SandboxSettings

end CloudSynth
