import CloudSynth.Error

/-!
# Resource names

Which names users may give to their resources.
-/

namespace CloudSynth.ResourceName

/-- A letter, a digit, an underscore or a hyphen. -/
def isAllowed (character : Char) : Bool :=
  character.isAlphanum || character = '_' || character = '-'

/-- The name is not empty and has allowed characters only. -/
def isValid (name : String) : Bool := !name.toList.isEmpty && name.toList.all isAllowed

/-- Refuses a name that is not allowed. -/
def validate (name : String) : Except BackendError Unit :=
  if isValid name then .ok ()
  else .error (.invalidResourceName name "only alphanumeric characters, `_` and `-` are allowed")

end CloudSynth.ResourceName
