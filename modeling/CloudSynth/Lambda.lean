import CloudSynth.Iam.Policy
import CloudSynth.Tags

/-!
# Deployed functions

A function that is deployed runs under a role and reads its environment.
-/

namespace CloudSynth

/-- A deployed function. -/
structure Lambda where
  name : String
  arn : String
  role : Role
  environment : SortedMap String
  tags : Tags

namespace Lambda

/-- A function with an empty environment. -/
def new (name arn : String) (role : Role) : Lambda := ⟨name, arn, role, {}, {}⟩

instance : Inhabited Lambda := ⟨new "" "" (.new "" "")⟩

/-- Sets an environment variable. -/
def setVariable (function : Lambda) (name value : String) : Lambda :=
  { function with environment := function.environment.insert name value }

/-- The value of an environment variable. -/
def valueOf? (function : Lambda) (name : String) : Option String :=
  function.environment.find? name

/-- Attaches a policy to the function's role. -/
def attach (function : Lambda) (issued : IssuedPolicy) : Lambda :=
  { function with role := function.role.attach issued }

end Lambda

end CloudSynth
