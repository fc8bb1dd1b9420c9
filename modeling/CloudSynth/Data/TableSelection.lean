import CloudSynth.Data.Fault
import CloudSynth.Data.Settings
import CloudSynth.Identifier

/-!
# Tables to adopt

Tables of a former deployment are listed by branch. A sandbox adopts those listed under its own
name for sandboxes, a branch those listed under the name of the branch.
-/

namespace CloudSynth.TableMapping

/-- The name that sandboxes are listed under. -/
def sandboxBranch : String := "sandbox"

/-- The name that a backend's tables are listed under. -/
def branchOf (identifier : BackendIdentifier) : String :=
  match identifier.kind with
  | .sandbox => sandboxBranch
  | .branch => identifier.name

/-- No branch is listed twice. -/
def branchesDistinct (mappings : List TableMapping) : Bool :=
  decide (mappings.map (·.branchName)).Nodup

/-- The tables that a backend adopts. -/
def select (mappings : List TableMapping) (identifier : BackendIdentifier) :
    Except DataFault (SortedMap String) :=
  if branchesDistinct mappings then
    .ok (((mappings.find? (·.branchName = branchOf identifier)).bind (·.tables)).getD {})
  else .error .branchRepeated

end CloudSynth.TableMapping
