import CloudSynth.Collection.SortedMap
import CloudSynth.Error

/-!
# User pools

A user pool calls handlers on events of its users' lives. An event has at most one handler, and
attaching one never touches the handlers of other events.
-/

namespace CloudSynth

/-- A user pool whose handlers are of type `φ`. -/
structure UserPool (φ : Type) where
  id : String
  arn : String
  triggers : SortedMap φ
  keyArn : Option String

namespace UserPool

variable {φ : Type}

/-- A user pool without handlers. -/
def new (id arn : String) : UserPool φ := ⟨id, arn, {}, none⟩

instance : Inhabited (UserPool φ) := ⟨new "" ""⟩

/-- Attaches a handler to an event that has none. -/
def addTrigger (pool : UserPool φ) (event : String) (handler : φ) :
    Except ConstructError (UserPool φ) :=
  if pool.triggers.contains event then .error (.duplicateTrigger event pool.id)
  else .ok { pool with triggers := pool.triggers.insert event handler }

/-- The handler of an event. -/
def trigger? (pool : UserPool φ) (event : String) : Option φ := pool.triggers.find? event

/-- Sets the key that codes are encrypted with, if one is given. -/
def withKey (pool : UserPool φ) (keyArn : Option String) : UserPool φ :=
  match keyArn with
  | some arn => { pool with keyArn := some arn }
  | none => pool

end UserPool

end CloudSynth
