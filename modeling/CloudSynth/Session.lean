import CloudSynth.Collection.OrderedMap
import CloudSynth.Error

/-!
# Build sessions

A session counts the definitions of every kind of resource made for one build, so that a kind that
may be defined once is refused the second time. Sessions know nothing of each other.
-/

namespace CloudSynth

/-- A kind of resource that may be defined once, and what the user reads otherwise. -/
structure SingletonKind where
  name : String
  message : String
  resolution : String
  deriving DecidableEq, Repr

/-- The number of definitions of each kind. -/
structure Session where
  counts : OrderedMap String Nat

namespace Session

/-- A session without definitions. -/
def new : Session := ⟨{}⟩

instance : Inhabited Session := ⟨new⟩

/-- The number of definitions of a kind. -/
def count (session : Session) (kind : String) : Nat := (session.counts.find? kind).getD 0

/-- The session with one more definition of a kind. -/
def define (session : Session) (kind : String) : Session :=
  ⟨session.counts.insert kind (session.count kind + 1)⟩

/-- Counts a definition of a singleton kind; it is counted even when it is refused. -/
def defineSingleton (session : Session) (kind : SingletonKind) :
    Except BackendError Unit × Session :=
  (if 0 < session.count kind.name then
      .error (.multipleSingletons kind.message kind.resolution)
    else .ok (),
    session.define kind.name)

end Session

end CloudSynth
