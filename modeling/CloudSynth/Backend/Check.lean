import CloudSynth.Collection.OrderedMap
import CloudSynth.DefinitionSite
import CloudSynth.ResourceName

/-!
# Checks on definitions

A backend may check where resources are defined and how they are named. A recording check lets
everything pass, or refuses everything, and notes what it was asked in the journal.
-/

namespace CloudSynth

/-- What a recording check of definition sites was asked. -/
structure Verification where
  site : DefinitionSite
  expected : String
  message : String
  deriving DecidableEq, Repr

/-- What checks were asked and how often stub functions were built. -/
structure Journal where
  verified : List Verification
  validated : List String
  /-- The number of runs by stub function. -/
  generations : OrderedMap Nat Nat

namespace Journal

/-- The journal without notes. -/
def empty : Journal := ⟨[], [], {}⟩

instance : Inhabited Journal := ⟨empty⟩

/-- How often a stub function was built. -/
def generationsOf (journal : Journal) (factory : Nat) : Nat :=
  (journal.generations.find? factory).getD 0

/-- The journal with one more run of a stub function. -/
def noteGeneration (journal : Journal) (factory : Nat) : Journal :=
  let generations := journal.generations.insert factory (journal.generationsOf factory + 1)
  { journal with generations }

end Journal

/-- How definition sites are checked. -/
inductive SiteCheck
  /-- By the file that convention gives to the resource. -/
  | conventional
  | recording
  deriving DecidableEq, Repr

namespace SiteCheck

/-- Checks a definition site. -/
def verify (check : SiteCheck) (site : DefinitionSite) (expected message : String)
    (journal : Journal) : Except BackendError Unit × Journal :=
  match check with
  | .conventional => (site.verify expected message, journal)
  | .recording =>
    (.ok (), { journal with verified := journal.verified ++ [⟨site, expected, message⟩] })

end SiteCheck

/-- How resource names are checked. -/
inductive NameCheck
  /-- By the characters that names may have. -/
  | standard
  | recording
  | rejecting
  deriving DecidableEq, Repr

namespace NameCheck

/-- Checks a resource name. -/
def validate (check : NameCheck) (name : String) (journal : Journal) :
    Except BackendError Unit × Journal :=
  let noted := { journal with validated := journal.validated ++ [name] }
  match check with
  | .standard => (ResourceName.validate name, journal)
  | .recording => (.ok (), noted)
  | .rejecting => (.error (.invalidResourceName name "rejected by stub"), noted)

end NameCheck

end CloudSynth
