import CloudSynth.Auth.Action
import CloudSynth.Data.Action
import CloudSynth.Document.Basic
import CloudSynth.Parameter

/-!
# Documents about access

Statements, parameters that are handed over, and grants. Whom a grant is for is read by a reader of
references that is passed on.
-/

namespace CloudSynth

/-- A statement. -/
def Statement.ofDocument (value : Json) : Statement :=
  .allow (value.textsOf "actions") (value.textsOf "resources")

/-- Parameters by name and path. -/
def ParameterEntry.listOfDocument (value : Json) (name : String) : List ParameterEntry :=
  (value.textPairsOf name).map fun pair => ⟨pair.1, pair.2⟩

/-- An auth action by its name. -/
def AuthAction.ofDocument (value : Json) : Reading AuthAction :=
  match AuthAction.ofName? value.plainText with
  | some action => .ok action
  | none => .error (.unknownAction value.plainText)

/-- A data action, which is a choice like any other. -/
def DataAction.ofDocument (value : Json) : Reading DataAction := value.choice DataAction.ofName?

namespace Grant

variable {ρ α : Type} [DecidableEq α] [ActionVocabulary α]

/-- A grant, with a reader of the listed actions; without a list it grants the default ones. -/
def ofDocument (reference : Json → ρ) (actions : List Json → Reading (List α)) (value : Json) :
    Reading (Grant ρ α) :=
  let base : Grant ρ α := .ofGrantee (reference (value.entry "to"))
  match (value.entry "actions").asList? with
  | none => .ok base
  | some values => (actions values).map base.choosing

/-- The grants of a resource, if there is a list of them. -/
def listOfDocument? (reference : Json → ρ) (actions : List Json → Reading (List α))
    (value : Json) : Reading (Option (List (Grant ρ α))) :=
  match (value.entry "access").asList? with
  | none => .ok none
  | some values => (values.mapM (ofDocument reference actions)).map some

end Grant

end CloudSynth
