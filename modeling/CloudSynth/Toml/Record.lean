import CloudSynth.Json.Basic

/-!
# Records and choices in configuration documents

How settings are written in a configuration document: a record as a table or as a list of its
values, a choice as its name or as a table whose only key is the name.
-/

namespace CloudSynth.Toml

/-- A record, given by its fields or by their values in order; values beyond the last field are
ignored. -/
def asRecord? (names : List String) : Json → Option Json
  | .object fields => some (.object fields)
  | .list items => some (.object (names.zip items))
  | _ => none

/-- The name of a variant: a text, or the only key of a table, with nothing in the table or list
under it. -/
def asVariant? : Json → Option String
  | .text name => some name
  | .object [(name, .object [])] => some name
  | .object [(name, .list [])] => some name
  | _ => none

end CloudSynth.Toml
