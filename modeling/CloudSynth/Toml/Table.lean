import CloudSynth.Json.Basic

/-!
# Tables of a configuration document

A document is built from statements: headers open a table or append one to an array of tables, and
assignments put a value under a dotted key of the open table. What a table may still receive depends
on how it came to be.
-/

namespace CloudSynth.Toml

/-- How a table came to be. -/
inductive Origin
  /-- It was named on the way to another table. -/
  | implied
  /-- It was opened by a header of its own. -/
  | opened
  /-- It was named on the way to an assigned key. -/
  | dotted
  deriving DecidableEq

/-- What stands under a key. -/
inductive Node
  | value (value : Json)
  | table (origin : Origin) (entries : List (String × Node))
  | tables (items : List (List (String × Node)))

/-- The keys of a table with what stands under them. -/
abbrev Entries := List (String × Node)

/-- What stands under a key. -/
def Entries.find? (entries : Entries) (key : String) : Option Node :=
  (List.find? (·.1 = key) entries).map (·.2)

/-- Puts a node under a key, in place of an older one. -/
def Entries.put (entries : Entries) (key : String) (node : Node) : Entries :=
  match entries with
  | [] => [(key, node)]
  | entry :: rest =>
    if entry.1 = key then (key, node) :: rest else entry :: Entries.put rest key node

/-- Changes the table that a header's path leads to. On the way, missing tables are implied and the
latest table of an array is entered. -/
def Entries.changeAt (change : Entries → Option Entries) : List String → Entries → Option Entries
  | [], entries => change entries
  | key :: path, entries =>
    match entries.find? key with
    | none => (changeAt change path []).map fun inner => entries.put key (.table .implied inner)
    | some (.table origin inner) =>
      (changeAt change path inner).map fun inner => entries.put key (.table origin inner)
    | some (.tables items) =>
      match items.getLast? with
      | none => none
      | some latest =>
        (changeAt change path latest).map fun latest =>
          entries.put key (.tables (items.dropLast ++ [latest]))
    | some (.value _) => none

/-- Opens the table of a header: a table may be opened once, also when it was implied before. -/
def Entries.openTable (key : String) (entries : Entries) : Option Entries :=
  match entries.find? key with
  | none => some (entries.put key (.table .opened []))
  | some (.table .implied inner) => some (entries.put key (.table .opened inner))
  | _ => none

/-- Appends a table to an array of tables. -/
def Entries.appendTable (key : String) (entries : Entries) : Option Entries :=
  match entries.find? key with
  | none => some (entries.put key (.tables [[]]))
  | some (.tables items) => some (entries.put key (.tables (items ++ [[]])))
  | _ => none

/-- Puts a value under a dotted key that is still free. On the way, missing tables are made, implied
ones are passed and the latest table of an array is entered; a table with a header of its own is
closed to dotted keys. The table that receives the value must be `ready` for it: the open table
itself, or one that dotted keys have made. -/
def Entries.assignWhen (value : Json) : Bool → List String → Entries → Option Entries
  | _, [], _ => none
  | ready, [key], entries =>
    match ready, entries.find? key with
    | true, none => some (entries.put key (.value value))
    | _, _ => none
  | _, key :: path, entries =>
    match entries.find? key with
    | none =>
      (assignWhen value true path []).map fun inner => entries.put key (.table .dotted inner)
    | some (.table .dotted inner) =>
      (assignWhen value true path inner).map fun inner => entries.put key (.table .dotted inner)
    | some (.table .implied inner) =>
      (assignWhen value false path inner).map fun inner => entries.put key (.table .implied inner)
    | some (.tables items) =>
      match items.getLast? with
      | none => none
      | some latest =>
        (assignWhen value false path latest).map fun latest =>
          entries.put key (.tables (items.dropLast ++ [latest]))
    | some (.table .opened _) => none
    | some (.value _) => none

/-- Puts a value under a dotted key of the open table. -/
def Entries.assign (value : Json) (path : List String) (entries : Entries) : Option Entries :=
  entries.assignWhen value true path

mutual

/-- The value that a node stands for. -/
def Node.toJson : Node → Json
  | .value value => value
  | .table _ entries => .object (fieldsOf entries)
  | .tables items => .list (objectsOf items)

/-- The values of all entries. -/
def fieldsOf : List (String × Node) → List (String × Json)
  | [] => []
  | (key, node) :: rest => (key, node.toJson) :: fieldsOf rest

/-- The tables of an array as objects. -/
def objectsOf : List (List (String × Node)) → List Json
  | [] => []
  | entries :: rest => .object (fieldsOf entries) :: objectsOf rest

end

/-- A statement of a document. -/
inductive Statement
  | header (path : List String)
  | arrayHeader (path : List String)
  | assignment (path : List String) (value : Json)

/-- The tables read so far and the path of the open one. -/
structure Document where
  entries : Entries
  current : List String

/-- The document after one more statement. -/
def Document.apply? (document : Document) : Statement → Option Document
  | .header path =>
    match path.getLast? with
    | none => none
    | some key =>
      (document.entries.changeAt (·.openTable key) path.dropLast).map fun entries =>
        ⟨entries, path⟩
  | .arrayHeader path =>
    match path.getLast? with
    | none => none
    | some key =>
      (document.entries.changeAt (·.appendTable key) path.dropLast).map fun entries =>
        ⟨entries, path⟩
  | .assignment path value =>
    (document.entries.changeAt (·.assign value path) document.current).map fun entries =>
      { document with entries }

end CloudSynth.Toml
