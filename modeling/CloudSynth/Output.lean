import CloudSynth.Json.TextList

/-!
# Backend outputs

The outputs are the only record of what a synthesis has built that later steps see. An entry has a
version and named texts; a text may itself be a written list, to which values are appended.
-/

namespace CloudSynth

/-- Named texts with a version. -/
structure OutputEntry where
  version : String
  payload : SortedMap String
  deriving DecidableEq

namespace OutputEntry

/-- The entry of the given fields; of two fields with one name the later counts. -/
def ofFields (version : String) (fields : List (String × String)) : OutputEntry :=
  ⟨version, SortedMap.ofList fields⟩

end OutputEntry

/-- The key of the auth outputs. -/
def authOutputKey : String := "AWS::Amplify::Auth"

/-- The key of the GraphQL outputs. -/
def graphqlOutputKey : String := "AWS::Amplify::GraphQL"

/-- The key of the function outputs. -/
def functionOutputKey : String := "AWS::Amplify::Function"

/-- The output entries by key. -/
structure OutputStorage where
  entries : SortedMap OutputEntry

namespace OutputStorage

/-- The storage without entries. -/
def empty : OutputStorage := ⟨{}⟩

instance : Inhabited OutputStorage := ⟨empty⟩

/-- The entry of a key. -/
def find? (storage : OutputStorage) (key : String) : Option OutputEntry :=
  storage.entries.find? key

/-- The keys that have an entry. -/
def keys (storage : OutputStorage) : List String := storage.entries.keys

/-- Stores an entry in place of an older one. -/
def store (storage : OutputStorage) (key : String) (entry : OutputEntry) : OutputStorage :=
  ⟨storage.entries.insert key entry⟩

/-- The list written in a field; an absent field stands for the empty list. -/
def listIn (payload : SortedMap String) (field : String) : List String :=
  match payload.find? field with
  | some written => Json.decodeTexts written
  | none => []

/-- Appends a value to the list written in a field. -/
def appendTo (payload : SortedMap String) (field value : String) : SortedMap String :=
  payload.insert field (Json.encodeTexts (listIn payload field ++ [value]))

/-- Appends every value of an entry to the list in the field of its name. -/
def append (storage : OutputStorage) (key : String) (entry : OutputEntry) : OutputStorage :=
  let payload := match storage.find? key with
    | some stored => stored.payload
    | none => {}
  storage.store key ⟨entry.version,
    entry.payload.entries.foldl (fun payload field => appendTo payload field.1 field.2) payload⟩

/-- The list in a field of an entry. -/
def list (storage : OutputStorage) (key field : String) : List String :=
  match storage.find? key with
  | some entry => listIn entry.payload field
  | none => []

end OutputStorage

end CloudSynth
