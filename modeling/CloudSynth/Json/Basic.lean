import CloudSynth.Collection.SortedMap

/-!
# Structured values

The values that settings are read from and documents are made of. A number is an integer or keeps
the digits it was written with, because no setting here is anything but an integer.
-/

namespace CloudSynth

/-- A structured value. -/
inductive Json
  | null
  | boolean (value : Bool)
  | integer (value : Int)
  | decimal (literal : String)
  | text (value : String)
  | list (items : List Json)
  | object (fields : List (String × Json))
  deriving Inhabited

namespace Json

/-- The object with the given names in ascending order. -/
def ofMap (map : SortedMap Json) : Json := .object map.entries

/-- The object of all the pairs, with its names in ascending order. -/
def record (fields : List (String × Json)) : Json := ofMap (SortedMap.ofList fields)

/-- The list of texts. -/
def texts (values : List String) : Json := .list (values.map .text)

/-- The value, or null. -/
def optional {α : Type} (encode : α → Json) : Option α → Json
  | some value => encode value
  | none => .null

/-- The field of an object; of two fields with one name the later counts. -/
def field? (name : String) : Json → Option Json
  | .object fields => (fields.reverse.find? (·.1 = name)).map (·.2)
  | _ => none

/-- The text, if the value is one. -/
def asText? : Json → Option String
  | .text value => some value
  | _ => none

/-- The truth value, if the value is one. -/
def asBoolean? : Json → Option Bool
  | .boolean value => some value
  | _ => none

/-- One more than the greatest number of thirty-two bits. -/
def bound32 : Nat := 4294967296

/-- One more than the greatest number of sixty-four bits. -/
def bound64 : Nat := 18446744073709551616

/-- One more than the greatest number of a hundred and twenty-eight bits. -/
def bound128 : Nat := 340282366920938463463374607431768211456

/-- The integer below `bound`, if the value is one. -/
def asNatural? (bound : Nat) : Json → Option Nat
  | .integer value => if 0 ≤ value ∧ value.toNat < bound then some value.toNat else none
  | _ => none

/-- The items, if the value is a list. -/
def asList? : Json → Option (List Json)
  | .list items => some items
  | _ => none

/-- The fields, if the value is an object. -/
def asObject? : Json → Option (List (String × Json))
  | .object fields => some fields
  | _ => none

/-- The name of a variant: a text, or the only field of an object, with nothing in it. -/
def asVariant? : Json → Option String
  | .text name => some name
  | .object [(name, .null)] => some name
  | _ => none

/-- A record, given by its fields or by their values in order. -/
def asRecord? (names : List String) : Json → Option Json
  | .object fields => some (.object fields)
  | .list items =>
    if items.length = names.length then some (.object (names.zip items)) else none
  | _ => none

/-- A record of which all fields may be missing, also from the end of a list. -/
def asPartialRecord? (names : List String) : Json → Option Json
  | .object fields => some (.object fields)
  | .list items =>
    if items.length ≤ names.length then some (.object (names.zip items)) else none
  | _ => none

/-- A field that must be there. -/
def required {α : Type} (name : String) (decode : Json → Option α) (value : Json) : Option α :=
  (value.field? name).bind decode

/-- A field that may be missing or null; one that is there must decode. -/
def optionalField {α : Type} (name : String) (decode : Json → Option α) (value : Json) :
    Option (Option α) :=
  match value.field? name with
  | none | some .null => some none
  | some present => (decode present).map some

/-- A field that may be missing; one that is there must decode, null too. -/
def defaultField {α : Type} (name : String) (default : α) (decode : Json → Option α)
    (value : Json) : Option α :=
  match value.field? name with
  | none => some default
  | some present => decode present

end Json

end CloudSynth
