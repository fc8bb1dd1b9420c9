import CloudSynth.Json.Basic
import CloudSynth.Text.Digits

/-!
# Documents

Settings are read from documents: structured values whose fields may be missing. A missing text is
empty, a missing list has no items, a missing number is zero and a missing truth value is false;
null stands for missing. Fields that stand for a choice or for a record must decode if they are
there.
-/

namespace CloudSynth

/-- Why a document cannot be read. -/
inductive DocumentFault
  /-- A value does not have the form that is asked for. -/
  | malformed
  /-- An action is not in the vocabulary. -/
  | unknownAction (name : String)
  deriving DecidableEq, Repr

/-- What is read from a document. -/
abbrev Reading (α : Type) := Except DocumentFault α

/-- The decoded value, if it decodes. -/
def Reading.ofOption {α : Type} : Option α → Reading α
  | some value => .ok value
  | none => .error .malformed

namespace Json

/-- A field; a missing one is null. -/
def entry (value : Json) (name : String) : Json := (value.field? name).getD .null

/-- A field that is there and not null. -/
def given? (value : Json) (name : String) : Option Json :=
  match value.field? name with
  | none | some .null => none
  | some found => some found

/-- A text, if the field is one. -/
def text? (value : Json) (name : String) : Option String := (value.entry name).asText?

/-- A text; a value that is none is empty. -/
def plainText (value : Json) : String := value.asText?.getD ""

/-- A text; a missing one is empty. -/
def textOf (value : Json) (name : String) : String := (value.entry name).plainText

/-- The items of a list; a missing one is empty. -/
def itemsOf (value : Json) (name : String) : List Json := (value.entry name).asList?.getD []

/-- A list of texts. -/
def textsOf (value : Json) (name : String) : List String := (value.itemsOf name).map plainText

/-- A number; a missing one is zero. -/
def naturalOf (value : Json) (name : String) : Nat :=
  ((value.entry name).asNatural? bound64).getD 0

/-- A number below `bound` that is written as a text of decimal digits, perhaps after a plus sign; any
other text is zero. -/
def numeralOf (value : Json) (name : String) (bound : Nat) : Nat :=
  let digits := match (value.textOf name).toList with
    | '+' :: rest => rest
    | rest => rest
  let number := Text.naturalOfDigits digits
  if digits.all Char.isDigit ∧ number < bound then number else 0

/-- A truth value; a missing one is false. -/
def flagOf (value : Json) (name : String) : Bool := (value.entry name).asBoolean?.getD false

/-- The item at a place of a list; a missing one is null. -/
def item (value : Json) (place : Nat) : Json := ((value.asList?.getD [])[place]?).getD .null

/-- The first item of a pair, which is a text. -/
def key (pair : Json) : String := (pair.item 0).plainText

/-- Pairs of texts. -/
def textPairsOf (value : Json) (name : String) : List (String × String) :=
  (value.itemsOf name).map fun pair => (pair.key, (pair.item 1).plainText)

/-- A choice by its name. -/
def choice {α : Type} (value : Json) (ofName? : String → Option α) : Reading α :=
  .ofOption (value.asVariant?.bind ofName?)

/-- A field that is read, if it is there. -/
def readOptional {α : Type} (value : Json) (name : String) (read : Json → Reading α) :
    Reading (Option α) :=
  match value.given? name with
  | none => .ok none
  | some found => (read found).map some

/-- A choice, if it is there. -/
def choice? {α : Type} (value : Json) (name : String) (ofName? : String → Option α) :
    Reading (Option α) :=
  value.readOptional name fun found => found.choice ofName?

/-- A record, if it is there. -/
def decoded? {α : Type} (value : Json) (name : String) (decode : Json → Option α) :
    Reading (Option α) :=
  value.readOptional name fun found => .ofOption (decode found)

end Json

end CloudSynth
