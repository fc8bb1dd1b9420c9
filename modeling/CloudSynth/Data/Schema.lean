import CloudSynth.Access.Grant
import CloudSynth.Text.Space
import CloudSynth.Text.Word

/-!
# Scanning schemas

Of a GraphQL schema only two things are read: the names of the types marked as models, and the
names of the functions that its directives refer to. A scanner looks for one shape of text, takes
the leftmost occurrence, and goes on behind it.
-/

namespace CloudSynth.Schema

/-- What a scanner finds at the front of a text: a name, and the text behind the occurrence. -/
structure Occurrence where
  name : List Char
  rest : List Char

/-- The text behind a fixed beginning. -/
def after? (beginning text : List Char) : Option (List Char) :=
  if beginning.isPrefixOf text then some (text.drop beginning.length) else none

/-- A run of at least one character, and the text behind it. -/
def run? (condition : Char → Bool) (text : List Char) : Option (List Char × List Char) :=
  match text.takeWhile condition with
  | [] => none
  | run => some (run, text.dropWhile condition)

/-- A model: `type`, blanks, a name, and `@model` as a whole word, perhaps after blanks. -/
def modelAt? (text : List Char) : Option Occurrence := do
  let text ← after? "type".toList text
  let (_, text) ← run? Text.isSpace text
  let (name, text) ← run? Text.isWord text
  let rest ← after? "@model".toList (text.dropWhile Text.isSpace)
  if Text.endsWord rest then some ⟨name, rest⟩ else none

/-- A function directive: `@function(`, `name:`, a name in double quotes, and `)`, with blanks in
between. -/
def functionAt? (text : List Char) : Option Occurrence := do
  let text ← after? "@function(".toList text
  let text ← after? "name:".toList (text.dropWhile Text.isSpace)
  let text ← after? ['"'] (text.dropWhile Text.isSpace)
  let (name, text) ← run? (· ≠ '"') text
  let text ← after? ['"'] text
  let rest ← after? [')'] (text.dropWhile Text.isSpace)
  some ⟨name, rest⟩

/-- The names of all occurrences; the first `passed` characters belong to the last one. -/
def scan (find : List Char → Option Occurrence) : Nat → List Char → List (List Char)
  | _, [] => []
  | passed + 1, _ :: text => scan find passed text
  | 0, character :: text =>
    match find (character :: text) with
    | some found => found.name :: scan find (text.length - found.rest.length) text
    | none => scan find 0 text

/-- The names of the models, in the order of the schema. -/
def modelNames (schema : String) : List String :=
  (scan modelAt? 0 schema.toList).map String.ofList

/-- The names of the functions referred to, each once, in the order of the schema. -/
def functionNames (schema : String) : List String :=
  distinct ((scan functionAt? 0 schema.toList).map String.ofList)

end CloudSynth.Schema
