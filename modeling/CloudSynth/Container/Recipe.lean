import CloudSynth.Collection.SortedMap
import CloudSynth.Configuration
import CloudSynth.Container.Basic
import CloudSynth.Parameter
import CloudSynth.Secret
import CloudSynth.Stack

/-!
# Recipes

A generator described by data: the other recipes that it needs, in order, whether it goes on when one
of them fails, whether it fails itself, and what it makes. Every run is counted. Recipes that are
given the same identity share it, so the entry of one answers requests for the other.
-/

namespace CloudSynth

/-- Kinds of entries that recipes make. -/
inductive RecipeKind
  | text
  | number
  deriving DecidableEq, Repr

/-- The entry that a recipe makes. -/
inductive RecipeEntry
  | text (value : String)
  | number (value : Nat)
  deriving DecidableEq, Repr

/-- The kind of an entry. -/
def RecipeEntry.kind : RecipeEntry → RecipeKind
  | .text _ => .text
  | .number _ => .number

/-- A generator described by data. -/
structure Recipe where
  name : String
  group : String
  needs : List String
  /-- Goes on when something that it needs fails. -/
  tolerant : Bool
  /-- The message that it fails with. -/
  failure : Option String
  kind : RecipeKind
  /-- The identity it shares with others. -/
  identity : Option Int
  deriving DecidableEq, Repr

/-- What recipes work on: the identity, stacks and parameters of a backend, and the number of runs of
every recipe by its place. -/
structure RecipeState where
  identifier : BackendIdentifier
  stackSet : StackSet
  parameters : ParameterStore
  runs : OrderedMap Nat Nat

namespace RecipeState

/-- The state before any run. -/
def new (configuration : Configuration) : RecipeState where
  identifier := configuration.identifier
  stackSet := .new configuration.identifier.stackName configuration.region configuration.account
  parameters := .new configuration.identifier
  runs := {}

/-- How often a recipe was run. -/
def runsOf (state : RecipeState) (place : Nat) : Nat := (state.runs.find? place).getD 0

/-- The state as a run of a recipe begins: the run is counted and the stack of its group is there. -/
def begin (state : RecipeState) (place : Nat) (group : String) : RecipeState :=
  { state with
    runs := state.runs.insert place (state.runsOf place + 1)
    stackSet := state.stackSet.touch group }

/-- Publishes the resource id of a name under the name. -/
def publishId (state : RecipeState) (name : String) : RecipeState :=
  { state with
    parameters := (state.parameters.publish [(name, state.identifier.resourceId name)]).2 }

end RecipeState

namespace Recipe

/-- The text that a recipe makes: its name and run, its stack, a secret and its resource id. -/
def written (recipe : Recipe) (place : Nat) (state : RecipeState) : String :=
  recipe.name ++ "#" ++ toString (state.runsOf place) ++ "@" ++
    (state.stackSet.stackFor recipe.group).name ++ " " ++
    (state.identifier.secretToken ⟨recipe.name⟩).print ++ " " ++
    state.identifier.resourceId recipe.name

/-- What a recipe makes in the end. -/
def make (recipe : Recipe) (place : Nat) (state : RecipeState) :
    Except BackendError RecipeEntry × RecipeState :=
  match recipe.failure, recipe.kind with
  | some message, _ => (.error (.configuration "StubFailure" message "stub"), state)
  | none, .text => (.ok (.text (recipe.written place state)), state.publishId recipe.name)
  | none, .number => (.ok (.number (state.runsOf place)), state)

end Recipe

/-- Recipes, known by their place. -/
structure RecipeBook where
  recipes : List Recipe

namespace RecipeBook

variable (book : RecipeBook)

/-- The place of a recipe in the book. -/
abbrev Place (book : RecipeBook) := Fin book.recipes.length

/-- The recipe at a place. -/
def recipe (place : book.Place) : Recipe := book.recipes.get place

/-- The places of the recipes by name; of two recipes with one name the later counts. -/
def places : SortedMap Nat :=
  SortedMap.ofList (book.recipes.zipIdx.map fun pair => (pair.1.name, pair.2))

/-- The place of the recipe of a name. -/
def placeOf? (name : String) : Option book.Place :=
  (book.places.find? name).bind fun place =>
    if inRange : place < book.recipes.length then some ⟨place, inRange⟩ else none

/-- The identity of a recipe: the place of the first one that it shares it with, or its own. -/
def idAt (place : book.Place) : GeneratorId :=
  match (book.recipe place).identity with
  | some identity => ⟨book.recipes.findIdx (·.identity = some identity)⟩
  | none => ⟨place⟩

/-- The entry of the recipe of a name. -/
def request (name : String) : Program RecipeState book.Place RecipeEntry RecipeEntry :=
  match book.placeOf? name with
  | some place => Program.entryOf place
  | none => throw (.configuration "UnknownReference" name "")

/-- Requests what a recipe needs. -/
def gather (recipe : Recipe) : Program RecipeState book.Place RecipeEntry Unit :=
  recipe.needs.forM fun name =>
    if recipe.tolerant then discard (book.request name).attempt else discard (book.request name)

/-- The generator of a recipe. -/
def generator (place : book.Place) : Generator RecipeState book.Place RecipeEntry :=
  let recipe := book.recipe place
  { id := book.idAt place
    group := recipe.group
    admits := fun entry => entry.kind = recipe.kind
    body := do
      modify (·.begin place recipe.group)
      book.gather recipe
      Program.act (recipe.make place) }

/-- The generators of all recipes. -/
def catalogue : Catalogue RecipeState book.Place RecipeEntry where
  generator := book.generator
  ids := (List.finRange book.recipes.length).map book.idAt

end RecipeBook

/-- A container that is filled by recipes, and values registered under tokens. -/
structure RecipeContainer where
  container : Container RecipeState RecipeEntry
  registered : OrderedMap String RecipeEntry

namespace RecipeContainer

/-- A container before any run. -/
def new (configuration : Configuration) : RecipeContainer := ⟨.new (.new configuration), {}⟩

/-- The entry of the recipe of a name. -/
def get (filled : RecipeContainer) (book : RecipeBook) (name : String) :
    Except BackendError RecipeEntry × RecipeContainer :=
  let (outcome, container) := book.catalogue.run (book.request name) filled.container
  (outcome, { filled with container })

/-- The entry of the recipe of a name is there. -/
def contains (filled : RecipeContainer) (book : RecipeBook) (name : String) : Bool :=
  match book.placeOf? name with
  | some place => filled.container.contains (book.idAt place)
  | none => false

/-- Registers a value under a token, in place of an older one. -/
def register (filled : RecipeContainer) (token : String) (value : RecipeEntry) : RecipeContainer :=
  { filled with registered := filled.registered.insert token value }

/-- The value registered under a token, if it is of the kind. -/
def lookup (filled : RecipeContainer) (token : String) (kind : RecipeKind) : Option RecipeEntry :=
  (filled.registered.find? token).filter (·.kind = kind)

end RecipeContainer

end CloudSynth
