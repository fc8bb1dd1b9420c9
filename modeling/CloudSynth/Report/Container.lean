import CloudSynth.Container.Recipe
import CloudSynth.Report.Basic

/-!
# Reports on containers

The entries of a container that is filled by recipes, and how often each recipe was run.
-/

namespace CloudSynth

/-- An entry that a recipe made. -/
def RecipeEntry.report : RecipeEntry → Json
  | .text value => .text value
  | .number value => .natural value

/-- The size of a container, and for every recipe its runs and whether its entry is there. -/
def RecipeContainer.report (filled : RecipeContainer) (book : RecipeBook) : Json :=
  let held := filled.container.state
  let count := filled.container.entries.length
  .record [("entries", .natural count), ("empty", .boolean (count = 0)),
    ("stacks", .natural held.stackSet.byGroup.size),
    ("parameters", .natural held.parameters.values.size),
    ("generators", .list (book.places.entries.map fun pair =>
      .list [.text pair.1, .natural (held.runsOf pair.2),
        .boolean (filled.contains book pair.1)]))]

end CloudSynth
