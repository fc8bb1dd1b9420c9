import CloudSynth.Backend.Auth
import CloudSynth.Backend.Data

/-!
# Synthesis

A backend is a container on whose state the generators of a blueprint work, and the resources that
were added to it by name. Synthesising it resolves every added resource in the order of the names;
the first failure ends the synthesis.
-/

namespace CloudSynth

namespace Blueprint

variable (blueprint : Blueprint)

/-- How a defined resource is built. -/
def build (factory : Nat) : Definition → blueprint.Build Instance
  | .function settings site =>
    match settings.resolve site with
    | .error fault => throw fault.toError
    | .ok resolved => Program.act (·.buildFunction factory resolved)
  | .stub name => Program.act (·.buildStub factory name)
  | .auth settings _ => blueprint.buildAuth factory settings
  | .data settings _ => blueprint.buildData factory settings

/-- The generator of a factory. The stack of its group is there as soon as it runs. -/
def generator (factory : blueprint.Factory) :
    Generator Assembly blueprint.Factory Instance :=
  let definition := blueprint.definition factory
  { id := ⟨factory⟩
    group := definition.kind.group
    admits := fun entry => entry.kind = definition.kind
    body := do
      modify fun assembly =>
        { assembly with stackSet := assembly.stackSet.touch definition.kind.group }
      blueprint.build factory definition }

/-- The generators of all factories. -/
def catalogue : Catalogue Assembly blueprint.Factory Instance where
  generator := blueprint.generator
  ids := (List.range blueprint.definitions.length).map GeneratorId.mk

/-- Resolves several factories in order. -/
def resolveAll (factories : List Nat) : blueprint.Build Unit :=
  factories.forM fun number =>
    match blueprint.factoryAt? number with
    | some factory => discard (blueprint.instanceOf factory)
    | none => return ()

end Blueprint

/-- A backend: what it has built, and the factories added to it by name. -/
structure Backend where
  container : Container Assembly Instance
  resources : OrderedMap String Nat

namespace Backend

/-- A backend that has built nothing. -/
def new (configuration : Configuration) (journal : Journal) : Backend where
  container := .new
    (.new configuration.identifier configuration.region configuration.account journal)
  resources := {}

/-- What the backend has built so far. -/
def assembly (backend : Backend) : Assembly := backend.container.state

/-- The backend with what it has built changed. -/
def changeAssembly (backend : Backend) (change : Assembly → Assembly) : Backend :=
  let container := { backend.container with state := change backend.container.state }
  { backend with container }

/-- Adds a factory under a name, in place of an older one. A capability that the factory provides
can be discovered at once. -/
def add (backend : Backend) (name : String) (factory : Nat) (definition : Definition) : Backend :=
  let backend := { backend with resources := backend.resources.insert name factory }
  match definition.provides with
  | some token => backend.changeAssembly fun assembly =>
      { assembly with providers := assembly.providers.insert token factory }
  | none => backend

/-- Runs a program on the backend. -/
def run {α : Type} (backend : Backend) (blueprint : Blueprint) (program : blueprint.Build α) :
    Except BackendError α × Backend :=
  let (outcome, container) := blueprint.catalogue.run program backend.container
  (outcome, { backend with container })

/-- The instance of a factory. -/
def getInstance (backend : Backend) (blueprint : Blueprint) (factory : blueprint.Factory) :
    Except BackendError Instance × Backend :=
  backend.run blueprint (blueprint.instanceOf factory)

/-- Resolves every added resource. -/
def synthesize (backend : Backend) (blueprint : Blueprint) :
    Except BackendError Unit × Backend :=
  backend.run blueprint (blueprint.resolveAll backend.resources.values)

end Backend

end CloudSynth
