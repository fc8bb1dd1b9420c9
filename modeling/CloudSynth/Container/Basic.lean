import CloudSynth.Container.GeneratorId
import CloudSynth.Container.Program

/-!
# The container

The container builds the entry of every generator at most once, when it is first asked for, and
answers later requests with the same entry. While a generator runs it is on the list of generators
being resolved; asking for it again is a cycle and fails with the groups on the way around. A
generator that fails leaves no entry, so the next request runs it again.

Requests nest as deep as there are generators that are not being resolved, since each nested run
puts one more of them on the list; this depth is what the recursion goes over.
-/

namespace CloudSynth

/-- How one entry is built. -/
structure Generator (σ γ ν : Type) where
  /-- The identity under which the entry is kept. -/
  id : GeneratorId
  /-- The resource group whose stack the entry is built in. -/
  group : String
  /-- The entry is of the kind that this generator builds. -/
  admits : ν → Bool
  /-- Builds the entry. -/
  body : Program σ γ ν ν

/-- Generators by the references that programs use, and the identities they have. -/
structure Catalogue (σ γ ν : Type) where
  generator : γ → Generator σ γ ν
  ids : List GeneratorId

/-- The entries built so far in order of completion, the generators being resolved from the first
to the latest, and the state they work on. -/
structure Container (σ ν : Type) where
  entries : List (GeneratorId × ν)
  resolving : List (GeneratorId × String)
  state : σ

namespace Container

variable {σ γ ν α : Type}

/-- A container without entries. -/
def new (state : σ) : Container σ ν := ⟨[], [], state⟩

/-- The entry kept under an identity. -/
def lookup? (container : Container σ ν) (id : GeneratorId) : Option ν :=
  (container.entries.find? (·.1 = id)).map (·.2)

/-- The container has an entry under the identity. -/
def contains (container : Container σ ν) (id : GeneratorId) : Bool :=
  (container.lookup? id).isSome

/-- The generator is being resolved. -/
def isResolving (container : Container σ ν) (id : GeneratorId) : Bool :=
  container.resolving.any (·.1 = id)

/-- The groups from the run of a generator to the request that would start it again. -/
def cyclePath (container : Container σ ν) (generator : Generator σ γ ν) : List String :=
  (container.resolving.dropWhile (·.1 ≠ generator.id)).map (·.2) ++ [generator.group]

/-- The entry, if it is of the generator's kind. -/
def ofKind (generator : Generator σ γ ν) (entry : ν) : Except BackendError ν :=
  if generator.admits entry then .ok entry else .error (.entryTypeMismatch generator.group)

/-- The answer to a request that runs nothing: the entry there is, or the cycle it closes. -/
def immediate? (container : Container σ ν) (generator : Generator σ γ ν) :
    Option (Except BackendError ν) :=
  match container.lookup? generator.id with
  | some entry => some (ofKind generator entry)
  | none =>
    if container.isResolving generator.id then
      some (.error (.cyclicDependency (container.cyclePath generator)))
    else none

/-- Puts a generator on the list of those being resolved. -/
def enter (container : Container σ ν) (generator : Generator σ γ ν) : Container σ ν :=
  { container with resolving := container.resolving ++ [(generator.id, generator.group)] }

/-- Takes a generator off the list of those being resolved. -/
def leave (container : Container σ ν) (generator : Generator σ γ ν) : Container σ ν :=
  { container with resolving := container.resolving.filter (·.1 ≠ generator.id) }

/-- Keeps an entry, unless there is one under the identity already, and answers with the entry that
is kept. -/
def keep (container : Container σ ν) (generator : Generator σ γ ν) (entry : ν) :
    Except BackendError ν × Container σ ν :=
  match container.lookup? generator.id with
  | some kept => (ofKind generator kept, container)
  | none =>
    (ofKind generator entry,
      { container with entries := container.entries ++ [(generator.id, entry)] })

/-- What becomes of the container when a generator has run. -/
def settle (generator : Generator σ γ ν) (run : Except BackendError ν × Container σ ν) :
    Except BackendError ν × Container σ ν :=
  let container := run.2.leave generator
  match run.1 with
  | .ok entry => container.keep generator entry
  | .error failure => (.error failure, container)

end Container

namespace Program

variable {σ γ ν α : Type}

/-- Runs a program on a container, given how its requests are answered. -/
def run (answer : γ → Container σ ν → Except BackendError ν × Container σ ν) :
    Program σ γ ν α → Container σ ν → Except BackendError α × Container σ ν
  | .finish outcome, container => (outcome, container)
  | .read next, container => (next container.state).run answer container
  | .write state next, container => next.run answer { container with state }
  | .request generator next, container =>
    let (outcome, container) := answer generator container
    (next outcome).run answer container

end Program

namespace Catalogue

variable {σ γ ν α : Type}

/-- Answers a request, running generators nested at most `depth` deep. When no generator is left
that could run, every request is answered by what there is. -/
def resolveWithin (catalogue : Catalogue σ γ ν) :
    Nat → γ → Container σ ν → Except BackendError ν × Container σ ν
  | 0, reference, container =>
    let generator := catalogue.generator reference
    ((container.immediate? generator).getD (.error (.cyclicDependency [generator.group])), container)
  | depth + 1, reference, container =>
    let generator := catalogue.generator reference
    match container.immediate? generator with
    | some answer => (answer, container)
    | none =>
      Container.settle generator
        (generator.body.run (catalogue.resolveWithin depth) (container.enter generator))

/-- The generators that are not being resolved. -/
def idle (catalogue : Catalogue σ γ ν) (container : Container σ ν) : List GeneratorId :=
  catalogue.ids.filter fun id => !container.isResolving id

/-- Answers a request. -/
def resolve (catalogue : Catalogue σ γ ν) (reference : γ) (container : Container σ ν) :
    Except BackendError ν × Container σ ν :=
  catalogue.resolveWithin (catalogue.idle container).length reference container

/-- Runs a program whose requests are answered from the catalogue. -/
def run (catalogue : Catalogue σ γ ν) (program : Program σ γ ν α) (container : Container σ ν) :
    Except BackendError α × Container σ ν :=
  program.run (catalogue.resolveWithin (catalogue.idle container).length) container

end Catalogue

end CloudSynth
