import Mathlib.Data.List.Nodup
import CloudSynth.Proofs.Container.DependencyGraph

/-!
# Requests as a search of the dependency graph

A request on a family that follows a graph searches the graph in depth. The entries of the container
are what earlier searches have finished: they are closed under needing, and no cycle and no failure
can be reached from them (`Catalogue.Coherent`). The generators being resolved are a path of the
graph, each of them without an entry (`Catalogue.Descends`), so a request for one of them closes a
cycle.

`Catalogue.Runs.searches` is the induction that keeps both. `Catalogue.Follows.resolve_searches`
says what every request is answered with and what it leaves in the container, whatever was requested
before (`Catalogue.AnswersSearch`).
-/

namespace CloudSynth

namespace Catalogue

variable {σ γ ν : Type} {catalogue : Catalogue σ γ ν} {graph : DependencyGraph γ} {subject : γ}

/-! ## What earlier searches have finished -/

/-- The entries are of the kinds that their generators make; what a stored generator needs is stored
too, and neither a cycle nor a failing generator can be reached from it. -/
structure Coherent (catalogue : Catalogue σ γ ν) (graph : DependencyGraph γ)
    (container : Container σ ν) : Prop where
  typed : catalogue.Typed container
  closed : ∀ reference needed, catalogue.Stored container reference →
    graph.Needs reference needed → catalogue.Stored container needed
  sound : ∀ reference, catalogue.Stored container reference → graph.Sound reference

theorem coherent_new (catalogue : Catalogue σ γ ν) (graph : DependencyGraph γ) (state : σ) :
    catalogue.Coherent graph (.new state) where
  typed := catalogue.typed_new state
  closed := by
    rintro reference needed ⟨entry, stored⟩
    simp at stored
  sound := by
    rintro reference ⟨entry, stored⟩
    simp at stored

theorem Coherent.congr {container other : Container σ ν}
    (coherent : catalogue.Coherent graph container)
    (same : ∀ id, other.lookup? id = container.lookup? id) : catalogue.Coherent graph other where
  typed := by
    intro reference entry stored
    exact coherent.typed reference entry ((same _).symm.trans stored)
  closed := by
    rintro reference needed ⟨entry, stored⟩ needs
    rcases coherent.closed reference needed ⟨entry, (same _).symm.trans stored⟩ needs with
      ⟨neededEntry, neededStored⟩
    exact ⟨neededEntry, (same _).trans neededStored⟩
  sound := by
    rintro reference ⟨entry, stored⟩
    exact coherent.sound reference ⟨entry, (same _).symm.trans stored⟩

/-- What can be reached from a stored generator is stored. -/
theorem Coherent.stored_of_reaches {container : Container σ ν}
    (coherent : catalogue.Coherent graph container) {reference reached : γ}
    (stored : catalogue.Stored container reference) (reaches : graph.Reaches reference reached) :
    catalogue.Stored container reached := by
  induction reaches with
  | refl => exact stored
  | tail _ needs ih => exact coherent.closed _ _ ih needs

/-- A generator without an entry is sound once all that it needs is stored: a way from it back to it
would lead through what it needs, from where everything is stored. -/
theorem Coherent.sound_of_needs {container : Container σ ν}
    (coherent : catalogue.Coherent graph container) {reference : γ}
    (absent : ¬catalogue.Stored container reference)
    (needsStored : ∀ needed ∈ graph.needs reference, catalogue.Stored container needed)
    (succeeds : graph.failure reference = none) : graph.Sound reference where
  acyclic := by
    intro reached reaches path
    rcases reaches.cases_head with rfl | ⟨needed, needs, reaches⟩
    · rcases Relation.TransGen.head'_iff.mp path with ⟨needed, needs, back⟩
      exact absent (coherent.stored_of_reaches (needsStored needed needs) back)
    · exact (coherent.sound needed (needsStored needed needs)).acyclic reached reaches path
  succeeds := by
    intro reached reaches
    rcases reaches.cases_head with rfl | ⟨needed, needs, reaches⟩
    · exact succeeds
    · exact (coherent.sound needed (needsStored needed needs)).succeeds reached reaches

/-- What has an entry when a body has succeeded: its generator, and what had one before. -/
theorem lookup?_of_settle {reference : γ} {inner between : Container σ ν}
    {result answer : Except BackendError ν}
    (settled : Container.settle (catalogue.generator reference) (result, inner) =
      (answer, between)) {id : GeneratorId} {entry : ν}
    (stored : between.lookup? id = some entry) :
    (catalogue.generator reference).id = id ∨ inner.lookup? id = some entry := by
  by_cases same : (catalogue.generator reference).id = id
  · exact Or.inl same
  · have unchanged := Container.lookup?_settle_of_ne (result, inner) same
    rw [settled] at unchanged
    exact Or.inr (unchanged.symm.trans stored)

/-- A body that succeeds when all that it needs is stored leaves a coherent container. -/
theorem Coherent.settle (follows : catalogue.Follows graph) {reference : γ}
    {inner between : Container σ ν} {entry : ν} {answer : Except BackendError ν}
    (coherent : catalogue.Coherent graph inner)
    (absent : inner.lookup? (catalogue.generator reference).id = none)
    (needsStored : ∀ needed ∈ graph.needs reference, catalogue.Stored inner needed)
    (succeeds : graph.failure reference = none) (admitted : catalogue.Admits reference entry)
    (settled : Container.settle (catalogue.generator reference) (.ok entry, inner) =
      (answer, between)) : catalogue.Coherent graph between := by
  have extended : between.Extends inner := by
    have later := Container.extends_settle (catalogue.generator reference) (.ok entry, inner)
    rw [settled] at later
    exact later
  have earlier : ∀ other, catalogue.Stored between other →
      reference = other ∨ catalogue.Stored inner other := by
    rintro other ⟨kept, stored⟩
    rcases lookup?_of_settle settled stored with same | storedInner
    · exact Or.inl (follows.distinct _ _ same)
    · exact Or.inr ⟨kept, storedInner⟩
  have sound := coherent.sound_of_needs (not_stored_iff.mpr absent) needsStored succeeds
  constructor
  · refine follows.isFamily.typed_settle coherent.typed absent ?_ settled
    intro made same
    cases same
    exact admitted
  · intro other needed stored needs
    rcases earlier other stored with rfl | storedInner
    · exact (needsStored needed needs).of_extends extended
    · exact (coherent.closed other needed storedInner needs).of_extends extended
  · intro other stored
    rcases earlier other stored with rfl | storedInner
    · exact sound
    · exact coherent.sound other storedInner

/-! ## The path to the generator whose body runs -/

/-- The generators being resolved are a path of the graph that can be reached from the subject of
the search. None of them has an entry. -/
structure Descends (catalogue : Catalogue σ γ ν) (graph : DependencyGraph γ) (subject : γ)
    (container : Container σ ν) (path : List γ) : Prop where
  marked : container.resolving = path.map catalogue.mark
  distinct : path.Nodup
  reached : ∀ reference ∈ path, graph.Reaches subject reference
  unstored : ∀ reference ∈ path, container.lookup? (catalogue.generator reference).id = none

/-- The generator may be requested at the end of the path. -/
structure Prolongs (graph : DependencyGraph γ) (subject : γ) (path : List γ) (needed : γ) :
    Prop where
  chain : (path ++ [needed]).IsChain graph.Needs
  reached : graph.Reaches subject needed

theorem Prolongs.next {path : List γ} {reference needed : γ}
    (prolongs : Prolongs graph subject path reference) (needs : graph.Needs reference needed) :
    Prolongs graph subject (path ++ [reference]) needed where
  chain := by
    rw [List.append_assoc]
    exact List.isChain_append_cons_cons.mpr ⟨prolongs.chain, needs, .singleton needed⟩
  reached := prolongs.reached.tail needs

theorem Descends.isResolving_iff (follows : catalogue.Follows graph) {container : Container σ ν}
    {path : List γ} (descends : catalogue.Descends graph subject container path) (reference : γ) :
    container.isResolving (catalogue.generator reference).id = true ↔ reference ∈ path := by
  rw [Container.isResolving_iff, descends.marked]
  simp only [List.map_map, List.mem_map, Function.comp_apply, mark]
  constructor
  · rintro ⟨other, other_mem, same⟩
    rw [← follows.distinct _ _ same]
    exact other_mem
  · exact fun reference_mem => ⟨reference, reference_mem, rfl⟩

/-- The path is one generator longer while a body runs. -/
theorem Descends.enter (follows : catalogue.Follows graph) {container : Container σ ν}
    {path : List γ} (descends : catalogue.Descends graph subject container path) {reference : γ}
    (reaches : graph.Reaches subject reference)
    (unknown : container.immediate? (catalogue.generator reference) = none) :
    catalogue.Descends graph subject (container.enter (catalogue.generator reference))
      (path ++ [reference]) := by
  rcases Container.immediate?_eq_none_iff.mp unknown with ⟨absent, idle⟩
  have outside : reference ∉ path := by
    intro reference_mem
    rw [(descends.isResolving_iff follows reference).mpr reference_mem] at idle
    cases idle
  constructor
  · simp [descends.marked, mark, group]
  · rw [← List.concat_eq_append]
    exact descends.distinct.concat outside
  · intro other other_mem
    rcases List.mem_append.mp other_mem with path_mem | last
    · exact descends.reached other path_mem
    · rw [List.mem_singleton.mp last]
      exact reaches
  · intro other other_mem
    rcases List.mem_append.mp other_mem with path_mem | last
    · exact descends.unstored other path_mem
    · rw [List.mem_singleton.mp last]
      exact absent

/-- The path is the same when the body is over. -/
theorem Descends.answered (follows : catalogue.Follows graph) {reference : γ}
    {before inner between : Container σ ν} {result answer : Except BackendError ν}
    {nested : Chronicle σ γ ν} {path : List γ}
    (descends : catalogue.Descends graph subject before path)
    (unknown : before.immediate? (catalogue.generator reference) = none)
    (body : catalogue.Runs (catalogue.generator reference).body
      (before.enter (catalogue.generator reference)) nested result inner)
    (settled : Container.settle (catalogue.generator reference) (result, inner) =
      (answer, between)) :
    catalogue.Descends graph subject between path where
  marked := (Runs.resolving_answered unknown body.resolving_eq settled).trans descends.marked
  distinct := descends.distinct
  reached := descends.reached
  unstored := by
    intro other other_mem
    have resolving := (descends.isResolving_iff follows other).mpr other_mem
    have absent := body.lookup?_eq_none_of_isResolving (by simp [resolving])
      (descends.unstored other other_mem)
    exact Runs.lookup?_answered unknown resolving absent settled

/-- A request for a generator on the path closes a cycle: from its first occurrence to the end of
the path, and back to it. -/
theorem Descends.exists_cycle (follows : catalogue.Follows graph) {container : Container σ ν}
    {path : List γ} (descends : catalogue.Descends graph subject container path) {reference : γ}
    (prolongs : Prolongs graph subject path reference) (reference_mem : reference ∈ path) :
    ∃ walk, graph.IsCycle walk ∧ (∀ other ∈ walk, other ∈ path) ∧
      container.cyclePath (catalogue.generator reference) = walk.map catalogue.group := by
  rcases List.eq_append_cons_of_mem reference_mem with ⟨front, back, rfl, outside⟩
  refine ⟨reference :: back ++ [reference], ⟨reference, back, rfl, ?_, ?_⟩, ?_, ?_⟩
  · exact (List.nodup_append.mp descends.distinct).2.1
  · have chain := prolongs.chain
    rw [List.append_assoc] at chain
    exact chain.right_of_append
  · intro other other_mem
    simp only [List.cons_append, List.mem_cons, List.mem_append, List.not_mem_nil, or_false]
      at other_mem ⊢
    tauto
  · have skipped : ∀ mark ∈ front.map catalogue.mark,
        decide (mark.1 ≠ (catalogue.generator reference).id) = true := by
      intro mark mark_mem
      rcases List.mem_map.mp mark_mem with ⟨other, other_mem, rfl⟩
      rw [decide_eq_true_eq]
      intro same
      rw [← follows.distinct _ _ same] at outside
      exact outside other_mem
    rw [Container.cyclePath, descends.marked, List.map_append,
      List.dropWhile_append_of_pos skipped]
    simp [mark, group]

/-! ## Searches -/

/-- The reasons for which a request for the subject of a search may fail: a failing generator that
can be reached, and a cycle that can be reached, of generators that have no entries. -/
inductive Fault (catalogue : Catalogue σ γ ν) (graph : DependencyGraph γ) (subject : γ)
    (container : Container σ ν) : BackendError → Prop
  | fails {reference : γ} {failure : BackendError} (reached : graph.Reaches subject reference)
    (own : graph.failure reference = some failure) :
    Fault catalogue graph subject container failure
  | closes {walk : List γ} (cycle : graph.IsCycle walk)
    (reached : ∀ reference ∈ walk, graph.Reaches subject reference)
    (unstored : ∀ reference ∈ walk, ¬catalogue.Stored container reference) :
    Fault catalogue graph subject container (.cyclicDependency (walk.map catalogue.group))

theorem Fault.congr {container other : Container σ ν} {failure : BackendError}
    (fault : catalogue.Fault graph subject container failure)
    (same : ∀ id, other.lookup? id = container.lookup? id) :
    catalogue.Fault graph subject other failure := by
  cases fault with
  | fails reached own => exact .fails reached own
  | closes cycle reached unstored =>
      refine .closes cycle reached ?_
      intro reference reference_mem
      rw [not_stored_iff, same, ← not_stored_iff]
      exact unstored reference reference_mem

/-- A request for a generator on the path fails with a cycle. -/
theorem Descends.fault (follows : catalogue.Follows graph) {container : Container σ ν}
    {path : List γ} (descends : catalogue.Descends graph subject container path) {reference : γ}
    (prolongs : Prolongs graph subject path reference) (reference_mem : reference ∈ path) :
    catalogue.Fault graph subject container
      (.cyclicDependency (container.cyclePath (catalogue.generator reference))) := by
  rcases descends.exists_cycle follows prolongs reference_mem with
    ⟨walk, cycle, walk_mem, path_eq⟩
  rw [path_eq]
  refine .closes cycle ?_ ?_
  · exact fun other other_mem => descends.reached other (walk_mem other other_mem)
  · intro other other_mem
    exact not_stored_iff.mpr (descends.unstored other (walk_mem other other_mem))

/-- Everything that has an entry in the later container and none in the earlier one can be reached
from what is needed. -/
def AddsOnly (catalogue : Catalogue σ γ ν) (graph : DependencyGraph γ) (needs : List γ)
    (earlier later : Container σ ν) : Prop :=
  ∀ id entry, later.lookup? id = some entry → earlier.lookup? id = some entry ∨
    ∃ needed ∈ needs, ∃ reached, graph.Reaches needed reached ∧
      (catalogue.generator reached).id = id

theorem AddsOnly.refl (needs : List γ) (container : Container σ ν) :
    catalogue.AddsOnly graph needs container container :=
  fun _ _ => Or.inl

theorem AddsOnly.congr {needs : List γ} {earlier later other : Container σ ν}
    (adds : catalogue.AddsOnly graph needs earlier later)
    (same : ∀ id, other.lookup? id = later.lookup? id) :
    catalogue.AddsOnly graph needs earlier other :=
  fun id entry stored => adds id entry ((same id).symm.trans stored)

/-- What is added for the first of several requests and then for the others. -/
theorem AddsOnly.cons {reference : γ} {needs : List γ} {first second third : Container σ ν}
    (later : catalogue.AddsOnly graph needs second third)
    (earlier : catalogue.AddsOnly graph [reference] first second) :
    catalogue.AddsOnly graph (reference :: needs) first third := by
  intro id entry stored
  rcases later id entry stored with storedBefore | ⟨needed, needed_mem, reached⟩
  · rcases earlier id entry storedBefore with storedFirst | ⟨needed, needed_mem, reached⟩
    · exact Or.inl storedFirst
    · rw [List.mem_singleton.mp needed_mem] at reached
      exact Or.inr ⟨reference, List.mem_cons_self, reached⟩
  · exact Or.inr ⟨needed, List.mem_cons_of_mem _ needed_mem, reached⟩

/-- What is added while a body runs and when it is over. -/
theorem AddsOnly.settle {reference : γ} {before inner between : Container σ ν}
    {result answer : Except BackendError ν}
    (adds : catalogue.AddsOnly graph (graph.needs reference) before inner)
    (settled : Container.settle (catalogue.generator reference) (result, inner) =
      (answer, between)) :
    catalogue.AddsOnly graph [reference] before between := by
  intro id entry stored
  rcases lookup?_of_settle settled stored with same | storedInner
  · exact Or.inr ⟨reference, List.mem_singleton_self reference, reference, .refl, same⟩
  · rcases adds id entry storedInner with storedBefore | ⟨needed, needs, reached, reaches, same⟩
    · exact Or.inl storedBefore
    · exact Or.inr ⟨reference, List.mem_singleton_self reference, reached, .head needs reaches,
        same⟩

/-- What a program has done that requests what is needed: it has got all of it and ended in the way
that is given, or it has failed for a reason. It has added nothing that cannot be reached from what
is needed. -/
structure Searched {α : Type} (catalogue : Catalogue σ γ ν) (graph : DependencyGraph γ)
    (subject : γ) (ending : Except BackendError α → Prop) (needs : List γ)
    (before : Container σ ν) (outcome : Except BackendError α) (after : Container σ ν) :
    Prop where
  coherent : catalogue.Coherent graph after
  adds : catalogue.AddsOnly graph needs before after
  ended : (ending outcome ∧ ∀ needed ∈ needs, catalogue.Stored after needed) ∨
    ∃ failure, outcome = .error failure ∧ catalogue.Fault graph subject after failure

/-- A search goes on when its first request is answered with an entry. -/
theorem Searched.cons {α : Type} {ending : Except BackendError α → Prop} {needs : List γ}
    {before between after : Container σ ν} {outcome : Except BackendError α} {reference : γ}
    (later : catalogue.Searched graph subject ending needs between outcome after)
    (extended : after.Extends between) (stored : catalogue.Stored between reference)
    (adds : catalogue.AddsOnly graph [reference] before between) :
    catalogue.Searched graph subject ending (reference :: needs) before outcome after where
  coherent := later.coherent
  adds := later.adds.cons adds
  ended := by
    rcases later.ended with ⟨ended, needsStored⟩ | failed
    · refine Or.inl ⟨ended, ?_⟩
      intro needed needed_mem
      rcases List.mem_cons.mp needed_mem with rfl | rest_mem
      · exact stored.of_extends extended
      · exact needsStored needed rest_mem
    · exact Or.inr failed

namespace Runs

/-- A program that makes no request ends as it is bound to, and leaves the entries alone. -/
theorem endsWith {α : Type} {program : Program σ γ ν α} {before after : Container σ ν}
    {chronicle : Chronicle σ γ ν} {outcome ending : Except BackendError α}
    (run : catalogue.Runs program before chronicle outcome after)
    (ends : program.EndsWith ending) :
    outcome = ending ∧ ∀ id, after.lookup? id = before.lookup? id := by
  induction run with
  | finish outcome container => exact ⟨ends, fun _ => rfl⟩
  | read rest ih => exact ih (ends _)
  | write rest ih => exact ih ends
  | recalled known rest ih => exact ends.elim
  | computed unknown body settled rest ihBody ihRest => exact ends.elim

/-- A search is over when its first request is answered with a failure. -/
theorem searched_of_failure {α : Type} {program : Program σ γ ν α}
    {before between after : Container σ ν} {chronicle : Chronicle σ γ ν}
    {outcome : Except BackendError α} {ending : Except BackendError α → Prop} {reference : γ}
    {needs : List γ} {failure : BackendError}
    (rest : catalogue.Runs program between chronicle outcome after)
    (ends : program.EndsWith (.error failure)) (coherent : catalogue.Coherent graph between)
    (adds : catalogue.AddsOnly graph [reference] before between)
    (fault : catalogue.Fault graph subject between failure) :
    catalogue.Searched graph subject ending (reference :: needs) before outcome after := by
  rcases rest.endsWith ends with ⟨failed, same⟩
  refine ⟨coherent.congr same, ?_, Or.inr ⟨failure, failed, fault.congr same⟩⟩
  exact ((AddsOnly.refl needs between).cons adds).congr same

/-- A run of a program that requests what is needed is a search of the graph. -/
theorem searches (follows : catalogue.Follows graph) {α : Type} {program : Program σ γ ν α}
    {before after : Container σ ν} {chronicle : Chronicle σ γ ν} {outcome : Except BackendError α}
    {ending : Except BackendError α → Prop} {needs : List γ} (path : List γ)
    (run : catalogue.Runs program before chronicle outcome after)
    (requests : program.Requests catalogue.Admits ending needs)
    (coherent : catalogue.Coherent graph before)
    (descends : catalogue.Descends graph subject before path)
    (prolong : ∀ needed ∈ needs, Prolongs graph subject path needed) :
    catalogue.Searched graph subject ending needs before outcome after := by
  induction run generalizing needs path with
  | finish outcome container =>
      rcases requests with ⟨rfl, ended⟩
      exact ⟨coherent, .refl _ _, Or.inl ⟨ended, by simp⟩⟩
  | read rest ih => exact ih path (requests _) coherent descends prolong
  | write rest ih =>
      have unchanged := ih path requests (coherent.congr fun _ => rfl)
        ⟨descends.marked, descends.distinct, descends.reached, descends.unstored⟩ prolong
      exact ⟨unchanged.coherent, unchanged.adds, unchanged.ended⟩
  | @recalled _ reference _ container after answer _ _ known rest ih =>
      rcases requests with ⟨needs, rfl, failing, going⟩
      rcases Container.immediate?_cases known with
        ⟨entry, stored, rfl⟩ | ⟨absent, resolving, rfl⟩
      · have admitted := coherent.typed reference entry stored
        rw [Container.ofKind_of_admits admitted] at ih
        have later := ih path (going entry admitted) coherent descends
          fun needed needed_mem => prolong needed (List.mem_cons_of_mem _ needed_mem)
        exact later.cons rest.extends_before ⟨entry, stored⟩ (.refl _ _)
      · have reference_mem := (descends.isResolving_iff follows reference).mp resolving
        have fault := descends.fault follows (prolong reference List.mem_cons_self) reference_mem
        exact rest.searched_of_failure (failing _) coherent (.refl _ _) fault
  | @computed _ reference _ before inner between after result answer nested _ outcome unknown body
      settled rest ihBody ihRest =>
      rcases requests with ⟨needs, rfl, failing, going⟩
      have entered := prolong reference List.mem_cons_self
      have searched := ihBody (path ++ [reference]) (follows.bodies reference)
        (coherent.congr fun _ => rfl) (descends.enter follows entered.reached unknown)
        fun needed => entered.next
      have adds : catalogue.AddsOnly graph [reference] before between :=
        AddsOnly.settle searched.adds settled
      have absent := lookup?_body unknown body
      -- The body may have failed by itself or for what it needs; either way nothing is kept.
      have failed : ∀ failure, result = .error failure →
          catalogue.Fault graph subject inner failure →
            catalogue.Searched graph subject ending (reference :: needs) before outcome after := by
        rintro failure rfl fault
        rw [Container.settle_error] at settled
        cases settled
        exact rest.searched_of_failure (failing failure) (searched.coherent.congr fun _ => rfl) adds
          (fault.congr fun _ => rfl)
      rcases searched.ended with ⟨ends, needsStored⟩ | ⟨failure, same, fault⟩
      · unfold Ends at ends
        cases own : graph.failure reference with
        | some failure =>
            rw [own] at ends
            exact failed failure ends (.fails entered.reached own)
        | none =>
            rw [own] at ends
            rcases ends with ⟨entry, rfl, admitted⟩
            have kept : answer = .ok entry ∧ _ := settle_eq absent
              (fun made same => by cases same; exact admitted) settled
            rcases kept with ⟨rfl, stored⟩
            have later := ihRest path (going entry admitted)
              (searched.coherent.settle follows absent needsStored own admitted settled)
              (descends.answered follows unknown body settled)
              fun needed needed_mem => prolong needed (List.mem_cons_of_mem _ needed_mem)
            exact later.cons rest.extends_before ⟨entry, stored⟩ adds
      · exact failed failure same fault

end Runs

/-! ## Requests -/

/-- The containers that requests lead to from a fresh one. -/
inductive Arises (catalogue : Catalogue σ γ ν) : Container σ ν → Prop
  | new (state : σ) : Arises catalogue (.new state)
  | resolve {container : Container σ ν} (earlier : Arises catalogue container) (reference : γ) :
    Arises catalogue (catalogue.resolve reference container).2

/-- What is to be expected of a request for a goal: the answer, and the containers before and after
it. -/
structure AnswersSearch (catalogue : Catalogue σ γ ν) (graph : DependencyGraph γ) (goal : γ)
    (before : Container σ ν) (answer : Except BackendError ν) (after : Container σ ν) : Prop where
  /-- The request succeeds exactly when no cycle and no failing generator can be reached. -/
  succeeds : (∃ entry, answer = .ok entry) ↔ graph.Sound goal
  /-- When it succeeds, exactly what could be reached has been stored. -/
  stores : (∃ entry, answer = .ok entry) → ∀ id, after.contains id = true ↔
    before.contains id = true ∨
      ∃ reached, graph.Reaches goal reached ∧ (catalogue.generator reached).id = id
  /-- When it fails, the failure is that of a generator which can be reached, or names the groups
  around a cycle which can be reached and of which nothing is stored. -/
  fails : ∀ failure, answer = .error failure →
    (∃ reached, graph.Reaches goal reached ∧ graph.failure reached = some failure) ∨
      ∃ walk, graph.IsCycle walk ∧ (∀ reached ∈ walk, graph.Reaches goal reached) ∧
        failure = .cyclicDependency (walk.map catalogue.group) ∧
          ∀ reached ∈ walk, after.contains (catalogue.generator reached).id = false
  /-- When it fails, the goal is not stored. -/
  unstored : ∀ failure, answer = .error failure →
    after.contains (catalogue.generator goal).id = false
  /-- Whether it succeeds or fails, entries stay as they are, -/
  keeps : after.Extends before
  /-- what is added can be reached from the goal, -/
  adds : ∀ id, after.contains id = true → before.contains id = true ∨
    ∃ reached, graph.Reaches goal reached ∧ (catalogue.generator reached).id = id
  /-- what is needed for an entry is stored, -/
  closed : ∀ reference, after.contains (catalogue.generator reference).id = true →
    ∀ needed ∈ graph.needs reference, after.contains (catalogue.generator needed).id = true
  /-- no cycle and no failing generator can be reached from an entry, -/
  sound : ∀ reference, after.contains (catalogue.generator reference).id = true →
    graph.Sound reference
  /-- and nothing is being resolved any more. -/
  restores : after.resolving = []

theorem stored_iff_contains {container : Container σ ν} {reference : γ} :
    catalogue.Stored container reference ↔
      container.contains (catalogue.generator reference).id = true :=
  (container.contains_iff _).symm

theorem not_stored_iff_contains {container : Container σ ν} {reference : γ} :
    ¬catalogue.Stored container reference ↔
      container.contains (catalogue.generator reference).id = false := by
  rw [stored_iff_contains, Bool.not_eq_true]

/-- Nothing sound is at fault. -/
theorem Fault.not_sound {container : Container σ ν} {failure : BackendError}
    (fault : catalogue.Fault graph subject container failure) : ¬graph.Sound subject := by
  intro sound
  cases fault with
  | fails reached own =>
      rw [sound.succeeds _ reached] at own
      cases own
  | closes cycle reached unstored => exact sound.not_isCycle reached cycle

/-- The request at the top is a search from its goal along no path. -/
theorem Coherent.searched_resolve (follows : catalogue.Follows graph) {container : Container σ ν}
    (coherent : catalogue.Coherent graph container) (idle : container.resolving = []) (goal : γ) :
    catalogue.Searched graph goal (fun outcome => ∃ entry, outcome = .ok entry) [goal] container
        (catalogue.resolve goal container).1 (catalogue.resolve goal container).2 ∧
      (catalogue.resolve goal container).2.Extends container ∧
      (catalogue.resolve goal container).2.resolving = [] := by
  rcases catalogue.exists_runs_resolve follows.listed goal container with ⟨chronicle, run⟩
  refine ⟨?_, run.extends_before, run.resolving_eq.trans idle⟩
  refine Runs.searches follows [] run ?_ coherent ⟨by simpa using idle, .nil, by simp, by simp⟩ ?_
  · refine ⟨[], rfl, fun failure => rfl, fun entry _ => ⟨rfl, entry, rfl⟩⟩
  · intro needed needed_mem
    rw [List.mem_singleton.mp needed_mem]
    exact ⟨.singleton goal, .refl⟩

/-- Whatever was requested before, the container is coherent and nothing is being resolved. -/
theorem Arises.coherent (follows : catalogue.Follows graph) {container : Container σ ν}
    (arises : catalogue.Arises container) :
    catalogue.Coherent graph container ∧ container.resolving = [] := by
  induction arises with
  | new state => exact ⟨catalogue.coherent_new graph state, rfl⟩
  | resolve earlier reference ih =>
      rcases ih.1.searched_resolve follows ih.2 reference with ⟨searched, _, idle⟩
      exact ⟨searched.coherent, idle⟩

/-- On a family that follows a graph, every request after any others is answered as a search of the
graph from its goal. -/
theorem Follows.resolve_searches (follows : catalogue.Follows graph) {container : Container σ ν}
    (arises : catalogue.Arises container) (goal : γ) :
    catalogue.AnswersSearch graph goal container (catalogue.resolve goal container).1
      (catalogue.resolve goal container).2 := by
  rcases arises.coherent follows with ⟨coherent, idle⟩
  rcases coherent.searched_resolve follows idle goal with ⟨searched, extended, restored⟩
  generalize (catalogue.resolve goal container).1 = answer at searched ⊢
  generalize (catalogue.resolve goal container).2 = after at searched extended restored ⊢
  have stored : (∃ entry, answer = .ok entry) → catalogue.Stored after goal := by
    rintro ⟨entry, rfl⟩
    rcases searched.ended with ⟨_, needsStored⟩ | ⟨failure, failed, _⟩
    · exact needsStored goal (List.mem_singleton_self goal)
    · cases failed
  have fault : ∀ failure, answer = .error failure → catalogue.Fault graph goal after failure := by
    rintro failure rfl
    rcases searched.ended with ⟨⟨entry, succeeded⟩, _⟩ | ⟨reported, failed, fault⟩
    · cases succeeded
    · cases failed
      exact fault
  have adds : ∀ id, after.contains id = true → container.contains id = true ∨
      ∃ reached, graph.Reaches goal reached ∧ (catalogue.generator reached).id = id := by
    intro id contained
    rcases (after.contains_iff id).mp contained with ⟨entry, stored⟩
    rcases searched.adds id entry stored with storedBefore | ⟨needed, needed_mem, reached⟩
    · exact Or.inl ((container.contains_iff id).mpr ⟨entry, storedBefore⟩)
    · rw [List.mem_singleton.mp needed_mem] at reached
      exact Or.inr reached
  refine ⟨⟨?_, ?_⟩, ?_, ?_, ?_, extended, adds, ?_, ?_, restored⟩
  · exact fun succeeded => searched.coherent.sound goal (stored succeeded)
  · intro sound
    cases answer with
    | ok entry => exact ⟨entry, rfl⟩
    | error failure => exact absurd sound (fault failure rfl).not_sound
  · intro succeeded id
    refine ⟨adds id, ?_⟩
    rintro (contained | ⟨reached, reaches, rfl⟩)
    · rcases (container.contains_iff id).mp contained with ⟨entry, storedBefore⟩
      exact (after.contains_iff id).mpr ⟨entry, extended id entry storedBefore⟩
    · exact stored_iff_contains.mp
        (searched.coherent.stored_of_reaches (stored succeeded) reaches)
  · intro failure failed
    cases fault failure failed with
    | fails reached own => exact Or.inl ⟨_, reached, own⟩
    | closes cycle reached unstored =>
        refine Or.inr ⟨_, cycle, reached, rfl, ?_⟩
        exact fun other other_mem => not_stored_iff_contains.mp (unstored other other_mem)
  · intro failure failed
    rw [← not_stored_iff_contains]
    exact fun storedGoal =>
      (fault failure failed).not_sound (searched.coherent.sound goal storedGoal)
  · intro reference contained needed needs
    exact stored_iff_contains.mp
      (searched.coherent.closed reference needed (stored_iff_contains.mpr contained) needs)
  · intro reference contained
    exact searched.coherent.sound reference (stored_iff_contains.mpr contained)

end Catalogue

namespace RecipeBook

/-- A recipe that needs one which can be made and then two that need each other. -/
def looped : RecipeBook where
  recipes := [
    { name := "gateway", group := "api", needs := ["table", "pool"], tolerant := false,
      failure := none, kind := .number, identity := none },
    { name := "table", group := "data", needs := [], tolerant := false, failure := none,
      kind := .number, identity := none },
    { name := "pool", group := "auth", needs := ["trigger"], tolerant := false, failure := none,
      kind := .number, identity := none },
    { name := "trigger", group := "function", needs := ["pool"], tolerant := false,
      failure := none, kind := .number, identity := none }]

/-- The container after a first request, which came upon the cycle. -/
def loopedOnce : Container RecipeState RecipeEntry :=
  (looped.catalogue.resolve ⟨0, by decide⟩ (.new (.new .default))).2

/-- A request for a recipe on the cycle, after one that has failed, is answered as a search of the
graph. -/
theorem looped_answersSearch :
    looped.catalogue.Follows looped.graph ∧ looped.catalogue.Arises loopedOnce ∧
      looped.catalogue.AnswersSearch looped.graph ⟨3, by decide⟩ loopedOnce
        (looped.catalogue.resolve ⟨3, by decide⟩ loopedOnce).1
        (looped.catalogue.resolve ⟨3, by decide⟩ loopedOnce).2 := by
  have follows : looped.catalogue.Follows looped.graph :=
    looped.follows (by decide) (by decide)
  have arises : looped.catalogue.Arises loopedOnce := .resolve (.new _) _
  exact ⟨follows, arises, follows.resolve_searches arises _⟩

example : (looped.catalogue.resolve ⟨3, by decide⟩ loopedOnce).1 =
    .error (.cyclicDependency ["function", "auth", "function"]) := by decide +kernel

end RecipeBook

end CloudSynth
