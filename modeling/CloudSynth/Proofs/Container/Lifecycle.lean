import CloudSynth.Proofs.Container.Family

/-!
# The life of a generator

Seen from a single generator, a run of any program is a sequence of events: its body begins and
ends, and requests for it are answered without running it. In a family this sequence has a simple
form (`Life`). An idle generator can only begin. While its body runs it does not begin again, and
requests for it fail with a cycle. A body that fails makes it idle; one that succeeds makes it
stored for good, and from then on every request is answered with the one entry that was made.

The phase of a generator can be read off the container (`Container.phase`), and a run leads from the
phase at its start to the phase at its end (`Catalogue.Runs.life`). This is the invariant behind
`Catalogue.IsFamily.run_orderly`, which says in full how requests are answered.
-/

namespace CloudSynth

/-! ## Events -/

/-- Something that happens to a generator while a program runs. -/
inductive GeneratorEvent (σ γ ν : Type)
  /-- Its body begins; the container is the one before. -/
  | began (reference : γ) (container : Container σ ν)
  /-- Its body is over and its request answered; the container is the one after. -/
  | ended (reference : γ) (result : Except BackendError ν) (container : Container σ ν)
  /-- A request for it was answered and nothing ran. -/
  | recalled (reference : γ) (answer : Except BackendError ν) (container : Container σ ν)

namespace GeneratorEvent

variable {σ γ ν : Type}

/-- The generator that the event happens to. -/
def reference : GeneratorEvent σ γ ν → γ
  | .began reference _ | .ended reference _ _ | .recalled reference _ _ => reference

/-- The container at the time of the event. -/
def container : GeneratorEvent σ γ ν → Container σ ν
  | .began _ container | .ended _ _ container | .recalled _ _ container => container

end GeneratorEvent

/-- A request from when it was made until it was answered. -/
structure GeneratorCall (σ γ ν : Type) where
  reference : γ
  before : Container σ ν
  answer : Except BackendError ν
  after : Container σ ν

namespace Chronicle

variable {σ γ ν : Type}

/-- What happened, in order. -/
def events : Chronicle σ γ ν → List (GeneratorEvent σ γ ν)
  | .done => []
  | .recalled reference container answer later =>
      .recalled reference answer container :: later.events
  | .computed reference before nested result _ after later =>
      .began reference before :: (nested.events ++ .ended reference result after :: later.events)

/-- All requests, those of the program and those made while bodies ran for them. -/
def calls : Chronicle σ γ ν → List (GeneratorCall σ γ ν)
  | .done => []
  | .recalled reference container answer later =>
      ⟨reference, container, answer, container⟩ :: later.calls
  | .computed reference before nested _ answer after later =>
      ⟨reference, before, answer, after⟩ :: (nested.calls ++ later.calls)

end Chronicle

/-! ## Phases -/

/-- Where a generator stands. -/
inductive Phase (ν : Type)
  | idle
  | running
  | stored (entry : ν)

/-- The phase of the generator of an identity. -/
def Container.phase {σ ν : Type} (container : Container σ ν) (id : GeneratorId) : Phase ν :=
  match container.lookup? id with
  | some entry => .stored entry
  | none => if container.isResolving id then .running else .idle

/-- Events that lead a generator from one phase to another. -/
inductive Life {σ γ ν : Type} (reference : γ) :
    Phase ν → List (GeneratorEvent σ γ ν) → Phase ν → Prop
  | nil (phase : Phase ν) : Life reference phase [] phase
  | other {phase last : Phase ν} {event : GeneratorEvent σ γ ν}
    {events : List (GeneratorEvent σ γ ν)} (different : event.reference ≠ reference)
    (rest : Life reference phase events last) : Life reference phase (event :: events) last
  | begins {last : Phase ν} {container : Container σ ν} {events : List (GeneratorEvent σ γ ν)}
    (rest : Life reference .running events last) :
    Life reference .idle (.began reference container :: events) last
  | closes {last : Phase ν} {failure : BackendError} {container : Container σ ν}
    {events : List (GeneratorEvent σ γ ν)} (rest : Life reference .running events last) :
    Life reference .running (.recalled reference (.error failure) container :: events) last
  | fails {last : Phase ν} {failure : BackendError} {container : Container σ ν}
    {events : List (GeneratorEvent σ γ ν)} (rest : Life reference .idle events last) :
    Life reference .running (.ended reference (.error failure) container :: events) last
  | completes {last : Phase ν} {entry : ν} {container : Container σ ν}
    {events : List (GeneratorEvent σ γ ν)} (rest : Life reference (.stored entry) events last) :
    Life reference .running (.ended reference (.ok entry) container :: events) last
  | recalls {last : Phase ν} {entry : ν} {container : Container σ ν}
    {events : List (GeneratorEvent σ γ ν)} (rest : Life reference (.stored entry) events last) :
    Life reference (.stored entry) (.recalled reference (.ok entry) container :: events) last

namespace Life

variable {σ γ ν : Type} {reference : γ} {first middle last : Phase ν}
  {events later : List (GeneratorEvent σ γ ν)} {event : GeneratorEvent σ γ ν}

theorem append (earlier : Life reference first events middle)
    (rest : Life reference middle later last) : Life reference first (events ++ later) last := by
  induction earlier with
  | nil => exact rest
  | other different _ ih => exact .other different (ih rest)
  | begins _ ih => exact .begins (ih rest)
  | closes _ ih => exact .closes (ih rest)
  | fails _ ih => exact .fails (ih rest)
  | completes _ ih => exact .completes (ih rest)
  | recalls _ ih => exact .recalls (ih rest)

theorem exists_of_append (life : Life reference first (events ++ later) last) :
    ∃ middle, Life reference first events middle ∧ Life reference middle later last := by
  induction events generalizing first with
  | nil => exact ⟨first, .nil first, life⟩
  | cons event events ih =>
      cases life with
      | other different rest =>
          rcases ih rest with ⟨middle, earlier, after⟩
          exact ⟨middle, .other different earlier, after⟩
      | begins rest =>
          rcases ih rest with ⟨middle, earlier, after⟩
          exact ⟨middle, .begins earlier, after⟩
      | closes rest =>
          rcases ih rest with ⟨middle, earlier, after⟩
          exact ⟨middle, .closes earlier, after⟩
      | fails rest =>
          rcases ih rest with ⟨middle, earlier, after⟩
          exact ⟨middle, .fails earlier, after⟩
      | completes rest =>
          rcases ih rest with ⟨middle, earlier, after⟩
          exact ⟨middle, .completes earlier, after⟩
      | recalls rest =>
          rcases ih rest with ⟨middle, earlier, after⟩
          exact ⟨middle, .recalls earlier, after⟩

/-- What follows a beginning starts from a running body. -/
theorem running_of_began {container : Container σ ν}
    (life : Life reference first (.began reference container :: events) last) :
    first = .idle ∧ Life reference .running events last := by
  cases life with
  | other different rest => exact absurd rfl different
  | begins rest => exact ⟨rfl, rest⟩

/-- A generator becomes idle again only by the end of its body. -/
theorem exists_ended_of_running (life : Life reference .running events .idle) :
    ∃ result container, .ended reference result container ∈ events := by
  generalize started : Phase.running = start at life
  generalize finished : Phase.idle = finish at life
  induction life with
  | nil phase => rw [← finished] at started; cases started
  | other different rest ih =>
      rcases ih started finished with ⟨result, container, ended_mem⟩
      exact ⟨result, container, List.mem_cons_of_mem _ ended_mem⟩
  | begins => cases started
  | closes rest ih =>
      rcases ih started finished with ⟨result, container, ended_mem⟩
      exact ⟨result, container, List.mem_cons_of_mem _ ended_mem⟩
  | fails => exact ⟨_, _, List.mem_cons_self⟩
  | completes => exact ⟨_, _, List.mem_cons_self⟩
  | recalls => cases started

/-- Between two beginnings of a body there is an end of it. -/
theorem exists_ended_between {one two : Container σ ν}
    {before between after : List (GeneratorEvent σ γ ν)}
    (life : Life reference first
      (before ++ .began reference one :: (between ++ .began reference two :: after)) last) :
    ∃ result container, .ended reference result container ∈ between := by
  rcases exists_of_append life with ⟨_, _, fromFirst⟩
  rcases exists_of_append (running_of_began fromFirst).2 with ⟨phase, run, fromSecond⟩
  rw [(running_of_began fromSecond).1] at run
  exact run.exists_ended_of_running

/-- Once an entry is stored, all that happens is that requests are answered with it. -/
theorem recalled_of_stored {entry : ν} (life : Life reference (.stored entry) events last)
    (event_mem : event ∈ events) (same : event.reference = reference) :
    ∃ container, event = .recalled reference (.ok entry) container := by
  generalize started : Phase.stored entry = start at life
  induction life with
  | nil => cases event_mem
  | other different rest ih =>
      rcases List.mem_cons.mp event_mem with rfl | rest_mem
      · exact absurd same different
      · exact ih rest_mem started
  | begins => cases started
  | closes => cases started
  | fails => cases started
  | completes => cases started
  | recalls rest ih =>
      cases started
      rcases List.mem_cons.mp event_mem with rfl | rest_mem
      · exact ⟨_, rfl⟩
      · exact ih rest_mem rfl

theorem stored_of_ended_ok {entry : ν} {container : Container σ ν}
    (life : Life reference first (.ended reference (.ok entry) container :: events) last) :
    Life reference (.stored entry) events last := by
  cases life with
  | other different rest => exact absurd rfl different
  | completes rest => exact rest

theorem idle_of_ended_error {failure : BackendError} {container : Container σ ν}
    (life : Life reference first (.ended reference (.error failure) container :: events) last) :
    Life reference .idle events last := by
  cases life with
  | other different rest => exact absurd rfl different
  | fails rest => exact rest

/-- The first thing that happens to an idle generator is that its body begins. -/
theorem began_of_idle {earlier : List (GeneratorEvent σ γ ν)}
    (life : Life reference .idle (earlier ++ event :: later) last)
    (others : ∀ other ∈ earlier, other.reference ≠ reference) (same : event.reference = reference) :
    ∃ container, event = .began reference container := by
  induction earlier with
  | nil =>
      cases life with
      | other different rest => exact absurd same different
      | begins rest => exact ⟨_, rfl⟩
  | cons head earlier ih =>
      cases life with
      | other different rest =>
          exact ih rest fun other other_mem => others other (List.mem_cons_of_mem _ other_mem)
      | begins rest => exact absurd rfl (others _ List.mem_cons_self)

end Life

/-! ## Runs lead from phase to phase -/

namespace Container

variable {σ γ ν : Type}

theorem phase_of_entry {container : Container σ ν} {id : GeneratorId} {entry : ν}
    (stored : container.lookup? id = some entry) : container.phase id = .stored entry := by
  simp [phase, stored]

theorem phase_of_isResolving {container : Container σ ν} {id : GeneratorId}
    (absent : container.lookup? id = none) (resolving : container.isResolving id = true) :
    container.phase id = .running := by
  simp [phase, absent, resolving]

theorem phase_of_idle {container : Container σ ν} {id : GeneratorId}
    (absent : container.lookup? id = none) (idle : container.isResolving id = false) :
    container.phase id = .idle := by
  simp [phase, absent, idle]

theorem phase_congr {container other : Container σ ν} {id : GeneratorId}
    (entries : container.lookup? id = other.lookup? id)
    (resolving : container.isResolving id = other.isResolving id) :
    container.phase id = other.phase id := by
  simp [phase, entries, resolving]

end Container

namespace Catalogue

variable {σ γ ν : Type} {catalogue : Catalogue σ γ ν}

/-- A run of a program leads every generator from its phase before to its phase after. -/
theorem Runs.life (family : catalogue.IsFamily) {α : Type} {program : Program σ γ ν α}
    {before after : Container σ ν} {chronicle : Chronicle σ γ ν} {outcome : Except BackendError α}
    (run : catalogue.Runs program before chronicle outcome after)
    (typed : catalogue.Typed before) (subject : γ) :
    Life subject (before.phase (catalogue.generator subject).id) chronicle.events
      (after.phase (catalogue.generator subject).id) := by
  induction run with
  | finish outcome container => exact .nil _
  | read rest ih => exact ih typed
  | write rest ih => exact ih typed
  | @recalled _ reference _ container _ answer _ _ known rest ih =>
      have later := ih typed
      by_cases same : reference = subject
      · subst same
        rcases Container.immediate?_cases known with
          ⟨entry, stored, rfl⟩ | ⟨absent, resolving, rfl⟩
        · rw [Container.phase_of_entry stored] at later ⊢
          rw [Container.ofKind_of_admits (typed _ _ stored)]
          exact .recalls later
        · rw [Container.phase_of_isResolving absent resolving] at later ⊢
          exact .closes later
      · exact .other same later
  | @computed _ reference _ before inner between after result answer nested later _ unknown body
      settled rest ihBody ihRest =>
      rcases Container.immediate?_eq_none_iff.mp unknown with ⟨absent, idle⟩
      have innerAbsent := Runs.lookup?_body unknown body
      rcases body.typed family (family.typed reference) typed with ⟨typedInner, admitted⟩
      have bodyLife := ihBody typed
      have laterLife := ihRest (family.typed_settle typedInner innerAbsent admitted settled)
      have restored := resolving_answered unknown body.resolving_eq settled
      simp only [Chronicle.events]
      by_cases same : reference = subject
      · subst same
        -- The body of the subject itself: idle, running throughout, then idle again or stored.
        have entered : (before.enter (catalogue.generator reference)).phase
            (catalogue.generator reference).id = .running :=
          Container.phase_of_isResolving absent (by simp)
        have inside : inner.phase (catalogue.generator reference).id = .running :=
          Container.phase_of_isResolving innerAbsent (by rw [body.isResolving_eq]; simp)
        rw [entered, inside] at bodyLife
        rw [Container.phase_of_idle absent idle]
        refine .begins (bodyLife.append ?_)
        have kept := (settle_eq innerAbsent admitted settled).2
        cases result with
        | error failure =>
            rw [Container.phase_of_idle kept
              ((Container.isResolving_congr restored _).trans idle)] at laterLife
            exact .fails laterLife
        | ok entry =>
            rw [Container.phase_of_entry kept] at laterLife
            exact .completes laterLife
      · -- The body of another generator leaves the phase of the subject to what is nested in it.
        have different := family.id_ne same
        have entered : (before.enter (catalogue.generator reference)).phase
            (catalogue.generator subject).id = before.phase (catalogue.generator subject).id :=
          Container.phase_congr rfl (by simp [different])
        have unchanged := Container.lookup?_settle_of_ne (result, inner) different
        rw [settled] at unchanged
        have left : between.phase (catalogue.generator subject).id =
            inner.phase (catalogue.generator subject).id := by
          refine Container.phase_congr unchanged ?_
          rw [Container.isResolving_congr restored, body.isResolving_eq]
          simp [different]
        rw [entered] at bodyLife
        rw [left] at laterLife
        exact .other same (bodyLife.append (.other same laterLife))

end Catalogue

end CloudSynth
