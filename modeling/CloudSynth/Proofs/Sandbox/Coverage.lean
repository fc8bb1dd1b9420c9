import Mathlib.Data.List.Nodup
import CloudSynth.Proofs.Sandbox.Blocks

/-!
# Which deploy covers a request

A request that is answered with success was covered by a deploy: one that was started after the
request was submitted, for the batch that the request had joined, and that returned successfully
before the answer. The deploy takes its backend from the last request of the batch
(`Executor.run_covered`), so a request that is joined by a later one for another backend is told of
a success that is not its own backend's (`Executor.mixing_answers_without_deploy`).

The history in blocks gives all of this: what was answered belongs to a block, and the work on the
block follows the submission of its requests.
-/

namespace CloudSynth

/-! ## Places in a history -/

theorem exists_of_workIn_eq_append {history first second : List ExecutorEvent}
    (work : workIn history = first ++ second) :
    ∃ past later, history = past ++ later ∧ workIn past = first ∧ workIn later = second :=
  List.filter_eq_append_iff.mp work

theorem exists_of_workIn_eq_cons {history : List ExecutorEvent} {event : ExecutorEvent}
    {rest : List ExecutorEvent} (work : workIn history = event :: rest) :
    ∃ past later, history = past ++ event :: later ∧ workIn later = rest := by
  rcases List.filter_eq_cons_iff.mp work with ⟨past, later, cut, _, _, remaining⟩
  exact ⟨past, later, cut, remaining⟩

theorem mem_submissionsIn {history : List ExecutorEvent} {ticket : Nat} {request : DeployRequest} :
    (ticket, request) ∈ submissionsIn history ↔ .submitted ticket request ∈ history := by
  constructor
  · intro submission_mem
    rcases List.mem_filterMap.mp submission_mem with ⟨event, event_mem, submitted⟩
    cases event <;> simp [ExecutorEvent.submission?] at submitted
    rcases submitted with ⟨rfl, rfl⟩
    exact event_mem
  · intro event_mem
    exact List.mem_filterMap.mpr ⟨_, event_mem, rfl⟩

/-! ## Blocks that were answered -/

namespace Block

variable {block : Block} {ticket : Nat}

/-- A block whose requests were answered with success was deployed, and the deploy returned. -/
theorem deployed_of_answered (answered : .answered ticket (.ok ()) ∈ block.events) :
    (∃ secrets options, block.progress = .deployed secrets options (.returned ())) ∧
      ∃ request, (ticket, request) ∈ block.requests := by
  rcases block with ⟨earlier, last, progress⟩
  rcases List.mem_append.mp answered with call | answer
  · cases progress <;> simp [calls] at call
  · cases progress with
    | deployed secrets options outcome =>
        cases outcome <;> simp [answers, BlockProgress.result?, Executor.resultOf] at answer
        exact ⟨⟨secrets, options, rfl⟩, answer⟩
    | _ => simp [answers, BlockProgress.result?] at answer

/-- The work on a block that was deployed, around the deploy. -/
theorem events_of_deployed {secrets : List ListedSecret} {options : DeployOptions}
    {outcome : DeployOutcome} (progress : block.progress = .deployed secrets options outcome) :
    block.events = [.validated block.last.1, .listed block.last.2.backend] ++
      (.started block.batch options :: .ended block.batch outcome :: block.answers) := by
  simp [events, calls, progress]

theorem le_last_of_mem {request : DeployRequest}
    (ordered : (block.requests.map (·.1)).Pairwise (· < ·))
    (request_mem : (ticket, request) ∈ block.requests) :
    ticket ≤ block.last.1 ∧ (ticket = block.last.1 ∨ ticket < block.last.1) := by
  simp only [requests, List.map_append, List.map_cons, List.map_nil] at ordered request_mem
  rw [List.pairwise_append] at ordered
  rcases List.mem_append.mp request_mem with earlier | last
  · have before := ordered.2.2 ticket (List.mem_map.mpr ⟨_, earlier, rfl⟩) block.last.1 (by simp)
    exact ⟨Nat.le_of_lt before, Or.inr before⟩
  · have same : ticket = block.last.1 := congrArg Prod.fst (List.mem_singleton.mp last)
    exact ⟨Nat.le_of_eq same, Or.inl same⟩

end Block

/-! ## Coverage -/

/-- The history has a deploy of the batch that covers the request. -/
structure Covers (history : List ExecutorEvent) (batch : Batch) (ticket : Nat)
    (request : DeployRequest) : Prop where
  /-- The deploy was started after the request and the latest request of the batch were submitted;
  it returned successfully, and then the request was answered. -/
  deploy : ∃ past between after options,
    history = past ++ .started batch options :: (between ++ .ended batch (.returned ()) :: after) ∧
      .submitted ticket request ∈ past ∧ .submitted batch.ticket batch.latest ∈ past ∧
      .answered ticket (.ok ()) ∈ after
  /-- The request is one of the batch, of which the latest is none before it. -/
  joined : ticket ∈ batch.waiters ∧ ∀ waiter ∈ batch.waiters, waiter ≤ batch.ticket
  /-- The deploy is for the backend of the request, unless a later one of the batch names another.
  -/
  backend : batch.latest.backend = request.backend ∨ ticket < batch.ticket

namespace Executor

variable {executor : Executor} {steps : List Step}

theorem exists_ledger_of_run (taken : new.run? steps = some executor) :
    ∃ blocks queued, executor.Ledger steps blocks queued := by
  refine run_induction (motive := fun steps executor =>
    ∃ blocks queued, executor.Ledger steps blocks queued) ⟨[], [], ledger_new⟩ ?_ taken
  rintro steps executor step later ⟨blocks, queued, ledger⟩ steady moves
  exact moves.ledger steady ledger

/-- Requests have numbers of their own. -/
theorem submission_unique (taken : new.run? steps = some executor) {ticket : Nat}
    {first second : DeployRequest} (first_mem : (ticket, first) ∈ submissionsIn executor.history)
    (second_mem : (ticket, second) ∈ submissionsIn executor.history) : first = second := by
  have distinct : ((submissionsIn executor.history).map (·.1)).Nodup := by
    rw [(submissions_of_run taken).1]
    exact List.nodup_range
  exact congrArg Prod.snd (List.inj_on_of_nodup_map distinct first_mem second_mem rfl)

theorem pairwise_requests (taken : new.run? steps = some executor) {blocks : List Block}
    {queued : List (Nat × DeployRequest)} (ledger : executor.Ledger steps blocks queued)
    {block : Block} (block_mem : block ∈ blocks) :
    (block.requests.map (·.1)).Pairwise (· < ·) := by
  have numbered := (submissions_of_run taken).1
  rcases List.append_of_mem block_mem with ⟨before, after, rfl⟩
  simp only [ledger.chronicled.submitted, List.flatMap_append, List.flatMap_cons,
    List.map_append, List.append_assoc] at numbered
  have part : block.requests.map (·.1) <:+: List.range executor.tickets := ⟨_, _, by
    rw [← numbered, List.append_assoc]⟩
  exact List.Pairwise.sublist part.sublist List.pairwise_lt_range

/-- In every run, a request that is answered with success is covered by a deploy: it was started
after the request was submitted, for the backend of the last request of its batch, and it returned
successfully. -/
theorem run_covered (taken : new.run? steps = some executor) {ticket : Nat}
    {request : DeployRequest} (submitted : .submitted ticket request ∈ executor.history)
    (answered : .answered ticket (.ok ()) ∈ executor.history) :
    ∃ batch, Covers executor.history batch ticket request := by
  rcases exists_ledger_of_run taken with ⟨blocks, queued, ledger⟩
  have chronicled := ledger.chronicled
  -- The answer is work on a block, which was deployed.
  have answer_mem : .answered ticket (.ok ()) ∈ workIn executor.history :=
    List.mem_filter.mpr ⟨answered, rfl⟩
  rw [chronicled.work] at answer_mem
  rcases List.mem_flatMap.mp answer_mem with ⟨block, block_mem, answer_of_block⟩
  rcases Block.deployed_of_answered answer_of_block with
    ⟨⟨secrets, options, progress⟩, joined, joined_mem⟩
  -- All requests of the block were submitted before the work on it began.
  rcases List.append_of_mem block_mem with ⟨before, after, rfl⟩
  rcases chronicled.begun before block ⟨after, by simp⟩ with
    ⟨_, past, later, history_eq, workPast, requestsPast⟩
  have submittedPast : ∀ entry ∈ block.requests, .submitted entry.1 entry.2 ∈ past := by
    intro entry entry_mem
    apply mem_submissionsIn.mp
    apply requestsPast.subset
    simp [entry_mem]
  have joined_submitted : (ticket, joined) ∈ submissionsIn executor.history := by
    rw [mem_submissionsIn, history_eq]
    exact List.mem_append_left _ (submittedPast _ joined_mem)
  have joined_eq : joined = request :=
    submission_unique taken joined_submitted (mem_submissionsIn.mpr submitted)
  subst joined_eq
  -- The work after that is the work on the block, and then on those that follow.
  have workLater : workIn later = [.validated block.last.1, .listed block.last.2.backend] ++
      (.started block.batch options :: .ended block.batch (.returned ()) ::
        (block.answers ++ after.flatMap Block.events)) := by
    have work := chronicled.work
    rw [history_eq, workIn_append, workPast, List.flatMap_append, List.append_cancel_left_eq,
      List.flatMap_cons, Block.events_of_deployed progress] at work
    simpa using work
  rcases exists_of_workIn_eq_append workLater with ⟨prepared, going, rfl, _, workGoing⟩
  rcases exists_of_workIn_eq_cons workGoing with ⟨lead, running, rfl, workRunning⟩
  rcases exists_of_workIn_eq_cons workRunning with ⟨between, rest, rfl, workRest⟩
  have ordered := pairwise_requests taken ledger block_mem
  have last_mem : block.last ∈ block.requests := by simp [Block.requests]
  refine ⟨block.batch, ⟨past ++ prepared ++ lead, between, rest, options, ?_, ?_, ?_, ?_⟩, ⟨?_, ?_⟩,
    ?_⟩
  · simp [history_eq]
  · simp [submittedPast _ joined_mem]
  · have latest := submittedPast _ last_mem
    simp [Block.batch, latest]
  · have answers_mem : .answered ticket (.ok ()) ∈ workIn rest := by
      rw [workRest]
      apply List.mem_append_left
      simp only [Block.answers, progress, BlockProgress.result?, resultOf]
      exact List.mem_map.mpr ⟨_, joined_mem, rfl⟩
    exact List.mem_of_mem_filter answers_mem
  · exact List.mem_map.mpr ⟨_, joined_mem, rfl⟩
  · intro waiter waiter_mem
    rcases List.mem_map.mp waiter_mem with ⟨entry, entry_mem, rfl⟩
    exact (Block.le_last_of_mem ordered entry_mem).1
  · rcases (Block.le_last_of_mem ordered joined_mem).2 with last | earlier
    · left
      have last_submitted : (ticket, block.last.2) ∈ submissionsIn executor.history := by
        rw [mem_submissionsIn, history_eq, last]
        exact List.mem_append_left _ (submittedPast _ last_mem)
      rw [submission_unique taken joined_submitted last_submitted]
      rfl
    · exact Or.inr earlier

/-- A request for a backend of a name. -/
def requestFor (name : String) : DeployRequest where
  backend := ⟨"orders", name, .sandbox⟩
  validation := .ok true
  profile := none

/-- A request for one backend is joined by one for another, and their deploy succeeds. -/
def mixing : List Step :=
  [.submit (requestFor "dev"), .submit (requestFor "test"), .look 0, .validate 0,
    .list 0 (.returned []), .finish 0 (.returned ())]

/-- The batch of both requests. -/
def mixture : Batch := ⟨requestFor "test", 1, [0, 1]⟩

/-- The executor after that. -/
def mixed : Executor where
  running := true
  pending := none
  workers := [.resting]
  tickets := 2
  abandoned := []
  history :=
    [.submitted 0 (requestFor "dev"), .submitted 1 (requestFor "test"), .validated 1,
      .listed (requestFor "test").backend,
      .started mixture (options mixture true []), .ended mixture (.returned ()),
      .answered 0 (.ok ()), .answered 1 (.ok ())]

theorem run_mixing : new.run? mixing = some mixed := rfl

/-- The request that was joined is covered by the deploy of the joint batch. -/
theorem mixing_covered :
    ∃ executor, new.run? mixing = some executor ∧
      .submitted 0 (requestFor "dev") ∈ executor.history ∧
      .answered 0 (.ok ()) ∈ executor.history ∧
      ∃ batch, Covers executor.history batch 0 (requestFor "dev") := by
  have first_mem : .submitted 0 (requestFor "dev") ∈ mixed.history := by simp [mixed]
  have answer_mem : .answered 0 (.ok ()) ∈ mixed.history := by simp [mixed]
  exact ⟨mixed, run_mixing, first_mem, answer_mem, run_covered run_mixing first_mem answer_mem⟩

/-- A request for one backend is answered with success in a run in which no deploy of that backend
is ever started. -/
theorem mixing_answers_without_deploy :
    ∃ executor, new.run? mixing = some executor ∧
      .submitted 0 (requestFor "dev") ∈ executor.history ∧
      .answered 0 (.ok ()) ∈ executor.history ∧
      ∀ batch options, .started batch options ∈ executor.history →
        batch.latest.backend ≠ (requestFor "dev").backend := by
  refine ⟨mixed, run_mixing, by simp [mixed], by simp [mixed], ?_⟩
  intro batch options started
  have latest : batch.latest = requestFor "test" := by
    simp only [mixed, List.mem_cons, List.not_mem_nil, ExecutorEvent.started.injEq, reduceCtorEq,
      or_false, false_or] at started
    rw [started.1]
    rfl
  rw [latest]
  decide

end Executor

end CloudSynth
