import CloudSynth.Access.Arbitration
import CloudSynth.Error
import CloudSynth.Proofs.Collection.FirstOccurrences
import CloudSynth.Proofs.Text.Joined

/-!
# What an arbitration hands over

An arbitration calls others: grantees are resolved, who they turn out to be is asked for an account
of its role, and accounts accept policies. All of these may do anything to the world they share, and
each may fail at any time. To say which calls are made, the arbiter works in a monad that records
every call with its outcome (`Recording`).

For one grant there are three calls, and each is made only if those before succeeded
(`Arbitration.exists_settles`). By induction the calls for all grants are those for each of them, up
to the first that fails (`Arbitration.exists_settlesAll`). The names of the policies end in the
numbers of their grants, so they are distinct (`Arbitration.FulfilsAll.nodup_names`).
-/

namespace CloudSynth

/-! ## Wishes -/

/-- A grant as it is written: a grantee, and the lists of actions that were chosen one after
another. -/
structure Wish (ρ α : Type) where
  grantee : ρ
  choices : List (List α)

namespace Wish

variable {ρ α : Type} [ActionVocabulary α] [DecidableEq α]

/-- The grant that is made of a wish. -/
def grant (wish : Wish ρ α) : Grant ρ α :=
  wish.choices.foldl Grant.choosing (.ofGrantee wish.grantee)

/-- The actions that are wished for: those chosen last, each the first time it is named, or the
defaults without a choice. -/
def actions (wish : Wish ρ α) : List α :=
  match wish.choices.getLast? with
  | some chosen => chosen.eraseDups
  | none => ActionVocabulary.defaults

theorem grant_eq (wish : Wish ρ α) : wish.grant = ⟨wish.grantee, wish.actions⟩ := by
  rcases wish with ⟨grantee, choices⟩
  rw [grant, actions]
  induction choices using List.reverseRecOn with
  | nil => rfl
  | append_singleton choices chosen ih =>
      rw [List.foldl_concat, ih, Grant.choosing, distinct_eq_eraseDups, List.getLast?_concat]

end Wish

variable {σ ρ η κ α β γ : Type}

/-! ## Recorded calls -/

/-- A call with its outcome. A grantee `ρ` is resolved to a holder of roles `η`, a holder has an
account `κ` for its only role, and an account accepts policies. -/
inductive Call (ρ η κ : Type)
  | resolve (grantee : ρ) (outcome : Except BackendError η)
  | account (holder : η) (outcome : Except BackendError κ)
  | accept (account : κ) (issued : IssuedPolicy) (entries : List ParameterEntry)
      (outcome : Except BackendError Unit)

namespace Call

/-- The grantee that was to be resolved. -/
def grantee? : Call ρ η κ → Option ρ
  | resolve grantee _ => some grantee
  | _ => none

/-- The policy that was accepted. -/
def accepted? : Call ρ η κ → Option IssuedPolicy
  | accept _ issued _ (.ok ()) => some issued
  | _ => none

end Call

/-- Programs that change a world `σ`, record their calls and may fail. -/
abbrev Recording (σ ρ η κ : Type) := ExceptT BackendError (StateM (σ × List (Call ρ η κ)))

namespace Recording

/-- Behaves in some way, as a call that is recorded. -/
def call (note : Except BackendError β → Call ρ η κ) (behave : σ → Except BackendError β × σ) :
    Recording σ ρ η κ β :=
  ExceptT.mk fun (world, calls) =>
    ((behave world).1, ((behave world).2, calls ++ [note (behave world).1]))

/-- Gives a policy the number that the world says. -/
def issue (number : σ → Nat × σ) (policy : Policy) : Recording σ ρ η κ IssuedPolicy :=
  ExceptT.mk fun (world, calls) => (.ok ⟨(number world).1, policy⟩, ((number world).2, calls))

/-- What a program results in: its outcome, the world after it, and all calls up to then. -/
def resultIn (program : Recording σ ρ η κ β) (world : σ) (calls : List (Call ρ η κ)) :
    Except BackendError β × σ × List (Call ρ η κ) :=
  program.run.run (world, calls)

variable {program : Recording σ ρ η κ β} {next : β → Recording σ ρ η κ γ} {world after : σ}
  {calls made : List (Call ρ η κ)}

theorem resultIn_call {note : Except BackendError β → Call ρ η κ}
    {behave : σ → Except BackendError β × σ} {outcome : Except BackendError β}
    (behaves : behave world = (outcome, after)) :
    resultIn (call note behave) world calls = (outcome, after, calls ++ [note outcome]) := by
  have first : (behave world).1 = outcome := congrArg Prod.fst behaves
  have second : (behave world).2 = after := congrArg Prod.snd behaves
  rw [← first, ← second]
  rfl

theorem resultIn_issue (number : σ → Nat × σ) (policy : Policy) :
    resultIn (issue number policy) world calls =
      (.ok ⟨(number world).1, policy⟩, (number world).2, calls) := rfl

theorem resultIn_pure (value : β) :
    resultIn (pure value) world calls = (.ok value, world, calls) := rfl

theorem resultIn_bind_ok {value : β}
    (done : resultIn program world calls = (.ok value, after, made)) :
    resultIn (program >>= next) world calls = resultIn (next value) after made := by
  rw [resultIn] at done
  simp only [resultIn, ExceptT.run_bind, StateT.run_bind, done]
  rfl

theorem resultIn_bind_error {failure : BackendError}
    (failed : resultIn program world calls = (.error failure, after, made)) :
    resultIn (program >>= next) world calls = (.error failure, after, made) := by
  rw [resultIn] at failed
  simp only [resultIn, ExceptT.run_bind, StateT.run_bind, failed]
  rfl

end Recording

open Recording (resultIn_call resultIn_issue resultIn_pure resultIn_bind_ok resultIn_bind_error)

/-- What an arbitration is made with, and how those behave whom it calls. The world also says which
number the next policy gets. -/
structure Arbitration (σ ρ η κ α : Type) where
  resource : String
  entries : List ParameterEntry
  statementsFor : α → List Statement
  resolve : ρ → σ → Except BackendError η × σ
  account : η → σ → Except BackendError κ × σ
  identifier : κ → String
  accept : κ → IssuedPolicy → List ParameterEntry → σ → Except BackendError Unit × σ
  number : σ → Nat × σ

/-- Who a grantee turned out to be, and the policy that was accepted. -/
structure Handover (ρ η κ : Type) where
  grantee : ρ
  holder : η
  account : κ
  issued : IssuedPolicy

namespace Arbitration

/-- The arbiter, with all calls recorded. -/
def arbiter (arbitration : Arbitration σ ρ η κ α) : Arbiter (Recording σ ρ η κ) ρ α where
  resource := arbitration.resource
  acceptorOf grantee := do
    let holder ← Recording.call (.resolve grantee) (arbitration.resolve grantee)
    let account ← Recording.call (.account holder) (arbitration.account holder)
    return {
      identifier := arbitration.identifier account
      accept := fun issued entries => Recording.call (.accept account issued entries)
        (arbitration.accept account issued entries) }
  issue := Recording.issue arbitration.number
  statementsFor := arbitration.statementsFor
  entries := arbitration.entries

section Grants

variable (arbitration : Arbitration σ ρ η κ α) (index : Nat) (grant : Grant ρ α)

/-- The policy for the grant at an index. -/
def policyOf (account : κ) : Policy where
  name := arbitration.resource ++ arbitration.identifier account ++ "AccessPolicy" ++ toString index
  statements := Statement.merge (grant.actions.flatMap arbitration.statementsFor)

/-- The calls by which a policy is handed over, together with all parameters. -/
def handing (handover : Handover ρ η κ) : List (Call ρ η κ) :=
  [.resolve handover.grantee (.ok handover.holder),
    .account handover.holder (.ok handover.account),
    .accept handover.account handover.issued arbitration.entries (.ok ())]

/-- What is handed over is the policy for the grant at an index. -/
structure Fulfils (handover : Handover ρ η κ) : Prop where
  grantee : handover.grantee = grant.grantee
  policy : handover.issued.policy = arbitration.policyOf index grant handover.account

/-- The calls that are made for a grant up to the failure of one of them. -/
inductive Fails (failure : BackendError) : List (Call ρ η κ) → Prop
  | resolve : Fails failure [.resolve grant.grantee (.error failure)]
  | account (holder : η) :
      Fails failure [.resolve grant.grantee (.ok holder), .account holder (.error failure)]
  | accept (holder : η) (account : κ) (issued : IssuedPolicy)
      (policy : issued.policy = arbitration.policyOf index grant account) :
      Fails failure [.resolve grant.grantee (.ok holder), .account holder (.ok account),
        .accept account issued arbitration.entries (.error failure)]

/-- What becomes of the grant at an index: its policy is handed over, or a call fails. -/
inductive Settles : Except BackendError IssuedPolicy → List (Call ρ η κ) → Prop
  | handed (handover : Handover ρ η κ) (fulfils : arbitration.Fulfils index grant handover) :
      Settles (.ok handover.issued) (arbitration.handing handover)
  | failed {failure : BackendError} {calls : List (Call ρ η κ)}
      (fails : arbitration.Fails index grant failure calls) : Settles (.error failure) calls

/-- The policies for the grants, counted from an index, are handed over in their order. -/
inductive FulfilsAll : Nat → List (Grant ρ α) → List (Handover ρ η κ) → Prop
  | nil {index : Nat} : FulfilsAll index [] []
  | cons {index : Nat} {grant : Grant ρ α} {grants : List (Grant ρ α)}
      {handover : Handover ρ η κ} {handovers : List (Handover ρ η κ)}
      (first : arbitration.Fulfils index grant handover)
      (later : FulfilsAll (index + 1) grants handovers) :
      FulfilsAll index (grant :: grants) (handover :: handovers)

/-- What becomes of grants, counted from an index: all policies are handed over, or those before the
first grant for which a call fails. -/
inductive SettlesAll (grants : List (Grant ρ α)) :
    Except BackendError (List IssuedPolicy) → List (Call ρ η κ) → Prop
  | handed {handovers : List (Handover ρ η κ)}
      (fulfils : arbitration.FulfilsAll index grants handovers) :
      SettlesAll grants (.ok (handovers.map (·.issued))) (handovers.flatMap arbitration.handing)
  | failed {before after : List (Grant ρ α)} {grant : Grant ρ α}
      {handovers : List (Handover ρ η κ)} {failure : BackendError} {calls : List (Call ρ η κ)}
      (split : grants = before ++ grant :: after)
      (fulfils : arbitration.FulfilsAll index before handovers)
      (fails : arbitration.Fails (index + before.length) grant failure calls) :
      SettlesAll grants (.error failure) (handovers.flatMap arbitration.handing ++ calls)

end Grants

variable {arbitration : Arbitration σ ρ η κ α} {index : Nat} {grants : List (Grant ρ α)}
  {handovers : List (Handover ρ η κ)}

/-! ## One grant -/

/-- The calls for a grant, one after another. -/
theorem arbitrateOne_eq (index : Nat) (grant : Grant ρ α) :
    arbitration.arbiter.arbitrateOne index grant = (do
      let holder ← Recording.call (.resolve grant.grantee) (arbitration.resolve grant.grantee)
      let account ← Recording.call (.account holder) (arbitration.account holder)
      let issued ← Recording.issue arbitration.number (arbitration.policyOf index grant account)
      Recording.call (.accept account issued arbitration.entries)
        (arbitration.accept account issued arbitration.entries)
      return issued) := by
  simp only [Arbiter.arbitrateOne, arbiter, bind_assoc, pure_bind]
  rfl

theorem exists_settles (index : Nat) (grant : Grant ρ α) (world : σ) (calls : List (Call ρ η κ)) :
    ∃ outcome after made,
      (arbitration.arbiter.arbitrateOne index grant).resultIn world calls =
        (outcome, after, calls ++ made) ∧ arbitration.Settles index grant outcome made := by
  rw [arbitrateOne_eq]
  rcases resolved : arbitration.resolve grant.grantee world with ⟨failure | holder, world⟩
  · exact ⟨_, _, _, resultIn_bind_error (resultIn_call resolved), .failed .resolve⟩
  rw [resultIn_bind_ok (resultIn_call resolved)]
  rcases asked : arbitration.account holder world with ⟨failure | account, world⟩
  · refine ⟨.error failure, world, _, ?_, .failed (.account holder)⟩
    rw [resultIn_bind_error (resultIn_call asked), List.append_assoc, List.singleton_append]
  rw [resultIn_bind_ok (resultIn_call asked), resultIn_bind_ok (resultIn_issue ..)]
  let issued : IssuedPolicy :=
    ⟨(arbitration.number world).1, arbitration.policyOf index grant account⟩
  rcases accepted : arbitration.accept account issued arbitration.entries
      (arbitration.number world).2 with ⟨failure | _, world⟩
  · refine ⟨.error failure, world, _, ?_, .failed (.accept holder account issued rfl)⟩
    rw [resultIn_bind_error (resultIn_call accepted), List.append_assoc, List.append_assoc,
      List.singleton_append, List.singleton_append]
  · refine ⟨.ok issued, world, _, ?_, .handed ⟨grant.grantee, holder, account, issued⟩ ⟨rfl, rfl⟩⟩
    rw [resultIn_bind_ok (resultIn_call accepted), List.append_assoc, List.append_assoc]
    rfl

/-! ## All grants -/

theorem exists_settlesAll (index : Nat) (grants : List (Grant ρ α)) (world : σ)
    (calls : List (Call ρ η κ)) :
    ∃ outcome after made,
      (arbitration.arbiter.arbitrateFrom index grants).resultIn world calls =
        (outcome, after, calls ++ made) ∧ arbitration.SettlesAll index grants outcome made := by
  induction grants generalizing index world calls with
  | nil => exact ⟨.ok [], world, [], by rw [List.append_nil]; rfl, .handed .nil⟩
  | cons grant grants ih =>
      rw [Arbiter.arbitrateFrom]
      rcases arbitration.exists_settles index grant world calls with
        ⟨_, between, _, result, ⟨handover, fulfils⟩ | fails⟩
      · rw [resultIn_bind_ok result]
        rcases ih (index + 1) between (calls ++ arbitration.handing handover) with
          ⟨_, after, _, result, later | ⟨split, later, fails⟩⟩
        · refine ⟨_, after, _, ?_, .handed (.cons fulfils later)⟩
          rw [resultIn_bind_ok result, resultIn_pure, List.append_assoc]
          rfl
        · rw [Nat.add_right_comm, Nat.add_assoc] at fails
          have whole := congrArg (grant :: ·) split
          refine ⟨_, after, _, ?_, .failed whole (.cons fulfils later) fails⟩
          rw [resultIn_bind_error result, List.append_assoc, List.flatMap_cons, List.append_assoc]
      · exact ⟨_, between, _, resultIn_bind_error result, .failed rfl .nil fails⟩

theorem accepted_handing (handovers : List (Handover ρ η κ)) :
    (handovers.flatMap arbitration.handing).filterMap Call.accepted? =
      handovers.map (·.issued) := by
  induction handovers with
  | nil => rfl
  | cons handover handovers ih =>
      rw [List.flatMap_cons, List.filterMap_append, ih]
      rfl

theorem FulfilsAll.resolved (fulfils : arbitration.FulfilsAll index grants handovers) :
    (handovers.flatMap arbitration.handing).filterMap Call.grantee? = grants.map (·.grantee) := by
  induction fulfils with
  | nil => rfl
  | @cons _ grant grants handover _ first _ ih =>
      rw [List.flatMap_cons, List.filterMap_append, ih, List.map_cons, ← first.grantee]
      rfl

theorem Fails.resolved {grant : Grant ρ α} {failure : BackendError} {calls : List (Call ρ η κ)}
    (fails : arbitration.Fails index grant failure calls) :
    calls.filterMap Call.grantee? = [grant.grantee] := by
  cases fails <;> rfl

theorem Fails.accepted {grant : Grant ρ α} {failure : BackendError} {calls : List (Call ρ η κ)}
    (fails : arbitration.Fails index grant failure calls) :
    calls.filterMap Call.accepted? = [] := by
  cases fails <;> rfl

theorem FulfilsAll.length_eq (fulfils : arbitration.FulfilsAll index grants handovers) :
    handovers.length = grants.length := by
  induction fulfils with
  | nil => rfl
  | cons _ _ ih => rw [List.length_cons, List.length_cons, ih]

/-- The index of a grant is the number its policy's name ends in. -/
theorem policyOf_name_inj {first second : Nat} {grant other : Grant ρ α} {account another : κ}
    (same : (arbitration.policyOf first grant account).name =
      (arbitration.policyOf second other another).name) : first = second := by
  have ends : EndsUnnumbered "AccessPolicy" := ⟨_, _, rfl, by decide⟩
  exact (append_toString_inj (ends.append _) (ends.append _) same).2

theorem FulfilsAll.exists_policyOf (fulfils : arbitration.FulfilsAll index grants handovers)
    {handover : Handover ρ η κ} (handover_mem : handover ∈ handovers) :
    ∃ later, index ≤ later ∧ ∃ grant,
      handover.issued.policy = arbitration.policyOf later grant handover.account := by
  induction fulfils with
  | nil => cases handover_mem
  | @cons index grant _ _ _ first _ ih =>
      rcases List.mem_cons.mp handover_mem with rfl | later_mem
      · exact ⟨index, Nat.le_refl _, grant, first.policy⟩
      · rcases ih later_mem with ⟨later, after, made⟩
        exact ⟨later, Nat.le_of_succ_le after, made⟩

/-- Whoever accepts them, policies for different grants have different names. -/
theorem FulfilsAll.nodup_names (fulfils : arbitration.FulfilsAll index grants handovers) :
    ((handovers.map (·.issued)).map (·.policy.name)).Nodup := by
  induction fulfils with
  | nil => exact List.nodup_nil
  | cons first later ih =>
      refine List.nodup_cons.mpr ⟨fun again => ?_, ih⟩
      simp only [List.map_map, List.mem_map] at again
      rcases again with ⟨other, other_mem, same⟩
      rcases later.exists_policyOf other_mem with ⟨place, after, grant, made⟩
      simp only [Function.comp_apply, made, first.policy] at same
      exact absurd (policyOf_name_inj same) (Nat.ne_of_gt after)

/-! ## All wishes -/

variable [ActionVocabulary α] [DecidableEq α]

/-- The grants that are meant by wishes. -/
def meant (wishes : List (Wish ρ α)) : List (Grant ρ α) :=
  wishes.map fun wish => ⟨wish.grantee, wish.actions⟩

theorem map_grant (wishes : List (Wish ρ α)) : wishes.map Wish.grant = meant wishes :=
  List.map_congr_left fun wish _ => wish.grant_eq

variable (arbitration)

/-- An arbitration that has succeeded, with some policies, after some calls. -/
structure Succeeds (wishes : List (Wish ρ α)) (issued : List IssuedPolicy)
    (calls : List (Call ρ η κ)) : Prop where
  /-- The calls are those by which the policies for the grants are handed over, in order. -/
  made : ∃ handovers, arbitration.FulfilsAll 0 (meant wishes) handovers ∧
    issued = handovers.map (·.issued) ∧ calls = handovers.flatMap arbitration.handing
  resolved : calls.filterMap Call.grantee? = wishes.map (·.grantee)
  /-- Every policy is accepted, and only once. -/
  accepted : calls.filterMap Call.accepted? = issued
  count : issued.length = wishes.length
  names : (issued.map (·.policy.name)).Nodup

/-- An arbitration that has failed, with the first failure for a wish, after some calls. -/
structure BreaksAt (before : List (Wish ρ α)) (wish : Wish ρ α) (failure : BackendError)
    (calls : List (Call ρ η κ)) : Prop where
  /-- The calls are those by which the policies for the grants before are handed over, and then
  those for this one up to the failure. Only the policies before are accepted. -/
  made : ∃ handovers last, arbitration.FulfilsAll 0 (meant before) handovers ∧
    arbitration.Fails before.length ⟨wish.grantee, wish.actions⟩ failure last ∧
    calls = handovers.flatMap arbitration.handing ++ last ∧
    calls.filterMap Call.accepted? = handovers.map (·.issued)
  resolved : calls.filterMap Call.grantee? = before.map (·.grantee) ++ [wish.grantee]

theorem arbitrate_wishes (wishes : List (Wish ρ α)) (world : σ) :
    match (arbitration.arbiter.arbitrate (wishes.map Wish.grant)).resultIn world [] with
    | (.ok issued, _, calls) => arbitration.Succeeds wishes issued calls
    | (.error failure, _, calls) => ∃ before wish after, wishes = before ++ wish :: after ∧
        arbitration.BreaksAt before wish failure calls := by
  rw [map_grant, Arbiter.arbitrate]
  have grantees : ∀ wishes : List (Wish ρ α),
      (meant wishes).map (·.grantee) = wishes.map (·.grantee) := fun wishes => List.map_map
  rcases arbitration.exists_settlesAll 0 (meant wishes) world [] with
    ⟨_, after, _, result, @⟨handovers, fulfils⟩ | @⟨before, later, grant, handovers, failure, last,
      split, fulfils, fails⟩⟩
  · rw [result]
    exact {
      made := ⟨handovers, fulfils, rfl, rfl⟩
      resolved := fulfils.resolved.trans (grantees wishes)
      accepted := accepted_handing handovers
      count := by rw [List.length_map, fulfils.length_eq, meant, List.length_map]
      names := fulfils.nodup_names }
  · rw [result]
    rcases List.map_eq_append_iff.mp split with ⟨before, others, rfl, rfl, rest⟩
    rcases List.map_eq_cons_iff.mp rest with ⟨wish, later, rfl, rfl, rfl⟩
    rw [Nat.zero_add, List.length_map] at fails
    refine ⟨before, wish, later, rfl, ⟨handovers, last, fulfils, fails, rfl, ?_⟩, ?_⟩
    · rw [List.nil_append, List.filterMap_append, accepted_handing, fails.accepted, List.append_nil]
    · rw [List.nil_append, List.filterMap_append, fulfils.resolved, fails.resolved]
      exact congrArg (· ++ _) (grantees before)

end Arbitration

end CloudSynth
