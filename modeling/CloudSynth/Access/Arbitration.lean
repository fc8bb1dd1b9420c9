import CloudSynth.Access.Grant
import CloudSynth.Iam.Policy
import CloudSynth.Parameter

/-!
# Arbitration

Grants become policies one after another. For each grant the grantee is resolved, a policy is made
of the statements of the granted actions, and the policy is handed to the grantee together with the
parameters it may need. The first failure ends the arbitration; what was handed over before stays.

Resolving, making a policy and handing it over are effects of some monad `m`.
-/

namespace CloudSynth

/-- Takes policies on behalf of one role. -/
structure Acceptor (m : Type → Type) where
  identifier : String
  accept : IssuedPolicy → List ParameterEntry → m Unit

/-- What an arbitration is made with. -/
structure Arbiter (m : Type → Type) (ρ α : Type) where
  /-- The name of the granting resource. -/
  resource : String
  /-- Finds out who accepts policies for a grantee. -/
  acceptorOf : ρ → m (Acceptor m)
  /-- Gives a policy its number. -/
  issue : Policy → m IssuedPolicy
  /-- What an action allows. -/
  statementsFor : α → List Statement
  /-- The parameters that are handed over with each policy. -/
  entries : List ParameterEntry

namespace Arbiter

variable {m : Type → Type} {ρ α : Type}

/-- The policy for a grant: the merged statements of its actions. -/
def policyFor (arbiter : Arbiter m ρ α) (index : Nat) (acceptor : String) (actions : List α) :
    Policy where
  name := arbiter.resource ++ acceptor ++ "AccessPolicy" ++ toString index
  statements := Statement.merge (actions.flatMap arbiter.statementsFor)

/-- Turns one grant into an accepted policy. -/
def arbitrateOne [Monad m] (arbiter : Arbiter m ρ α) (index : Nat) (grant : Grant ρ α) :
    m IssuedPolicy := do
  let acceptor ← arbiter.acceptorOf grant.grantee
  let issued ← arbiter.issue (arbiter.policyFor index acceptor.identifier grant.actions)
  acceptor.accept issued arbiter.entries
  return issued

/-- Turns the grants, counted from `index`, into accepted policies in their order. -/
def arbitrateFrom [Monad m] (arbiter : Arbiter m ρ α) :
    Nat → List (Grant ρ α) → m (List IssuedPolicy)
  | _, [] => return []
  | index, grant :: rest => do
    let issued ← arbiter.arbitrateOne index grant
    let others ← arbiter.arbitrateFrom (index + 1) rest
    return issued :: others

/-- Turns the grants into accepted policies in their order. -/
def arbitrate [Monad m] (arbiter : Arbiter m ρ α) (grants : List (Grant ρ α)) :
    m (List IssuedPolicy) :=
  arbiter.arbitrateFrom 0 grants

end Arbiter

end CloudSynth
