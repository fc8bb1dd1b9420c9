import CloudSynth.Iam.Statement

/-!
# Access grants

A resource grants others access to itself. A grant names who is granted access and the actions
granted, out of the vocabulary of the granting kind of resource; without a choice it grants the
default actions of the vocabulary.
-/

namespace CloudSynth

universe u v

/-- The actions of a kind of resource that can be granted. -/
class ActionVocabulary (α : Type u) where
  /-- The actions granted without a choice. -/
  defaults : List α
  /-- The name that users write. -/
  name : α → String

/-- The list without repetitions, every value at its first place. -/
def distinct {α : Type u} [DecidableEq α] (values : List α) : List α :=
  values.foldl (fun kept value => if value ∈ kept then kept else kept ++ [value]) []

/-- Grants actions `α` to a grantee `ρ`. -/
structure Grant (ρ : Type v) (α : Type u) where
  grantee : ρ
  actions : List α
  deriving DecidableEq, Repr

namespace Grant

variable {ρ : Type v} {α : Type u}

/-- The grant of the default actions. -/
def ofGrantee [ActionVocabulary α] (grantee : ρ) : Grant ρ α :=
  ⟨grantee, ActionVocabulary.defaults⟩

/-- The grant of the chosen actions instead, each of them once. -/
def choosing [DecidableEq α] (grant : Grant ρ α) (actions : List α) : Grant ρ α :=
  { grant with actions := distinct actions }

end Grant

end CloudSynth
