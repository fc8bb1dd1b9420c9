import CloudSynth.Iam.Statement

/-!
# Policies and roles

A policy is a named group of statements. A role collects the policies that are attached to it. Each
policy that is made gets a number, so that attaching the same policy again has no effect while an
equal policy made apart is attached beside it.
-/

namespace CloudSynth

/-- A named group of statements. -/
structure Policy where
  name : String
  statements : List Statement
  deriving DecidableEq, Repr

namespace Policy

/-- The version of the policy language. -/
def languageVersion : String := "2012-10-17"

/-- The policy as a document. -/
def document (policy : Policy) : Json :=
  .record [("Version", .text languageVersion),
    ("Statement", .list (policy.statements.map Statement.toJson))]

end Policy

/-- A policy together with the number it was made under. -/
structure IssuedPolicy where
  serial : Nat
  policy : Policy
  deriving DecidableEq, Repr

/-- A role with its policies in order of attachment. -/
structure Role where
  name : String
  arn : String
  attached : List IssuedPolicy
  deriving DecidableEq, Repr

namespace Role

/-- A role without policies. -/
def new (name arn : String) : Role := ⟨name, arn, []⟩

/-- The policy is attached to the role. -/
def holds (role : Role) (issued : IssuedPolicy) : Bool :=
  role.attached.any (·.serial = issued.serial)

/-- The role with the policy attached. -/
def attach (role : Role) (issued : IssuedPolicy) : Role :=
  if role.holds issued then role else { role with attached := role.attached ++ [issued] }

/-- The attached policies. -/
def policies (role : Role) : List Policy := role.attached.map (·.policy)

end Role

end CloudSynth
