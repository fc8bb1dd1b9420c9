import CloudSynth.Backend.Workspace
import CloudSynth.Report.Auth
import CloudSynth.Report.Data
import CloudSynth.Report.Function

/-!
# Reports on backends

Built resources, outputs, the size of what a backend holds, and what its checks were asked.
-/

namespace CloudSynth

/-- The deployed function that a factory has built. -/
def Assembly.lambdaOf (assembly : Assembly) (factory : Nat) : Lambda :=
  match assembly.functions.find? factory with
  | some built => built.lambda
  | none => default

/-- A policy that was handed over. -/
def AcceptedAccess.report (access : AcceptedAccess) : Json :=
  .record [("policy", access.policy.report),
    ("ssm", .list (access.entries.map ParameterEntry.report))]

/-- A built function. -/
def BuiltFunction.report (built : BuiltFunction) : Json :=
  let shared := [("stack", .text built.stackName), ("lambda", built.lambda.report)]
  match built.origin with
  | .defined resolved _ =>
    .record (shared ++ [("props", resolved.report),
      ("friendlyName", .optionalText (Tags.friendlyName? built.lambda.tags))])
  | .stub accepted =>
    .record (shared ++ [("accepted", .list (accepted.map AcceptedAccess.report))])

/-- A built resource. -/
def Assembly.reportOf (assembly : Assembly) (found : Instance) : Json :=
  match found.kind with
  | .auth => .optional (fun (built : BuiltAuth) =>
      .record [("stack", .text built.stackName),
        ("auth", built.construct.report assembly.lambdaOf)])
      (assembly.auths.find? found.factory)
  | .data => .optional (fun (built : BuiltData) =>
      .record [("stack", .text built.stackName),
        ("data", built.construct.report assembly.lambdaOf)])
      (assembly.datas.find? found.factory)
  | _ => .optional BuiltFunction.report (assembly.functions.find? found.factory)

/-- An instance that was given out: whether it is the one given out before, the resource, and for a
stub how often it was built. -/
def Assembly.instanceReport (assembly : Assembly) (same : Option Bool) (found : Instance) : Json :=
  .record ([("same", .optional .boolean same), ("instance", assembly.reportOf found)] ++
    if found.kind = .stub then
      [("generations", .natural (assembly.journal.generationsOf found.factory))]
    else [])

/-- The outputs of a backend, and the functions that they list. -/
def OutputStorage.report (outputs : OutputStorage) : Json :=
  .record [("entries", .ofMap (outputs.entries.mapValues OutputEntry.report)),
    ("functions", .texts (outputs.list functionOutputKey definedFunctionsField))]

/-- The size of what a backend holds. -/
def Backend.report (backend : Backend) : Json :=
  let assembly := backend.assembly
  let identifier := assembly.parameters.identifier
  let entries := backend.container.entries.length
  let stackCount := assembly.stackSet.byGroup.size
  .record [("entries", .natural entries), ("empty", .boolean (entries = 0)),
    ("stacks", .natural stackCount), ("noStacks", .boolean (stackCount = 0)),
    ("hash", .text identifier.stableHash), ("backend", identifier.toJson),
    ("parameters", .natural assembly.parameters.values.size)]

/-- What a check of a definition site was asked. -/
def Verification.report (verification : Verification) : Json :=
  .record [("site", .text verification.site.print), ("expected", .text verification.expected),
    ("message", .text verification.message)]

end CloudSynth
