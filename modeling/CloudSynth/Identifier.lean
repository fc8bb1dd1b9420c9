import CloudSynth.Digest.Sha256
import CloudSynth.Json.Basic

/-!
# Backend identity

A backend belongs to a project, has a name there and is deployed as a sandbox or from a branch.
Stack names, parameter paths and stable hashes are all derived from these three.
-/

namespace CloudSynth

/-- How a backend is deployed. -/
inductive DeploymentKind
  /-- For one developer, again and again. -/
  | sandbox
  /-- From a source branch. -/
  | branch
  deriving DecidableEq, Repr, Inhabited

namespace DeploymentKind

/-- The lower-case name that stands in paths and stack names. -/
def name : DeploymentKind → String
  | .sandbox => "sandbox"
  | .branch => "branch"

/-- The kind with the given name. -/
def ofName? (name : String) : Option DeploymentKind :=
  [sandbox, branch].find? (·.name = name)

/-- The kind of a backend that says nothing about it. -/
def default : DeploymentKind := .sandbox

end DeploymentKind

/-- The identity of a backend. -/
structure BackendIdentifier where
  project : String
  name : String
  kind : DeploymentKind
  deriving DecidableEq, Repr, Inhabited

namespace BackendIdentifier

/-- The segment of parameter paths that belongs to the backend. -/
def parameterPath (identifier : BackendIdentifier) : String :=
  identifier.project ++ "/" ++ identifier.name ++ "-" ++ identifier.kind.name

/-- The name of the stack that holds all of the backend's stacks. -/
def stackName (identifier : BackendIdentifier) : String :=
  "amplify-" ++ identifier.project ++ "-" ++ identifier.name ++ "-" ++ identifier.kind.name

/-- The identity as a text. -/
def print (identifier : BackendIdentifier) : String :=
  identifier.project ++ "/" ++ identifier.name ++ "/" ++ identifier.kind.name

/-- The structured form of an identity. -/
def toJson (identifier : BackendIdentifier) : Json :=
  .record [("namespace", .text identifier.project), ("name", .text identifier.name),
    ("type", .text identifier.kind.name)]

/-- The names of the fields of the structured form, in order. -/
def fieldNames : List String := ["namespace", "name", "type"]

/-- Reads the fields of the structured form, which must all be there. How the name of the kind is
written is left to the form. -/
def ofFields? (variantOf : Json → Option String) (value : Json) : Option BackendIdentifier := do
  let project ← value.required "namespace" Json.asText?
  let name ← value.required "name" Json.asText?
  let kind ← value.required "type" fun kind => (variantOf kind).bind DeploymentKind.ofName?
  return { project, name, kind }

/-- Reads the structured form. -/
def ofJson? (value : Json) : Option BackendIdentifier :=
  (value.asRecord? fieldNames).bind (ofFields? Json.asVariant?)

end BackendIdentifier

/-! ## Stable identifiers -/

/-- The bytes of a text. -/
def textBytes (text : String) : List UInt8 := text.toList.flatMap String.utf8EncodeChar

/-- The bytes of several texts, each followed by a zero byte. -/
def separatedBytes (parts : List String) : List UInt8 :=
  parts.flatMap fun part => textBytes part ++ [0]

/-- The bytes that the hash of a backend is made from. -/
def BackendIdentifier.hashedBytes (identifier : BackendIdentifier) : List UInt8 :=
  separatedBytes [identifier.project, identifier.name, identifier.kind.name]

/-- The bytes that the identifier of a named resource is made from. -/
def resourceBytes (backendHash resourceName : String) : List UInt8 :=
  separatedBytes [backendHash, resourceName]

/-- The first twenty hexadecimal digits of the digest. -/
def stableDigest (bytes : List UInt8) : String :=
  String.ofList ((Digest.hex (Digest.sha256 bytes)).take 20)

/-- The hash that all stable identifiers of the backend are derived from. -/
def BackendIdentifier.stableHash (identifier : BackendIdentifier) : String :=
  stableDigest identifier.hashedBytes

/-- The stable identifier of a named resource of the backend. -/
def BackendIdentifier.resourceId (identifier : BackendIdentifier) (resourceName : String) :
    String :=
  stableDigest (resourceBytes identifier.stableHash resourceName)

end CloudSynth
