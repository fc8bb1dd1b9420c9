import CloudSynth.Identifier

/-!
# Secrets

A secret is named, never read. It stands for a token that is replaced by the secret's value when
the backend is deployed; the token names the parameter below the backend's own path.
-/

namespace CloudSynth

/-- A reference to a secret by its name. -/
structure Secret where
  name : String
  deriving DecidableEq, Repr, Inhabited

/-- What a secret is replaced with at deployment. -/
structure SecretToken where
  secretName : String
  parameterPath : String
  deriving DecidableEq, Repr

/-- The token as it stands in a template. -/
def SecretToken.print (token : SecretToken) : String :=
  "\x7b\x7bresolve:ssm-secure:" ++ token.parameterPath ++ "\x7d\x7d"

/-- The token of a secret of the backend. -/
def BackendIdentifier.secretToken (identifier : BackendIdentifier) (secret : Secret) :
    SecretToken where
  secretName := secret.name
  parameterPath := "/amplify/" ++ identifier.parameterPath ++ "/" ++ secret.name

end CloudSynth
