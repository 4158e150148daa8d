/-
  The verifier of bearer tokens that the settings ask for.

  The key document is read first, then the names of the algorithms, so a faulty document is what is
  reported when both are at fault.
-/
import RegistryGate.Auth.Verifier
import RegistryGate.Config.Resources

namespace RegistryGate.Config

/-- Why there is no verifier. -/
inductive VerifierError where
  /-- The key document cannot be had. -/
  | noDocument (error : ConfigError)
  /-- The key document is no list of keys of known kinds. -/
  | notKeys
  /-- The name of an algorithm is not known. -/
  | unknownAlgorithm (name : String)
  /-- No algorithm is configured. -/
  | noAlgorithms
deriving DecidableEq

/-- The text of a verifier error. -/
def VerifierError.message (error : VerifierError) : String :=
  "auth config error: " ++ match error with
    | noDocument error => error.message
    | notKeys => "invalid jwks document:"
    | unknownAlgorithm name => "unknown algorithm: " ++ name
    | noAlgorithms => "no algorithms configured"

/-- The algorithm of a name. -/
def readAlgorithm (name : String) : Except VerifierError Auth.Algorithm :=
  match Auth.Algorithm.ofName? name with
  | some algorithm => .ok algorithm
  | none => .error (.unknownAlgorithm name)

/-- The verifier for the settings. -/
def AuthSettings.verifier (s : AuthSettings) (env : Environment) :
    Except VerifierError Auth.Verifier := do
  let document ← match s.keyDocument env with
    | .ok document => pure document
    | .error error => throw (.noDocument error)
  let keys ← match Auth.KeySet.parse? document with
    | some keys => pure keys
    | none => throw .notKeys
  let algorithms ← s.algorithms.mapM readAlgorithm
  if algorithms.isEmpty then throw .noAlgorithms
  return ⟨keys, algorithms, s.issuer, s.audience, s.userClaim, s.scopeClaim, s.leewaySecs,
    Auth.SignedToken.accepts⟩

end RegistryGate.Config
