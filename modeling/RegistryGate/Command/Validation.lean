/-
  Judging settings before they are used.

  Everything that a start would load is loaded, except for what leaves traces on the machine; what
  was found is summed up in a few lines.
-/
import RegistryGate.Config.Load
import RegistryGate.Gateway.Start
import RegistryGate.Message.Operator

namespace RegistryGate.Command

open Config (ConfigError Settings VerifierError)
open Register (Client ClientError)

/-- The text under a key of the operator's texts. -/
def say (locale : Locale) (key : String) (args : List (String × String)) : String :=
  MessageCatalog.operator.textFor locale key args

/-- Why settings cannot be used. -/
inductive Complaint where
  /-- They cannot be loaded. -/
  | settings (error : ConfigError)
  /-- The catalogs cannot be loaded. -/
  | catalogs (error : ConfigError)
  /-- The keys for identifiers cannot be loaded. -/
  | keys (error : ConfigError)
  /-- The keys of bearer tokens cannot be loaded. -/
  | verifier (error : VerifierError)
  /-- There is no client. -/
  | client (error : ClientError)
deriving DecidableEq

/-- The text of a complaint. -/
def Complaint.text (locale : Locale) : Complaint → String
  | settings error => say locale "config.load_failed" [("error", error.message)]
  | catalogs error => say locale "config.catalog_failed" [("error", error.message)]
  | keys error => say locale "config.keys_failed" [("error", error.message)]
  | verifier error => say locale "config.auth_failed" [("error", error.message)]
  | client error => say locale "config.upstream_failed" [("error", error.message)]

/-- What was found behind the settings. -/
structure Summary where
  /-- The address to listen on. -/
  address : Net.SocketAddress
  /-- The endpoints, in order. -/
  endpoints : List Endpoint
  /-- The number of keys for identifiers. -/
  keyCount : Nat
  /-- Set when audit records are written. -/
  auditEnabled : Bool

/-- A step of the judgement, with what its failure is about. -/
def step {ε α : Type} (about : ε → Complaint) : Except ε α → Except Complaint α
  | .ok a => .ok a
  | .error error => .error (about error)

/-- Loads everything that the settings of a file name. -/
def judge (env : Environment) (path : Option String) : Except Complaint Summary := do
  let s ← step .settings (Settings.load env path)
  let address ← step .settings (Config.judged s.server.bindAddress)
  let endpoints ← step .catalogs (s.endpoints env)
  let cipher ← step .keys (s.tokenization.cipher env)
  let _ ← step .verifier (s.auth.verifier env)
  let _ ← step .client (Client.ofSettings env s.register)
  return ⟨address, endpoints, cipher.keyCount, s.audit.enabled⟩

/-- The line about an endpoint. -/
def endpointLine (locale : Locale) (endpoint : Endpoint) : String :=
  say locale "config.validate.endpoint"
    [("path", endpoint.publicPath), ("upstream", endpoint.registerUrl),
      ("variants", toString endpoint.variants.entries.length)]

/-- The lines of a summary. -/
def Summary.lines (locale : Locale) (summary : Summary) : List String :=
  [say locale "config.validate.ok" [],
    say locale "config.validate.bind" [("addr", summary.address.text)]] ++
    summary.endpoints.map (endpointLine locale) ++
    say locale "config.validate.keys" [("count", toString summary.keyCount)] ::
    if summary.auditEnabled then [] else [say locale "config.validate.audit_disabled" []]

end RegistryGate.Command
