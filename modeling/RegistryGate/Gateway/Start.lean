/-
  Starting a gateway.

  The settings are judged once more, then all that they name is loaded: the endpoints, the keys for
  identifiers, the client, the audit log and the verifier, in this order.  The first that fails is
  what is reported.
-/
import RegistryGate.Config.Catalogs
import RegistryGate.Config.Verification
import RegistryGate.Gateway.AuditLog
import RegistryGate.Gateway.Service
import RegistryGate.Register.Client

namespace RegistryGate.Gateway

open Config (ConfigError Settings VerifierError)
open Register (Client ClientError)

/-- Why a gateway does not start. -/
inductive StartError where
  /-- It cannot be configured. -/
  | config (error : ConfigError)
  /-- There is no client. -/
  | client (error : ClientError)
  /-- The audit log cannot be opened. -/
  | auditLog (fault : IoFault)
  /-- There is no verifier. -/
  | verifier (error : VerifierError)
  /-- The address cannot be listened on. -/
  | listen (reason : String)
deriving DecidableEq

/-- The text of a start error. -/
def StartError.message : StartError → String
  | config error => "config error: " ++ error.message
  | client error => "init error: " ++ error.message
  | auditLog fault => "init error: " ++ fault.message
  | verifier error => "init error: " ++ error.message
  | listen reason => "transport error: http bind failed: " ++ reason

/-- A gateway that is ready to serve. -/
structure Server where
  /-- The address to listen on. -/
  address : Net.SocketAddress
  /-- What it serves. -/
  service : Service
  /-- The client that it calls the register with. -/
  client : Client
  /-- Where its audit records go. -/
  audit : AuditSink

/-- Names the cause of a failure. -/
def because {ε α : Type} (cause : ε → StartError) : Except ε α → Except StartError α
  | .ok a => .ok a
  | .error error => .error (cause error)

/-- The language of problem documents that the settings name. -/
def localeFor (s : Settings) : Locale := (Locale.parse? s.server.locale).getD .nl

/-- The gateway for the settings. -/
def Server.ofSettings (env : Environment) (s : Settings) : Except StartError Server := do
  because .config s.validate
  let address ← because .config (Config.judged s.server.bindAddress)
  let endpoints ← because .config (s.endpoints env)
  let cipher ← because .config (s.tokenization.cipher env)
  let client ← because .client (Client.ofSettings env s.register)
  let audit ← because .auditLog (AuditSink.ofSettings env.files s.audit)
  let verifier ← because .verifier (s.auth.verifier env)
  let service := Service.ofEndpoints endpoints cipher verifier (localeFor s) s.server.maxBodyBytes
  return ⟨address, service, client, audit⟩

end RegistryGate.Gateway
