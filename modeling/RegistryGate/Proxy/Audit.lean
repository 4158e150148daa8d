/-
  Audit records.

  Every request that is denied, and every request that reaches the register, leaves one record of
  who asked for what under which scopes, what was sent, and what came back.
-/
import RegistryGate.Json.Printer

namespace RegistryGate.Proxy

/-- How a request ended. -/
inductive AuditOutcome where
  /-- It was forwarded and answered. -/
  | granted
  /-- It was refused before it was forwarded. -/
  | denied
  /-- It was forwarded and the register failed. -/
  | registerFailed
deriving DecidableEq

/-- The name of an outcome in a record. -/
def AuditOutcome.name : AuditOutcome → String
  | granted => "granted"
  | denied => "denied"
  | registerFailed => "upstream_failed"

/-- The record of one request. -/
structure AuditRecord where
  /-- The endpoint. -/
  service : String
  /-- The variant, once it was selected. -/
  operation : Option String
  /-- The caller. -/
  user : String
  /-- The caller's correlation id. -/
  correlationId : Option String
  /-- The caller's task. -/
  taskDescription : Option String
  /-- How the request ended. -/
  outcome : AuditOutcome
  /-- Why it was denied or failed. -/
  reason : Option String
  /-- The scopes that the caller holds. -/
  granted : List String
  /-- The texts of the requirements. -/
  needed : List String
  /-- The texts of the requirements that were not met. -/
  missing : List String
  /-- The request as it came in. -/
  request : Json
  /-- The request as it was forwarded. -/
  registerRequest : Option Json
  /-- The status of the answer. -/
  registerStatus : Option Nat
  /-- The answer as it came in. -/
  registerResponse : Option Json
  /-- The identifiers of every record in the answer. -/
  retrieved : List (Members String)
deriving DecidableEq

namespace AuditRecord

/-- The event that all records report. -/
def event : String := "brp_access"

/-- The members that are written of a record, after the event and the time. -/
def members (r : AuditRecord) : List (String × Json) :=
  [("service", .string r.service),
   ("operation", Json.ofString? r.operation),
   ("user", .string r.user),
   ("correlation_id", Json.ofString? r.correlationId),
   ("task_description", Json.ofString? r.taskDescription),
   ("outcome", .string r.outcome.name),
   ("reason", Json.ofString? r.reason),
   ("granted", Json.ofStrings r.granted),
   ("needed", Json.ofStrings r.needed),
   ("missing", Json.ofStrings r.missing),
   ("request", r.request),
   ("upstream_request", r.registerRequest.getD .null),
   ("upstream_status", r.registerStatus.elim .null Json.ofNat),
   ("upstream_response", r.registerResponse.getD .null),
   ("retrieved", .array (r.retrieved.map fun ids => .object (ids.map fun e => (e.1, .string e.2))))]

/-- The record as it is written at a time, in milliseconds. -/
def toJson (timestampMs : Nat) (r : AuditRecord) : Json :=
  .object (("event", .string event) :: ("timestamp_ms", Json.ofNat timestampMs) :: r.members)

end AuditRecord

end RegistryGate.Proxy
