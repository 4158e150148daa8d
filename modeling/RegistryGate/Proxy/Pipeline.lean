/-
  One request from the caller to the register and back.

  `run` takes the register's behaviour as a function and yields everything that can be observed of a
  run: the result, the calls that were made and the audit records that were written.  `prepare` is
  the part before the call.  It decides alone whether the register is called, and with what: the
  base scopes are checked, the variant is selected, parameters are filled in, every value is judged,
  tokens are put back and the identifying fields are added.  `transform` is the part after it.
-/
import RegistryGate.Document.Links
import RegistryGate.Document.Completion
import RegistryGate.Document.Tokens
import RegistryGate.Proxy.Request
import RegistryGate.Proxy.Register
import RegistryGate.Proxy.Audit

namespace RegistryGate.Proxy

open Token (Cipher TokenError)

/-! ## Requests, responses and errors -/

/-- A caller whose token was verified. -/
structure Principal where
  /-- Who the caller is. -/
  user : String
  /-- The scopes that the caller holds. -/
  scopes : NameSet
deriving DecidableEq

/-- One request. -/
structure Request where
  /-- The members of its body. -/
  payload : Payload
  /-- The caller. -/
  principal : Principal
  /-- The caller's correlation id. -/
  correlationId : Option String
  /-- The caller's task. -/
  taskDescription : Option String
  /-- Set when absent fields are to be completed. -/
  fullResult : Bool

/-- The answer to the caller. -/
structure Response where
  /-- The register's status. -/
  status : Nat
  /-- The register's content type. -/
  contentType : Option String
  /-- The transformed document. -/
  body : Json
deriving DecidableEq

/-- Why a request got no answer. -/
inductive PipelineError where
  /-- The request does not pass its ruleset. -/
  | policy (error : PolicyError)
  /-- The caller holds no dataset where one is needed. -/
  | datasetNotGranted
  /-- The tokens of the request are refused. -/
  | tokenization (denial : TokenDenial)
  /-- The register gave no usable answer. -/
  | register (error : RegisterError)
  /-- The answer could not be transformed. -/
  | internal (error : TokenError)
deriving DecidableEq

namespace PipelineError

/-- The text of a pipeline error. -/
def message : PipelineError → String
  | policy error => error.message
  | datasetNotGranted => "permission denied: no dataset granted"
  | tokenization denial => "permission denied: " ++ denial.message
  | register error => error.message
  | internal error => "internal error: " ++ error.message

/-- Holds of the errors that deny a permission. -/
def isDenial : PipelineError → Bool
  | policy (.permissionDenied _ _) | datasetNotGranted | tokenization _ => true
  | policy _ | register _ | internal _ => false

end PipelineError

/-! ## Before the call -/

/-- What is known for the audit record before the register is called. -/
structure Progress where
  /-- The variant, once it was selected. -/
  operation : Option String
  /-- The texts of the requirements, once they are known. -/
  needed : List String
deriving DecidableEq

/-- A request that may be forwarded. -/
structure Prepared where
  /-- The selected variant. -/
  variant : Variant
  /-- The texts of all requirements. -/
  needed : List String
  /-- The fields that the caller gets. -/
  callerFields : List String
  /-- The identifying fields that were added. -/
  inserted : List String
  /-- The correlation id, when identifiers are replaced by tokens. -/
  tokenizing : Option String
  /-- What is forwarded. -/
  payload : Payload

/-- A request that is not forwarded: what was known by then, and why. -/
structure Refusal where
  /-- What was known when it was refused. -/
  progress : Progress
  /-- Why it was refused. -/
  error : PipelineError

/-- The correlation id under which a caller's identifiers are replaced by tokens; `none` when they
are not replaced. -/
def tokenizingCorrelation (rule : Option TokenizationRule) (granted : NameSet)
    (correlation : Option String) : Except TokenDenial (Option String) :=
  match rule with
  | none => .ok none
  | some rule =>
    if granted.contains rule.scope then
      match correlation with
      | some id => .ok (some id)
      | none => .error .missingCorrelation
    else .ok none

/-- Puts the tokens of a request back, where the caller gets tokens. -/
def resolveTokens (rule : Option TokenizationRule) (cipher : Cipher) (granted : NameSet)
    (tokenizing : Option String) (payload : Payload) : Except TokenDenial Payload :=
  match rule, tokenizing with
  | some rule, some correlation =>
    match detokenizeRequest rule cipher granted correlation payload with
    | (payload, none) => .ok payload
    | (_, some denial) => .error denial
  | _, _ => .ok payload

/-- Decides whether and how a request is forwarded. -/
def prepare (endpoint : Endpoint) (cipher : Cipher) (request : Request) :
    Except Refusal Prepared :=
  let granted := request.principal.scopes
  match endpoint.baseScopes.ensureGranted granted with
  | .error e => .error ⟨⟨none, []⟩, .policy e⟩
  | .ok () =>
    match endpoint.select request.payload with
    | .error e => .error ⟨⟨none, []⟩, .policy e⟩
    | .ok variant =>
      let operation := some variant.name
      -- what is filled in is judged as if the caller had sent it
      match resolveFields variant granted (variant.augment granted request.payload) with
      | (.noDataset, _) => .error ⟨⟨operation, []⟩, .datasetNotGranted⟩
      | (_, payload) =>
        match variant.ruleset.requiredScopes payload with
        | .error e => .error ⟨⟨operation, []⟩, .policy e⟩
        | .ok ruled =>
          -- from here on a refusal tells what the whole request requires, not only what its
          -- parameters do
          let required : Requirements := endpoint.baseScopes.union ruled
          let progress : Progress := ⟨operation, required.labels⟩
          match required.ensureGranted granted with
          | .error e => .error ⟨progress, .policy e⟩
          | .ok () =>
            match tokenizingCorrelation endpoint.tokenization granted request.correlationId with
            | .error denial => .error ⟨progress, .tokenization denial⟩
            | .ok tokenizing =>
              match resolveTokens endpoint.tokenization cipher granted tokenizing payload with
              | .error denial => .error ⟨progress, .tokenization denial⟩
              | .ok resolved =>
                -- the caller's fields are those before the identifying ones are put behind them
                let (inserted, forwarded) := insertIdentifiers variant resolved
                .ok ⟨variant, required.labels, requestedFields payload, inserted, tokenizing,
                  forwarded⟩

/-! ## After the call -/

/-- Completes the records of an answer, if the caller asked for that and the variant has fields. -/
def completeStage (endpoint : Endpoint) (request : Request) (prepared : Prepared)
    (recordsKey : String) (body : Json) : Json :=
  match endpoint.shape with
  | some shape =>
    if request.fullResult && prepared.variant.fields.isSome then
      Document.completeRecords recordsKey (FieldTree.ofPaths prepared.callerFields) shape.root body
    else body
  | none => body

/-- Hides confidential records from callers who may not see them.  How many there were is for
diagnostic output only. -/
def hideStage (endpoint : Endpoint) (granted : NameSet) (recordsKey : String) (body : Json) :
    Json :=
  match endpoint.confidentiality with
  | some rule =>
    if granted.contains rule.overrideScope then body
    else (Document.filterConfidential recordsKey rule.markerField body).1
  | none => body

/-- Replaces identifiers by tokens for callers who get tokens. -/
def tokenStage (endpoint : Endpoint) (cipher : Cipher) (tokenizing : Option String)
    (body : Json) : Except TokenError Json :=
  match endpoint.tokenization, tokenizing with
  | some rule, some correlation =>
    Document.replaceTexts rule.fields (fun text => cipher.encrypt text correlation) body
  | _, _ => .ok body

/-- The identifiers of the records in an answer, before any of them is hidden. -/
def retrievedFrom (endpoint : Endpoint) (body : Json) : List (Members String) :=
  match endpoint.recordsKey with
  | none => []
  | some key =>
    let linked := Document.redirectLinks endpoint.registerUrl endpoint.publicUrl body
    Document.captureIdentifiers key endpoint.auditIdentifiers linked

/-- Turns the register's document into the caller's. -/
def transform (endpoint : Endpoint) (cipher : Cipher) (request : Request) (prepared : Prepared)
    (body : Json) : Except TokenError Json :=
  let body := Document.redirectLinks endpoint.registerUrl endpoint.publicUrl body
  match endpoint.recordsKey with
  | none => .ok body
  | some key =>
    let body := completeStage endpoint request prepared key body
    let body := hideStage endpoint request.principal.scopes key body
    -- stripped after hiding, for the marker may be one of these fields
    let body := Document.stripFields key prepared.inserted body
    tokenStage endpoint cipher prepared.tokenizing body

/-! ## A whole run -/

/-- One call to the register. -/
structure RegisterCall where
  /-- The address that was called. -/
  url : String
  /-- What was sent. -/
  payload : Json
deriving DecidableEq

/-- Everything that can be observed of a run. -/
structure Run where
  /-- The answer to the caller, or why there is none. -/
  result : Except PipelineError Response
  /-- The calls to the register, in order. -/
  calls : List RegisterCall
  /-- The audit records, in order. -/
  audit : List AuditRecord

/-- The audit record of a request before anything happened to it. -/
def draft (endpoint : Endpoint) (request : Request) (progress : Progress) (outcome : AuditOutcome)
    (reason : Option String) : AuditRecord where
  service := endpoint.service
  operation := progress.operation
  user := request.principal.user
  correlationId := request.correlationId
  taskDescription := request.taskDescription
  outcome := outcome
  reason := reason
  granted := request.principal.scopes.toList
  needed := progress.needed
  missing := []
  request := .object request.payload
  registerRequest := none
  registerStatus := none
  registerResponse := none
  retrieved := []

/-- The audit records of a refusal: one of a denial, none of a request that is merely faulty. -/
def refusalRecords (endpoint : Endpoint) (request : Request) (refusal : Refusal) :
    List AuditRecord :=
  if refusal.error.isDenial then
    let r := draft endpoint request refusal.progress .denied (some refusal.error.message)
    match refusal.error with
    | .policy (.permissionDenied needed missing) =>
      [{ r with needed := needed, missing := missing }]
    | _ => [r]
  else []

/-- The audit record of a request that the register failed to answer. -/
def failureRecord (endpoint : Endpoint) (request : Request) (prepared : Prepared)
    (error : RegisterError) : AuditRecord :=
  let progress : Progress := ⟨some prepared.variant.name, prepared.needed⟩
  let r := draft endpoint request progress .registerFailed (some error.message)
  let r := { r with registerRequest := some (.object prepared.payload) }
  match error with
  | .status code body => { r with registerStatus := some code, registerResponse := some body }
  | _ => r

/-- The audit record of a request that was answered. -/
def answerRecord (endpoint : Endpoint) (request : Request) (prepared : Prepared)
    (response : RegisterResponse) : AuditRecord :=
  let progress : Progress := ⟨some prepared.variant.name, prepared.needed⟩
  { draft endpoint request progress .granted none with
    registerRequest := some (.object prepared.payload)
    registerStatus := some response.status
    registerResponse := some response.body
    retrieved := retrievedFrom endpoint response.body }

/-- Handles one request, for any behaviour of the register. -/
def run (endpoint : Endpoint) (cipher : Cipher) (register : RegisterCall → RegisterResult)
    (request : Request) : Run :=
  match prepare endpoint cipher request with
  | .error refusal => ⟨.error refusal.error, [], refusalRecords endpoint request refusal⟩
  | .ok prepared =>
    let call : RegisterCall := ⟨endpoint.registerUrl, .object prepared.payload⟩
    match register call with
    | .error error =>
      ⟨.error (.register error), [call], [failureRecord endpoint request prepared error]⟩
    | .ok response =>
      match transform endpoint cipher request prepared response.body with
      | .error error => ⟨.error (.internal error), [call], []⟩
      | .ok body =>
        ⟨.ok ⟨response.status, response.contentType, body⟩, [call],
          [answerRecord endpoint request prepared response]⟩

end RegistryGate.Proxy
