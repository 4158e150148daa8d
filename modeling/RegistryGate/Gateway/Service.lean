/-
  The gateway as a function of requests.

  A request to the path of an endpoint is taken on in a fixed order: the size of its body is judged,
  it gets an id, its sender is authenticated, its correlation header and then its body are read, and
  only then the endpoint is run.  Whatever fails after the first step becomes a problem document
  that names the path.  The path of an endpoint is a pattern, and it is the pattern that is named.

  Nothing here waits or writes: the behaviour of the register is an argument, and the audit records
  are part of the result.
-/
import RegistryGate.Auth.Verifier
import RegistryGate.Http.Correlation
import RegistryGate.Http.Message
import RegistryGate.Http.Problem
import RegistryGate.Http.Route
import RegistryGate.Json.Reader
import RegistryGate.Text.FormEncoded

namespace RegistryGate.Gateway

open Http (Content Problem RequestIds Response)
open Proxy (AuditRecord PipelineError RegisterCall RegisterResult)

/-- All that requests are answered from. -/
structure Service where
  /-- The endpoints, by their paths. -/
  endpoints : Table Endpoint
  /-- The cipher for identifiers. -/
  cipher : Token.Cipher
  /-- The verifier of bearer tokens. -/
  verifier : Auth.Verifier
  /-- The language of problem documents. -/
  locale : Locale
  /-- The most bytes of a body. -/
  maxBodyBytes : Nat

/-- What surrounds a request. -/
structure Surroundings where
  /-- The time, in seconds. -/
  now : Nat
  /-- The behaviour of the register. -/
  register : RegisterCall → RegisterResult

/-- Everything that can be observed of one request. -/
structure Handled where
  /-- The answer. -/
  response : Response
  /-- The calls to the register, in order. -/
  calls : List RegisterCall
  /-- The audit records, in order. -/
  audit : List AuditRecord

/-- A request that is answered at once. -/
def Handled.only (response : Response) : Handled := ⟨response, [], []⟩

namespace Service

/-- The service of endpoints; of two endpoints with one path the last one counts. -/
def ofEndpoints (endpoints : List Endpoint) (cipher : Token.Cipher) (verifier : Auth.Verifier)
    (locale : Locale) (maxBodyBytes : Nat) : Service :=
  ⟨Table.ofList (endpoints.map fun e => (e.publicPath, e)), cipher, verifier, locale, maxBodyBytes⟩

/-- The paths of the endpoints, in order. -/
def paths (s : Service) : List String := s.endpoints.names

/-! ## Reading a request -/

/-- The names of the query parameter that asks for the full result. -/
def fullResultNames : List String := ["resultaat-formaat", "resultaatFormaat"]

/-- The value that asks for it, in any case. -/
def fullResultValue : String := "volledig"

/-- Holds when a query parameter asks for the full result. -/
def asksForAll (parameter : List UInt8 × List UInt8) : Bool :=
  (fullResultNames.map Text.Utf8.encode).contains parameter.1
    && Text.lower (String.ofList (parameter.2.map fun b => Char.ofNat b.toNat)) == fullResultValue

/-- Holds when a query asks for the full result. -/
def wantsFullResult (query : Option String) : Bool :=
  match query with
  | none => false
  | some text => (Text.FormEncoded.decode (Text.Utf8.encode text)).any asksForAll

/-- The JSON object that a body is. -/
def readPayload? (body : ByteArray) : Option Payload :=
  ((String.fromUTF8? body).bind Json.parse?).bind Json.asObject?

/-- Reads a request, or says why it is refused. -/
def read (s : Service) (now : Nat) (request : Http.Request) : Except Problem Proxy.Request := do
  -- without a caller nothing else of the request is looked at
  let principal ← match s.verifier.authenticate now (request.header? "authorization") with
    | .ok principal => pure principal
    | .error _ => throw (Problem.notAuthenticated s.locale)
  let correlation ← match Http.correlationId? (request.headerText? Http.correlationHeader) with
    | .ok id => pure id
    | .error _ => throw (Problem.invalidCorrelation s.locale)
  match readPayload? request.body with
  | none => throw (Problem.parseError s.locale)
  | some payload =>
    return {
      payload := payload
      principal := principal
      correlationId := correlation
      taskDescription := (request.headerText? Http.taskHeader).bind Http.taskDescription
      fullResult := wantsFullResult request.target.query }

/-! ## Answering -/

/-- The answer that carries a problem. -/
def problemResponse (path : String) (problem : Problem) : Response :=
  { Response.bare problem.status with
    contentType := some Http.problemContentType
    content := .document (problem.withInstance path).toJson }

/-- The content type of an answer whose own is missing or is no header value. -/
def defaultContentType : String := "application/json"

/-- The content type for the caller. -/
def contentTypeFor (contentType : Option String) : String :=
  (contentType.filter fun value => value.toList.all Text.isHeaderChar).getD defaultContentType

/-- The status for the caller: that of the register, unless it is no HTTP status. -/
def statusFor (status : Nat) : Nat := if 100 ≤ status ∧ status < 1000 then status else 200

/-- The answer that carries a document of the register. -/
def successResponse (answer : Proxy.Response) : Response :=
  { Response.bare (statusFor answer.status) with
    contentType := some (contentTypeFor answer.contentType)
    content := .document answer.body }

/-- The answer to a run. -/
def runResponse (s : Service) (path : String) : Except PipelineError Proxy.Response → Response
  | .ok answer => successResponse answer
  | .error error => problemResponse path (Problem.ofPipeline s.locale error)

/-- Takes on a request to an endpoint. -/
def forward (s : Service) (around : Surroundings) (endpoint : Endpoint) (request : Http.Request) :
    Handled :=
  let path := endpoint.publicPath
  match s.read around.now request with
  | .error problem => .only (problemResponse path problem)
  | .ok read =>
    let run := Proxy.run endpoint s.cipher around.register read
    ⟨s.runResponse path run.result, run.calls, run.audit⟩

/-! ## Paths and methods -/

/-- The path that tells whether the gateway is up. -/
def healthPath : String := "/health"

/-- The answer of a gateway that is up. -/
def healthResponse (withContent : Bool) : Response :=
  { Response.bare 200 with
    contentType := some "application/json"
    content := if withContent then .document (Json.ofMembers [("status", .string "UP")])
      else .nothing }

/-- The answer to a body that is too long. -/
def tooLargeResponse : Response :=
  { Response.bare 413 with
    contentType := some "text/plain; charset=utf-8"
    content := .text "Failed to buffer the request body: length limit exceeded" }

/-- The path that counts for a request: that of an endpoint, or of the gateway itself. -/
def route? (s : Service) (request : Http.Request) : Option String :=
  Http.route? (healthPath :: s.paths) request.target.path

/-- The endpoint for a request of the right method. -/
def endpoint? (s : Service) (request : Http.Request) : Option Endpoint :=
  (s.route? request).bind s.endpoints.get?

/-- The methods that a request may have. -/
def methodsOf (s : Service) (request : Http.Request) : List String :=
  (if s.route? request = some healthPath then ["GET", "HEAD"] else []) ++
    (if (s.endpoint? request).isSome then ["POST"] else [])

/-- The answer to a request that no endpoint takes on. -/
def answerOther (s : Service) (request : Http.Request) : Response :=
  match s.methodsOf request with
  | [] => Response.bare 404
  | methods =>
    if methods.contains request.method then healthResponse (request.method == "GET")
    else { Response.bare 405 with allow := some (Text.joinWith "," methods) }

/-- Answers one request. -/
def handle (s : Service) (around : Surroundings) (ids : RequestIds) (request : Http.Request) :
    Handled × RequestIds :=
  match s.endpoint? request, request.method with
  | some endpoint, "POST" =>
    if s.maxBodyBytes < request.body.size then (.only tooLargeResponse, ids)
    else
      let (id, ids) := ids.issue
      let handled := s.forward around endpoint request
      ({ handled with response := { handled.response with requestId := some id } }, ids)
  | _, _ => (.only (s.answerOther request), ids)

end Service

end RegistryGate.Gateway
