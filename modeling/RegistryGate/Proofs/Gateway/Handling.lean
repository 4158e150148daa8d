/-
  How requests to endpoints are handled.

  A request to an endpoint with too long a body is answered before it counts.  Every other one is
  taken on: it gets an id (`handle_of_takesOn`), and then it is refused while it is read, or read
  and run (`ranAs`).  Refusals and failed runs reach the client as problem documents
  (`reports_problemResponse`).

  Which endpoint a request reaches is a matter of patterns.  Where no path of an endpoint has
  braces, it is the one that has the path of the request (`endpoint?_of_plain`).
-/
import RegistryGate.Gateway.Service
import RegistryGate.Proofs.Http.Routes
import RegistryGate.Proofs.Ordered.Lookup

namespace RegistryGate

/-! ## Answers -/

namespace Http

/-- An answer reports a problem of a kind under a path: it is a problem document that has the status
of the answer, the code of the kind and the path. -/
structure Response.Reports (response : Response) (path : String) (code : ProblemCode) : Prop where
  /-- The status is that of the kind. -/
  status : response.status = code.status
  /-- The content type is that of problem documents. -/
  contentType : response.contentType = some problemContentType
  /-- The body is a document with these members. -/
  document : ∃ document, response.content = .document document ∧
    document.get? "status" = some (Json.ofNat response.status) ∧
    document.get? "code" = some (.string code.name) ∧
    document.get? "instance" = some (.string path)

/-- An answer without its request id. -/
def Response.unnumbered (response : Response) : Response := { response with requestId := none }

/-- An answer under a request id. -/
def Response.numbered (response : Response) (id : String) : Response :=
  { response with requestId := some id }

/-- Two answers are the same but for their request ids. -/
def Response.Alike (a b : Response) : Prop := a.unnumbered = b.unnumbered

/-- Equal answers stay alike under any ids. -/
theorem Response.numbered_alike {a b : Response} (h : a = b) (id id' : String) :
    (a.numbered id).Alike (b.numbered id') := by
  rw [h]
  rfl

/-- What an answer reports it reports under any id. -/
theorem Response.Reports.numbered {response : Response} {path : String} {code : ProblemCode}
    (h : response.Reports path code) (id : String) : (response.numbered id).Reports path code :=
  ⟨h.status, h.contentType, h.document⟩

/-- A problem has the members that a report needs. -/
theorem Problem.get?_toJson (problem : Problem) (path : String) :
    (problem.withInstance path).toJson.get? "status" = some (Json.ofNat problem.status) ∧
      (problem.withInstance path).toJson.get? "code" = some (.string problem.code.name) ∧
      (problem.withInstance path).toJson.get? "instance" = some (.string path) := by
  refine ⟨?_, ?_, ?_⟩ <;>
    simp [Problem.toJson, Problem.withInstance, Problem.status, Json.ofMembers, Json.get?,
      Members.ofList, Members.get?_insert]

end Http

namespace Gateway

open Http (Problem ProblemCode RequestIds Response)
open Proxy (AuditRecord PipelineError RegisterCall RegisterResult)

/-- What was observed of a request, under a request id. -/
def Handled.numbered (handled : Handled) (id : String) : Handled :=
  { handled with response := handled.response.numbered id }

namespace Service

variable {s : Service} {around : Surroundings} {ids : RequestIds} {endpoint : Endpoint}
variable {request : Http.Request}

/-- **Every problem is reported.** -/
theorem reports_problemResponse (path : String) (problem : Problem) :
    (problemResponse path problem).Reports path problem.code :=
  ⟨rfl, rfl, _, rfl, problem.get?_toJson path⟩

/-! ## Reading -/

/-- The request of a known caller to an endpoint. -/
def requestOf (request : Http.Request) (principal : Proxy.Principal) (correlation : Option String)
    (payload : Payload) : Proxy.Request where
  payload := payload
  principal := principal
  correlationId := correlation
  taskDescription := (request.headerText? Http.taskHeader).bind Http.taskDescription
  fullResult := wantsFullResult request.target.query

section

variable {now : Nat} {principal : Proxy.Principal}

theorem read_of_unknown {fault : Auth.AuthError}
    (h : s.verifier.authenticate now (request.header? "authorization") = .error fault) :
    s.read now request = .error (Problem.notAuthenticated s.locale) := by
  unfold read
  rw [h]
  rfl

theorem read_of_malformed {fault : Http.CorrelationFault}
    (hcaller : s.verifier.authenticate now (request.header? "authorization") = .ok principal)
    (h : Http.correlationId? (request.headerText? Http.correlationHeader) = .error fault) :
    s.read now request = .error (Problem.invalidCorrelation s.locale) := by
  unfold read
  rw [hcaller, h]
  rfl

theorem read_of_payload {correlation : Option String} {payload : Payload}
    (hcaller : s.verifier.authenticate now (request.header? "authorization") = .ok principal)
    (hcorrelation :
      Http.correlationId? (request.headerText? Http.correlationHeader) = .ok correlation)
    (h : readPayload? request.body = some payload) :
    s.read now request = .ok (requestOf request principal correlation payload) := by
  unfold read
  rw [hcaller, hcorrelation]
  dsimp only
  rw [h]
  rfl

end

/-! ## Handling -/

/-- A request to the path of an endpoint, of the method that it takes. -/
structure Serves (s : Service) (endpoint : Endpoint) (request : Http.Request) : Prop where
  /-- The path leads to the endpoint. -/
  found : s.endpoint? request = some endpoint
  /-- The method is the one for requests to the register. -/
  posted : request.method = "POST"

/-- Moreover its body is not too long. -/
structure TakesOn (s : Service) (endpoint : Endpoint) (request : Http.Request) : Prop
    extends Serves s endpoint request where
  /-- The body has no more bytes than a body may have. -/
  fits : request.body.size ≤ s.maxBodyBytes

/-- Among paths without braces an endpoint is looked up by the path of the request. -/
theorem endpoint?_of_plain
    (hplain : ∀ path ∈ s.paths, path.toList.all Http.RoutePart.isPlain = true) :
    s.endpoint? request = s.endpoints.get? request.target.path := by
  have hpatterns : ∀ pattern ∈ healthPath :: s.paths,
      pattern.toList.all Http.RoutePart.isPlain = true :=
    List.forall_mem_cons.mpr ⟨by decide, hplain⟩
  rw [endpoint?, route?, Http.route?_of_plain hpatterns]
  split
  · rfl
  · rename_i hunknown
    cases hget : s.endpoints.get? request.target.path with
    | none => rfl
    | some endpoint =>
      exact absurd (List.mem_cons_of_mem _ (Members.mem_names_of_get? hget)) hunknown

section

variable {endpoints : List Endpoint} {cipher : Token.Cipher} {verifier : Auth.Verifier}
variable {locale : Locale} {maxBodyBytes : Nat}

/-- A service has its endpoints under their own paths. -/
theorem of_get?_ofEndpoints {path : String}
    (h : (ofEndpoints endpoints cipher verifier locale maxBodyBytes).endpoints.get? path
      = some endpoint) : endpoint ∈ endpoints ∧ endpoint.publicPath = path := by
  obtain ⟨e, hmem, hentry⟩ := List.mem_map.mp (Table.mem_of_get?_ofList h)
  obtain ⟨hpath, rfl⟩ := Prod.mk.inj hentry
  exact ⟨hmem, hpath⟩

theorem plain_paths_ofEndpoints
    (hplain : ∀ e ∈ endpoints, e.publicPath.toList.all Http.RoutePart.isPlain = true) :
    ∀ path ∈ (ofEndpoints endpoints cipher verifier locale maxBodyBytes).paths,
      path.toList.all Http.RoutePart.isPlain = true := by
  intro path hpath
  obtain ⟨e, hget⟩ := Members.exists_get?_of_mem_names hpath
  obtain ⟨hmem, rfl⟩ := of_get?_ofEndpoints hget
  exact hplain e hmem

/-- Where no path has braces, who is served has asked for the very path of the endpoint. -/
theorem path_of_serves
    (hplain : ∀ e ∈ endpoints, e.publicPath.toList.all Http.RoutePart.isPlain = true)
    (h : (ofEndpoints endpoints cipher verifier locale maxBodyBytes).Serves endpoint request) :
    request.target.path = endpoint.publicPath := by
  -- an endpoint that is found under a path has that path for its own
  have hfound := h.found
  rw [endpoint?_of_plain (plain_paths_ofEndpoints hplain)] at hfound
  exact (of_get?_ofEndpoints hfound).2.symm

/-- A single endpoint serves the requests for its path. -/
theorem serves_only (hplain : endpoint.publicPath.toList.all Http.RoutePart.isPlain = true)
    (hpath : request.target.path = endpoint.publicPath) (hposted : request.method = "POST") :
    (ofEndpoints [endpoint] cipher verifier locale maxBodyBytes).Serves endpoint request := by
  refine ⟨?_, hposted⟩
  rw [endpoint?_of_plain (plain_paths_ofEndpoints (List.forall_mem_singleton.mpr hplain)), hpath]
  exact if_pos rfl

end

/-- What is observed of a request that is read and run. -/
def ranAs (s : Service) (around : Surroundings) (endpoint : Endpoint) (read : Proxy.Request) :
    Handled :=
  let run := Proxy.run endpoint s.cipher around.register read
  ⟨s.runResponse endpoint.publicPath run.result, run.calls, run.audit⟩

/-- Who is served gets the answer of the run. -/
theorem response_ranAs_of_ok {read : Proxy.Request} {answer : Proxy.Response}
    (h : (Proxy.run endpoint s.cipher around.register read).result = .ok answer) :
    (s.ranAs around endpoint read).response = successResponse answer := by
  show s.runResponse endpoint.publicPath _ = _
  rw [h]
  rfl

/-- Who is not served is told the problem. -/
theorem response_ranAs_of_error {read : Proxy.Request} {error : PipelineError}
    (h : (Proxy.run endpoint s.cipher around.register read).result = .error error) :
    (s.ranAs around endpoint read).response
      = problemResponse endpoint.publicPath (Problem.ofPipeline s.locale error) := by
  show s.runResponse endpoint.publicPath _ = _
  rw [h]
  rfl

theorem forward_of_error {problem : Problem} (h : s.read around.now request = .error problem) :
    s.forward around endpoint request = .only (problemResponse endpoint.publicPath problem) := by
  unfold forward
  rw [h]

theorem forward_of_ok {read : Proxy.Request} (h : s.read around.now request = .ok read) :
    s.forward around endpoint request = s.ranAs around endpoint read := by
  unfold forward
  rw [h]
  rfl

/-- A request that is taken on gets the next id. -/
theorem handle_of_takesOn (h : s.TakesOn endpoint request) :
    s.handle around ids request
      = ((s.forward around endpoint request).numbered ids.issue.1, ids.issue.2) := by
  unfold handle
  rw [h.found, h.posted]
  exact if_neg (Nat.not_lt.mpr h.fits)

/-- A request with too long a body gets no id, and is not even read. -/
theorem handle_of_tooLarge (h : s.Serves endpoint request)
    (hlarge : s.maxBodyBytes < request.body.size) :
    s.handle around ids request = (.only tooLargeResponse, ids) := by
  unfold handle
  rw [h.found, h.posted]
  exact if_pos hlarge

end Service

end Gateway

end RegistryGate
