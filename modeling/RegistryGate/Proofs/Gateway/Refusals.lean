/-
  What a refusal tells.

  A client that is refused learns that it was, and nothing about the reason.  All denials become one
  problem (`Problem.ofPipeline_of_isDenial`), and so do all failures of authentication; the answer
  is then made of that problem and the path of the endpoint.  Hence two requests that are refused in
  one of these ways cannot be told apart by their answers, whatever else they have
  (`refusals_alike`).

  A caller who misses what every request requires is denied before the payload is looked at, so for
  such a caller the answer does not depend on the payload at all, as long as it is one.
-/
import RegistryGate.Proofs.Auth.AcceptedTokens
import RegistryGate.Proofs.Gateway.Handling
import RegistryGate.Proofs.Policy.Evaluation
import RegistryGate.Proofs.Proxy.Ending

namespace RegistryGate

/-! ## Denials -/

/-- Holds of the runs that end in a denial. -/
def Proxy.Run.isDenied (r : Run) : Bool :=
  match r.result with
  | .error error => error.isDenial
  | .ok _ => false

theorem Proxy.Run.exists_of_isDenied {r : Run} (h : r.isDenied = true) :
    ∃ error, r.result = .error error ∧ error.isDenial = true := by
  unfold isDenied at h
  split at h
  · exact ⟨_, by assumption, h⟩
  · cases h

/-- Denials of every cause share one problem. -/
theorem Http.Problem.ofPipeline_of_isDenial {error : Proxy.PipelineError}
    (h : error.isDenial = true) (locale : Locale) :
    ofPipeline locale error = permissionDenied locale := by
  -- a denial for a permission, for a dataset or for a token is told alike
  cases error with
  | policy error =>
    cases error with
    | permissionDenied => rfl
    | unknownParameter | unsupportedValue | missingParameter => cases h
  | datasetNotGranted | tokenization => rfl
  | register | internal => cases h

namespace Gateway.Service

open Http (Problem RequestIds Response)
open Proxy (RegisterCall RegisterResult)

variable {s : Service} {around : Surroundings} {endpoint : Endpoint} {request : Http.Request}

/-! ## Ways to be refused -/

/-- The request is read, and its run ends in a denial. -/
def Denies (s : Service) (around : Surroundings) (endpoint : Endpoint) (request : Http.Request) :
    Prop :=
  ∃ read, s.read around.now request = .ok read ∧
    (Proxy.run endpoint s.cipher around.register read).isDenied = true

/-- The sender is not known. -/
def Unknown (s : Service) (around : Surroundings) (request : Http.Request) : Prop :=
  ∃ fault, s.verifier.authenticate around.now (request.header? "authorization") = .error fault

/-- The sender is known, and misses something that every request requires. -/
def Unentitled (s : Service) (around : Surroundings) (endpoint : Endpoint)
    (request : Http.Request) : Prop :=
  ∃ caller, s.verifier.authenticate around.now (request.header? "authorization") = .ok caller ∧
    ¬ endpoint.baseScopes.MetBy caller.scopes

/-! ## What the client is told -/

/-- So the answer to a denied request is made of the endpoint and the language alone. -/
theorem Denies.forward (h : s.Denies around endpoint request) :
    (s.forward around endpoint request).response
      = problemResponse endpoint.publicPath (Problem.permissionDenied s.locale) := by
  obtain ⟨read, hread, hdenied⟩ := h
  obtain ⟨error, hresult, hdenial⟩ := Proxy.Run.exists_of_isDenied hdenied
  rw [forward_of_ok hread, response_ranAs_of_error hresult,
    Problem.ofPipeline_of_isDenial hdenial]

/-- For an unknown sender nothing is called and nothing recorded. -/
theorem Unknown.forward (h : s.Unknown around request) :
    s.forward around endpoint request
      = .only (problemResponse endpoint.publicPath (Problem.notAuthenticated s.locale)) := by
  obtain ⟨fault, hfault⟩ := h
  exact forward_of_error (read_of_unknown hfault)

/-- Whoever misses what every request requires is denied, before the payload is looked at. -/
theorem isDenied_run_of_unmet {cipher : Token.Cipher} {register : RegisterCall → RegisterResult}
    {read : Proxy.Request} (h : ¬ endpoint.baseScopes.MetBy read.principal.scopes) :
    (Proxy.run endpoint cipher register read).isDenied = true := by
  cases hchecked : endpoint.baseScopes.ensureGranted read.principal.scopes with
  | ok => exact absurd (Requirements.ensureGranted_eq_ok_iff.mp hchecked) h
  | error error =>
    unfold Proxy.run
    rw [Proxy.prepare_of_base hchecked]
    obtain ⟨rfl, -⟩ := Requirements.of_ensureGranted_eq_error hchecked
    rfl

/-- The problem of an unentitled sender's payload: the one with the correlation header, if that is
malformed, and a denial otherwise. -/
theorem Unentitled.forward (h : s.Unentitled around endpoint request)
    (hpayload : (readPayload? request.body).isSome = true) :
    (s.forward around endpoint request).response = problemResponse endpoint.publicPath
      (match Http.correlationId? (request.headerText? Http.correlationHeader) with
        | .ok _ => Problem.permissionDenied s.locale
        | .error _ => Problem.invalidCorrelation s.locale) := by
  obtain ⟨caller, hcaller, hunmet⟩ := h
  obtain ⟨payload, hpayload⟩ := Option.isSome_iff_exists.mp hpayload
  cases hcorrelation : Http.correlationId? (request.headerText? Http.correlationHeader) with
  | error fault => rw [forward_of_error (read_of_malformed hcaller hcorrelation)]; rfl
  | ok correlation =>
    have hread := read_of_payload hcaller hcorrelation hpayload
    exact Denies.forward ⟨_, hread, isDenied_run_of_unmet hunmet⟩

/-! ## Two requests -/

/-- **Refusals tell nothing.**  Two requests to an endpoint are taken on, at any time, whatever the
register does.  Their answers are the same but for the request id:
if both are denied, for whatever reason;
if both senders miss what every request requires, the correlation headers are the same and both
bodies are objects;
if both senders are unknown, and then neither is the register called nor anything recorded. -/
theorem refusals_alike {s : Service} {endpoint : Endpoint} {around around' : Surroundings}
    {ids ids' : RequestIds} {first second : Http.Request} (hfirst : s.TakesOn endpoint first)
    (hsecond : s.TakesOn endpoint second) :
    (s.Denies around endpoint first → s.Denies around' endpoint second →
      (s.handle around ids first).1.response.Alike (s.handle around' ids' second).1.response ∧
        (s.handle around ids first).1.response.Reports endpoint.publicPath .permissionDenied) ∧
    (s.Unentitled around endpoint first → s.Unentitled around' endpoint second →
      first.headerText? Http.correlationHeader = second.headerText? Http.correlationHeader →
      (readPayload? first.body).isSome = true → (readPayload? second.body).isSome = true →
      (s.handle around ids first).1.response.Alike (s.handle around' ids' second).1.response) ∧
    (s.Unknown around first → s.Unknown around' second →
      (s.handle around ids first).1.response.Alike (s.handle around' ids' second).1.response ∧
        (s.handle around ids first).1.response.Reports endpoint.publicPath .notAuthenticated ∧
        (s.handle around ids first).1.calls = [] ∧ (s.handle around ids first).1.audit = []) := by
  rw [handle_of_takesOn hfirst, handle_of_takesOn hsecond]
  refine ⟨fun h h' => ?_, fun h h' hcorrelation hpayload hpayload' => ?_, fun h h' => ?_⟩
  · -- both are told the denial, which knows nothing of its cause
    have hreports : (s.forward around endpoint first).response.Reports endpoint.publicPath
        .permissionDenied := by
      rw [h.forward]
      exact reports_problemResponse _ _
    exact ⟨Response.numbered_alike (h.forward.trans h'.forward.symm) _ _, hreports.numbered _⟩
  · -- the header is the same, and what is said of it does not depend on the payload
    have hforward := h'.forward hpayload'
    rw [← hcorrelation] at hforward
    exact Response.numbered_alike ((h.forward hpayload).trans hforward.symm) _ _
  · rw [h.forward, h'.forward]
    have hreports := reports_problemResponse endpoint.publicPath (Problem.notAuthenticated s.locale)
    exact ⟨Response.numbered_alike rfl _ _, hreports.numbered _, rfl, rfl⟩

/-! ## Refused searches -/

/-- An endpoint with one query, a search that requires a scope for names; its callers get tokens. -/
def searchEndpoint (base : Requirements) : Endpoint :=
  { (Endpoint.ofService "zoek" "https://register.example/zoek" "/zoek" base).withVariant
      (Variant.ofRuleset "Zoek"
        ((Ruleset.empty.insert "type" (ParameterPolicy.empty.allowValue "Zoek")).insert "naam"
          (ParameterPolicy.forAllValues "namen"))) with
    tokenization := some ⟨"benk-brp-api", "nummers", ["bsn"], []⟩ }

/-- A gateway with one endpoint. -/
def serviceOf (endpoint : Endpoint) : Service :=
  ofEndpoints [endpoint] ⟨Digest.hmacSha256, []⟩ (Auth.Verifier.sampleVerifier none) .en 64

/-- The gateway of searches. -/
def searchService (base : Requirements) : Service := serviceOf (searchEndpoint base)

/-- A request to it. -/
def search (headers : List (String × List UInt8)) (body : String) : Http.Request :=
  ⟨"POST", ⟨"/zoek", none⟩, headers, body.toUTF8⟩

/-- The same, sent with an accepted token. -/
def searchAs (headers : List (String × List UInt8)) (body : String) : Http.Request :=
  search (("authorization", Auth.Verifier.sampleHeader) :: headers) body

/-- What surrounds such requests: a time before the token expires, and a register that answers. -/
def searchSurroundings : Surroundings := ⟨1700000000, fun _ => .ok ⟨200, none, .null⟩⟩

theorem takesOn_search (base : Requirements) {request : Http.Request}
    (hpath : request.target.path = "/zoek") (hposted : request.method = "POST")
    (hfits : request.body.size ≤ 64) :
    (searchService base).TakesOn (searchEndpoint base) request := by
  have hplain : "/zoek".toList.all Http.RoutePart.isPlain = true := by decide
  exact ⟨serves_only hplain hpath hposted, hfits⟩

theorem authenticate_searchAs (base : Requirements) (headers : List (String × List UInt8))
    (body : String) :
    (searchService base).verifier.authenticate 1700000000
      ((searchAs headers body).header? "authorization") = .ok Auth.Verifier.sampleCaller := by
  have hname : (Text.lower "authorization" == "authorization") = true := by decide
  have hheader : (searchAs headers body).header? "authorization"
      = some Auth.Verifier.sampleHeader := by
    simp only [Http.Request.header?, searchAs, search, List.find?_cons, hname, Option.map_some]
  rw [hheader]
  exact Auth.Verifier.authenticate_sampleHeader none

/-- The answer to such a request. -/
def searched (base : Requirements) (request : Http.Request) : Response :=
  ((searchService base).handle searchSurroundings (.start 7) request).1.response

/-- A search for a name. -/
def nameSearch : Http.Request :=
  searchAs [] "\x7b\"type\":\"Zoek\",\"naam\":\"Jansen\"\x7d"

/-- A search for everyone. -/
def openSearch : Http.Request := searchAs [] "\x7b\"type\":\"Zoek\"\x7d"

/-- What is sent without a token. -/
def anonymousRequest : Http.Request := search [] ""

/-- What is sent with something else than a token. -/
def strangeRequest : Http.Request :=
  search [("authorization", Text.bytesOf "Basic YTpi")] "\x7b\"type\":\"Zoek\"\x7d"

/-- The name needs a scope that the caller does not hold, and the open search a correlation id: both
are denied alike.  Where every request requires a role that the caller lacks, the two payloads make
no difference; and without a bearer token nothing does. -/
theorem refusals_alike_of_searches :
    ((searchService .empty).Denies searchSurroundings (searchEndpoint .empty) nameSearch ∧
      (searchService .empty).Denies searchSurroundings (searchEndpoint .empty) openSearch ∧
      (searched .empty nameSearch).Alike (searched .empty openSearch)) ∧
    ((searchService (.ofScope "rol")).Unentitled searchSurroundings
        (searchEndpoint (.ofScope "rol")) nameSearch ∧
      (searchService (.ofScope "rol")).Unentitled searchSurroundings
        (searchEndpoint (.ofScope "rol")) openSearch ∧
      (searched (.ofScope "rol") nameSearch).Alike (searched (.ofScope "rol") openSearch)) ∧
    (searchService .empty).Unknown searchSurroundings anonymousRequest ∧
      (searchService .empty).Unknown searchSurroundings strangeRequest ∧
      (searched .empty anonymousRequest).Alike (searched .empty strangeRequest) := by
  have hname : readPayload? nameSearch.body
      = some [("naam", .string "Jansen"), ("type", .string "Zoek")] := by decide +kernel
  have hopen : readPayload? openSearch.body = some [("type", .string "Zoek")] := by decide +kernel
  have hnameTaken : ∀ base, (searchService base).TakesOn (searchEndpoint base) nameSearch :=
    fun base => takesOn_search base rfl rfl (by decide)
  have hopenTaken : ∀ base, (searchService base).TakesOn (searchEndpoint base) openSearch :=
    fun base => takesOn_search base rfl rfl (by decide)
  have hanonymousTaken : (searchService .empty).TakesOn (searchEndpoint .empty) anonymousRequest :=
    takesOn_search .empty rfl rfl (by decide)
  have hstrangeTaken : (searchService .empty).TakesOn (searchEndpoint .empty) strangeRequest :=
    takesOn_search .empty rfl rfl (by decide)
  have hnameDenied : (searchService .empty).Denies searchSurroundings (searchEndpoint .empty)
      nameSearch :=
    ⟨_, read_of_payload (authenticate_searchAs _ _ _) rfl hname, by decide +kernel⟩
  have hopenDenied : (searchService .empty).Denies searchSurroundings (searchEndpoint .empty)
      openSearch :=
    ⟨_, read_of_payload (authenticate_searchAs _ _ _) rfl hopen, by decide +kernel⟩
  have hunmet : ¬ (searchEndpoint (.ofScope "rol")).baseScopes.MetBy
      Auth.Verifier.sampleCaller.scopes :=
    mt Requirements.metBy_singleton.mp (by decide)
  have hnameUnentitled : (searchService (.ofScope "rol")).Unentitled searchSurroundings
      (searchEndpoint (.ofScope "rol")) nameSearch :=
    ⟨_, authenticate_searchAs _ _ _, hunmet⟩
  have hopenUnentitled : (searchService (.ofScope "rol")).Unentitled searchSurroundings
      (searchEndpoint (.ofScope "rol")) openSearch :=
    ⟨_, authenticate_searchAs _ _ _, hunmet⟩
  have hanonymous : (searchService .empty).Unknown searchSurroundings anonymousRequest :=
    ⟨.missingToken, rfl⟩
  have hstrange : (searchService .empty).Unknown searchSurroundings strangeRequest :=
    ⟨.invalidToken .notBearer, by decide +kernel⟩
  obtain ⟨hdenied, -, -⟩ := refusals_alike (hnameTaken .empty) (hopenTaken .empty)
  obtain ⟨-, hunentitled, -⟩ := refusals_alike (hnameTaken (.ofScope "rol")) (hopenTaken _)
  obtain ⟨-, -, hunknown⟩ := refusals_alike hanonymousTaken hstrangeTaken
  exact ⟨⟨hnameDenied, hopenDenied, (hdenied hnameDenied hopenDenied).1⟩,
    ⟨hnameUnentitled, hopenUnentitled, hunentitled hnameUnentitled hopenUnentitled rfl
      (Option.isSome_of_eq_some hname) (Option.isSome_of_eq_some hopen)⟩,
    hanonymous, hstrange, (hunknown hanonymous hstrange).1⟩

end Gateway.Service

end RegistryGate
