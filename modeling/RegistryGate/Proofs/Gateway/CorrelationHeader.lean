/-
  What becomes of a correlation header.

  A correlation id is an HTTP token of bounded length (`IsCorrelationId`), and a header's text is
  accepted when it is one after trimming (`correlationId_eq_ok_iff`).  A text that is none is a
  faulty parameter: the request is rejected and its endpoint not run.

  The header's bytes have to be a text first.  Bytes that are none are no error; the header then
  counts as absent, and the endpoint is run without a correlation id.  So the header is rejected or
  used as it is, except where its bytes are no visible text, and then still where the run itself
  finds the request at fault (`rejected_or_used_iff`).
-/
import RegistryGate.Proofs.Gateway.Refusals
import RegistryGate.Proofs.Proxy.AuditRecords
import RegistryGate.Proofs.Services.ValidationErrors

namespace RegistryGate

/-! ## Correlation ids -/

namespace Http

/-- A correlation id: a non-empty HTTP token of at most `maxCorrelationLength` bytes. -/
structure IsCorrelationId (id : String) : Prop where
  /-- It is not empty. -/
  nonempty : id ≠ ""
  /-- It is not too long. -/
  bounded : id.utf8ByteSize ≤ maxCorrelationLength
  /-- It has only the characters of HTTP tokens. -/
  token : ∀ c ∈ id.toList, Text.isTokenChar c = true

/-- A header's text is accepted when it is a correlation id after trimming. -/
theorem correlationId_eq_ok_iff {value id : String} :
    correlationId value = .ok id ↔ Text.trim value = id ∧ IsCorrelationId id := by
  unfold correlationId
  dsimp only
  split
  · rename_i hempty
    refine iff_of_false (fun h => nomatch h) ?_
    rintro ⟨rfl, h⟩
    exact h.nonempty (String.isEmpty_iff.mp hempty)
  · split
    · rename_i hlong
      refine iff_of_false (fun h => nomatch h) ?_
      rintro ⟨rfl, h⟩
      exact Nat.not_lt.mpr h.bounded hlong
    · rename_i hempty hlong
      split
      · rename_i htoken
        constructor
        · rintro ⟨rfl⟩
          exact ⟨rfl, fun h => hempty (String.isEmpty_iff.mpr h), Nat.not_lt.mp hlong,
            List.all_eq_true.mp htoken⟩
        · rintro ⟨rfl, -⟩
          rfl
      · rename_i htoken
        refine iff_of_false (fun h => nomatch h) ?_
        rintro ⟨rfl, h⟩
        exact htoken (List.all_eq_true.mpr h.token)

end Http

/-! ## Validation errors -/

/-- A run has a validation error when it ends with one. -/
theorem Proxy.Run.validationError?_isSome_iff {r : Run} :
    r.validationError?.isSome = true ↔
      ∃ error, r.result = .error error ∧ error.isValidation = true := by
  unfold validationError?
  constructor
  -- only errors of the policy are validation errors, and not all of these
  · intro h
    split at h
    · rename_i error hresult
      refine ⟨.policy error, hresult, ?_⟩
      show error.isValidation = true
      by_contra hvalid
      rw [if_neg hvalid] at h
      cases h
    · cases h
  · rintro ⟨error, hresult, hvalid⟩
    rw [hresult]
    cases error with
    | policy error =>
      have hvalid : error.isValidation = true := hvalid
      dsimp only
      rw [if_pos hvalid]
      rfl
    | datasetNotGranted | tokenization | register | internal => cases hvalid

/-- Validation errors are told as faulty parameters, and they are no denials. -/
theorem Http.Problem.code_ofPipeline_of_isValidation {error : Proxy.PipelineError}
    (h : error.isValidation = true) (locale : Locale) :
    (ofPipeline locale error).code = .paramsValidation ∧ error.isDenial = false := by
  cases error with
  | policy error =>
    cases error with
    | permissionDenied => cases h
    | unknownParameter | unsupportedValue | missingParameter => exact ⟨rfl, rfl⟩
  | datasetNotGranted | tokenization | register | internal => cases h

namespace Gateway.Service

open Http (IsCorrelationId Problem RequestIds Response)

variable {s : Service} {around : Surroundings} {endpoint : Endpoint}
variable {request : Http.Request} {caller : Proxy.Principal} {payload : Payload}

/-! ## Rejections -/

/-- A request is rejected for a faulty parameter, and nothing is done for it. -/
structure Rejected (handled : Handled) (path : String) : Prop where
  /-- The answer says that a parameter is at fault. -/
  reports : handled.response.Reports path .paramsValidation
  /-- The register is not called. -/
  uncalled : handled.calls = []
  /-- Nothing is recorded. -/
  unrecorded : handled.audit = []

theorem rejected_invalidCorrelation (path id : String) :
    Rejected ((Handled.only (problemResponse path (Problem.invalidCorrelation s.locale))).numbered
      id) path :=
  ⟨(reports_problemResponse path _).numbered id, rfl, rfl⟩

/-- What is read and run is rejected exactly when the run ends in a validation error. -/
theorem rejected_ranAs_iff {read : Proxy.Request} {id : String} :
    Rejected ((s.ranAs around endpoint read).numbered id) endpoint.publicPath ↔
      (Proxy.run endpoint s.cipher around.register read).validationError?.isSome = true := by
  rw [Proxy.Run.validationError?_isSome_iff]
  have hend := Proxy.ending_run endpoint s.cipher around.register read
  unfold ranAs
  generalize Proxy.run endpoint s.cipher around.register read = r at hend ⊢
  cases hend with
  | @refused refusal hrefused =>
    have hproblem := reports_problemResponse endpoint.publicPath
      (Problem.ofPipeline s.locale refusal.error)
    rcases Proxy.refusalRecords_cases endpoint read refusal with
      ⟨hdenial, hrecords⟩ | ⟨hdenial, record, hrecords, -⟩
    · have hvalid : refusal.error.isValidation = true := by
        have hcause := Proxy.isDenial_or_isValidation_of_refused hrefused
        rw [hdenial] at hcause
        exact hcause.resolve_left Bool.false_ne_true
      rw [(Problem.code_ofPipeline_of_isValidation hvalid s.locale).1] at hproblem
      exact iff_of_true ⟨hproblem.numbered id, rfl, hrecords⟩ ⟨_, rfl, hvalid⟩
    · -- a denial is on record, and is no validation error
      refine iff_of_false (fun h => ?_) ?_
      · have hnone := h.unrecorded
        rw [show _ = [record] from hrecords] at hnone
        cases hnone
      · rintro ⟨error, ⟨rfl⟩, hvalid⟩
        rw [(Problem.code_ofPipeline_of_isValidation hvalid s.locale).2] at hdenial
        cases hdenial
  | failed | untold =>
    refine iff_of_false (fun h => nomatch h.uncalled) ?_
    rintro ⟨error, ⟨rfl⟩, hvalid⟩
    cases hvalid
  | answered =>
    refine iff_of_false (fun h => nomatch h.uncalled) ?_
    rintro ⟨error, herror, -⟩
    cases herror

/-! ## The header -/

/-- A header of visible text is used as it is when its trimmed text is a correlation id, and
rejected otherwise. -/
theorem handle_of_text (ids : RequestIds) {text : String} (htaken : s.TakesOn endpoint request)
    (hcaller : s.verifier.authenticate around.now (request.header? "authorization") = .ok caller)
    (hpayload : readPayload? request.body = some payload)
    (htext : request.headerText? Http.correlationHeader = some text) :
    (IsCorrelationId (Text.trim text) ∧ (s.handle around ids request).1
      = (s.ranAs around endpoint
          (requestOf request caller (some (Text.trim text)) payload)).numbered ids.issue.1) ∨
    (¬ IsCorrelationId (Text.trim text) ∧
      Rejected (s.handle around ids request).1 endpoint.publicPath) := by
  rw [handle_of_takesOn htaken]
  cases hid : Http.correlationId text with
  | ok id =>
    obtain ⟨rfl, hvalid⟩ := Http.correlationId_eq_ok_iff.mp hid
    have hcorrelation : Http.correlationId? (request.headerText? Http.correlationHeader)
        = .ok (some (Text.trim text)) := by
      rw [htext, Http.correlationId?, hid]
      rfl
    rw [forward_of_ok (read_of_payload hcaller hcorrelation hpayload)]
    exact Or.inl ⟨hvalid, rfl⟩
  | error fault =>
    have hcorrelation : Http.correlationId? (request.headerText? Http.correlationHeader)
        = .error fault := by
      rw [htext, Http.correlationId?, hid]
      rfl
    have hinvalid : ¬ IsCorrelationId (Text.trim text) := fun h =>
      nomatch hid.symm.trans (Http.correlationId_eq_ok_iff.mpr ⟨rfl, h⟩)
    rw [forward_of_error (read_of_malformed hcaller hcorrelation)]
    exact Or.inr ⟨hinvalid, rejected_invalidCorrelation _ _⟩

/-- A header whose bytes are no visible text counts as absent. -/
theorem handle_of_no_text (ids : RequestIds) (htaken : s.TakesOn endpoint request)
    (hcaller : s.verifier.authenticate around.now (request.header? "authorization") = .ok caller)
    (hpayload : readPayload? request.body = some payload)
    (htext : request.headerText? Http.correlationHeader = none) :
    (s.handle around ids request).1
      = (s.ranAs around endpoint (requestOf request caller none payload)).numbered ids.issue.1 := by
  have hcorrelation : Http.correlationId? (request.headerText? Http.correlationHeader)
      = .ok none := by
    rw [htext, Http.correlationId?]
  rw [handle_of_takesOn htaken, forward_of_ok (read_of_payload hcaller hcorrelation hpayload)]

/-- **A correlation header is rejected or used as it is, if its bytes are visible text.**  A known
caller sends an object to an endpoint, with a correlation header.  Either the header's trimmed text
is a correlation id, and what is observed is the run with exactly that id; or a faulty parameter is
reported, and nothing is called or recorded: one of the two holds exactly when the bytes of the
header are visible text, or the run without a correlation id ends in a validation error. -/
theorem rejected_or_used_iff {s : Service} {around : Surroundings} {ids : RequestIds}
    {endpoint : Endpoint} {request : Http.Request} {caller : Proxy.Principal} {payload : Payload}
    {value : List UInt8} (htaken : s.TakesOn endpoint request)
    (hcaller : s.verifier.authenticate around.now (request.header? "authorization") = .ok caller)
    (hpayload : readPayload? request.body = some payload)
    (hheader : request.header? Http.correlationHeader = some value) :
    ((∃ text, Text.ofVisibleBytes? value = some text ∧ IsCorrelationId (Text.trim text) ∧
        (s.handle around ids request).1 = (s.ranAs around endpoint
          (requestOf request caller (some (Text.trim text)) payload)).numbered ids.issue.1) ∨
      Rejected (s.handle around ids request).1 endpoint.publicPath) ↔
    ((Text.ofVisibleBytes? value).isSome = true ∨
      (Proxy.run endpoint s.cipher around.register
        (requestOf request caller none payload)).validationError?.isSome = true) := by
  have htext : request.headerText? Http.correlationHeader = Text.ofVisibleBytes? value := by
    rw [Http.Request.headerText?, hheader, Option.bind_some]
  -- bytes that are no visible text are as good as no header
  cases hvisible : Text.ofVisibleBytes? value with
  | some text =>
    refine iff_of_true ?_ (Or.inl rfl)
    rcases handle_of_text ids htaken hcaller hpayload (htext.trans hvisible) with
      ⟨hvalid, hused⟩ | ⟨-, hrejected⟩
    · exact Or.inl ⟨text, rfl, hvalid, hused⟩
    · exact Or.inr hrejected
  | none =>
    rw [handle_of_no_text _ htaken hcaller hpayload (htext.trans hvisible), rejected_ranAs_iff]
    constructor
    · rintro (⟨text, htext, -⟩ | hvalidation)
      · cases htext
      · exact Or.inr hvalidation
    · rintro (hvisible | hvalidation)
      · cases hvisible
      · exact Or.inr hvalidation

/-! ## Searches with a correlation header -/

/-- A search for everyone, with a correlation header. -/
def visitSearch (value : List UInt8) : Http.Request :=
  searchAs [(Http.correlationHeader, value)] "\x7b\"type\":\"Zoek\"\x7d"

/-- The endpoint of searches, for callers who get no tokens. -/
def plainEndpoint : Endpoint := { searchEndpoint .empty with tokenization := none }

/-- Its gateway. -/
def plainService : Service := serviceOf plainEndpoint

theorem takesOn_visitSearch (value : List UInt8) :
    plainService.TakesOn plainEndpoint (visitSearch value) := by
  have hplain : "/zoek".toList.all Http.RoutePart.isPlain = true := by decide
  have hfits : openSearch.body.size ≤ 64 := by decide
  exact ⟨serves_only hplain rfl rfl, hfits⟩

theorem readPayload?_visitSearch (value : List UInt8) :
    readPayload? (visitSearch value).body = some [("type", .string "Zoek")] := by
  show readPayload? openSearch.body = _
  decide +kernel

theorem authenticate_visitSearch (value : List UInt8) :
    plainService.verifier.authenticate searchSurroundings.now
      ((visitSearch value).header? "authorization") = .ok Auth.Verifier.sampleCaller :=
  authenticate_searchAs .empty _ _

/-- The search is run, whatever its correlation id. -/
theorem not_rejected_visitSearch (value : List UInt8) (correlation : Option String) (id : String) :
    ¬ Rejected ((plainService.ranAs searchSurroundings plainEndpoint
      (requestOf (visitSearch value) Auth.Verifier.sampleCaller correlation
        [("type", .string "Zoek")])).numbered id) plainEndpoint.publicPath := by
  rw [rejected_ranAs_iff]
  exact Bool.false_ne_true

/-- White space around a correlation id is taken off, and the search is run with the id. -/
theorem rejected_or_used_of_visit :
    plainService.TakesOn plainEndpoint (visitSearch (Text.bytesOf " visit-1 ")) ∧
      (visitSearch (Text.bytesOf " visit-1 ")).header? Http.correlationHeader
        = some (Text.bytesOf " visit-1 ") ∧
      (plainService.handle searchSurroundings (.start 7)
          (visitSearch (Text.bytesOf " visit-1 "))).1
        = (plainService.ranAs searchSurroundings plainEndpoint
            (requestOf (visitSearch (Text.bytesOf " visit-1 ")) Auth.Verifier.sampleCaller
              (some "visit-1") [("type", .string "Zoek")])).numbered
            (RequestIds.start 7).issue.1 := by
  have htaken := takesOn_visitSearch (Text.bytesOf " visit-1 ")
  have hcaller := authenticate_visitSearch (Text.bytesOf " visit-1 ")
  have hpayload := readPayload?_visitSearch (Text.bytesOf " visit-1 ")
  have hvisible : Text.ofVisibleBytes? (Text.bytesOf " visit-1 ") = some " visit-1 " := by
    decide +kernel
  have htrim : Text.trim " visit-1 " = "visit-1" := by decide
  have hcorrelation : Http.correlationId?
      ((visitSearch (Text.bytesOf " visit-1 ")).headerText? Http.correlationHeader)
        = .ok (some "visit-1") := by rfl
  refine ⟨htaken, rfl, ?_⟩
  have hiff := @rejected_or_used_iff _ _ (.start 7) _ _ _ _ _ htaken hcaller hpayload rfl
  rcases hiff.mpr (Or.inl (Option.isSome_of_eq_some hvisible)) with
    ⟨text, htext, -, hused⟩ | hrejected
  · obtain rfl := Option.some.inj (hvisible.symm.trans htext)
    rw [htrim] at hused
    exact hused
  · rw [handle_of_takesOn htaken, forward_of_ok (read_of_payload hcaller hcorrelation hpayload)]
      at hrejected
    exact absurd hrejected (not_rejected_visitSearch _ _ _)

/-- Bytes that are no visible text are not rejected: the search is run, without a correlation id. -/
theorem invisible_header_ignored :
    ¬ ∀ (s : Service) (around : Surroundings) (ids : RequestIds) (endpoint : Endpoint)
      (request : Http.Request) (caller : Proxy.Principal) (payload : Payload) (value : List UInt8),
      s.TakesOn endpoint request →
      s.verifier.authenticate around.now (request.header? "authorization") = .ok caller →
      readPayload? request.body = some payload →
      request.header? Http.correlationHeader = some value →
      (∃ text, Text.ofVisibleBytes? value = some text ∧ IsCorrelationId (Text.trim text) ∧
          (s.handle around ids request).1 = (s.ranAs around endpoint
            (requestOf request caller (some (Text.trim text)) payload)).numbered ids.issue.1) ∨
        Rejected (s.handle around ids request).1 endpoint.publicPath := by
  -- a header that is no visible text leaves the run without an id, and that run goes well
  intro h
  have htaken := takesOn_visitSearch [98, 101, 122, 195, 169]
  have hcaller := authenticate_visitSearch [98, 101, 122, 195, 169]
  have hpayload := readPayload?_visitSearch [98, 101, 122, 195, 169]
  rcases h _ _ (.start 7) _ _ _ _ [98, 101, 122, 195, 169] htaken hcaller hpayload rfl with
    ⟨text, htext, -⟩ | hrejected
  · cases htext
  · rw [handle_of_no_text _ htaken hcaller hpayload rfl] at hrejected
    exact not_rejected_visitSearch _ _ _ hrejected

end Gateway.Service

end RegistryGate
