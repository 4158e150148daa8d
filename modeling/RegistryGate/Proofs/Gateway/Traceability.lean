/-
  Whether an answer can be traced back to its request.

  A client who was not served should be told why in a problem document, and every answer should have
  a request id.  Both are the work of the same step, which takes the request on: from there on there
  are only the answer of a run that succeeded and reports (`answered_or_reported`).  But the size of
  the body is judged before that step.  So an answer is traceable exactly when the body is not too
  long (`traceable_iff`).
-/
import RegistryGate.Proofs.Gateway.Refusals

namespace RegistryGate.Gateway.Service

open Http (Problem ProblemCode RequestIds Response)

variable {s : Service} {around : Surroundings} {ids : RequestIds} {endpoint : Endpoint}
variable {request : Http.Request}

/-- An answer is the one of a run that succeeded. -/
def Answers (s : Service) (around : Surroundings) (endpoint : Endpoint) (request : Http.Request)
    (response : Response) : Prop :=
  ∃ read answer, s.read around.now request = .ok read ∧
    (Proxy.run endpoint s.cipher around.register read).result = .ok answer ∧
    response.Alike (successResponse answer)

/-- An answer has a request id, and unless it is the one of a run that succeeded it reports a
problem under the path of the endpoint. -/
structure Traceable (s : Service) (around : Surroundings) (endpoint : Endpoint)
    (request : Http.Request) (response : Response) : Prop where
  /-- It has a request id. -/
  numbered : response.requestId.isSome = true
  /-- It answers the request, or reports why it does not. -/
  told : s.Answers around endpoint request response ∨
    ∃ code, response.Reports endpoint.publicPath code

/-- What is taken on is answered or reported. -/
theorem answered_or_reported (id : String) :
    s.Answers around endpoint request
        ((s.forward around endpoint request).numbered id).response ∨
      ∃ code, ((s.forward around endpoint request).numbered id).response.Reports
        endpoint.publicPath code := by
  cases hread : s.read around.now request with
  | error problem =>
    rw [forward_of_error hread]
    exact Or.inr ⟨problem.code,
      (reports_problemResponse _ problem).numbered id⟩
  | ok read =>
    rw [forward_of_ok hread]
    cases hresult : (Proxy.run endpoint s.cipher around.register read).result with
    | ok answer =>
      exact Or.inl ⟨read, answer, hread, hresult,
        Response.numbered_alike (response_ranAs_of_ok hresult) id ""⟩
    | error error =>
      refine Or.inr ⟨(Problem.ofPipeline s.locale error).code, Response.Reports.numbered ?_ id⟩
      rw [response_ranAs_of_error hresult]
      exact reports_problemResponse _ _

/-- **An answer is traceable exactly when the body is not too long.** -/
theorem traceable_iff {s : Service} {around : Surroundings} {ids : RequestIds}
    {endpoint : Endpoint} {request : Http.Request} (hserves : s.Serves endpoint request) :
    s.Traceable around endpoint request (s.handle around ids request).1.response ↔
      request.body.size ≤ s.maxBodyBytes := by
  constructor
  · -- too long a body is answered without an id
    intro h
    by_contra hlarge
    have hnumbered := h.numbered
    rw [handle_of_tooLarge hserves (Nat.not_le.mp hlarge)] at hnumbered
    cases hnumbered
  · -- all else has an id, and is answered or reported
    intro hfits
    rw [handle_of_takesOn ⟨hserves, hfits⟩]
    exact ⟨rfl, answered_or_reported _⟩

/-! ## Requests with and without a body -/

/-- What is sent without a token, but with a body of a byte more than a body may have. -/
def longRequest : Http.Request := { anonymousRequest with body := ⟨Array.replicate 65 32⟩ }

/-- The path of the endpoint is a plain one. -/
theorem plain_searchEndpoint :
    (searchEndpoint .empty).publicPath.toList.all Http.RoutePart.isPlain = true := by decide

theorem serves_anonymous (body : ByteArray) :
    (searchService .empty).Serves (searchEndpoint .empty) { anonymousRequest with body := body } :=
  serves_only plain_searchEndpoint rfl rfl

/-- The short request is traceable, and the path of the endpoint is the one that it asks for; with
the longer body it is not. -/
theorem traceable_of_anonymous :
    (searchService .empty).Serves (searchEndpoint .empty) anonymousRequest ∧
      anonymousRequest.target.path = (searchEndpoint .empty).publicPath ∧
      (searchService .empty).Traceable searchSurroundings (searchEndpoint .empty) anonymousRequest
        (searched .empty anonymousRequest) ∧
      (searchService .empty).Serves (searchEndpoint .empty) longRequest ∧
      ¬ (searchService .empty).Traceable searchSurroundings (searchEndpoint .empty) longRequest
        (searched .empty longRequest) := by
  have hshort := serves_anonymous anonymousRequest.body
  have hlong := serves_anonymous longRequest.body
  have hplain : ∀ e ∈ [searchEndpoint .empty],
      e.publicPath.toList.all Http.RoutePart.isPlain = true :=
    List.forall_mem_singleton.mpr plain_searchEndpoint
  exact ⟨hshort, path_of_serves hplain hshort, (traceable_iff hshort).mpr (by decide), hlong,
    fun h => absurd ((traceable_iff hlong).mp h) (by decide)⟩

/-- Not every answer is traceable: the one to too long a body has no request id. -/
theorem long_body_untraceable :
    ¬ ∀ (s : Service) (around : Surroundings) (ids : RequestIds) (endpoint : Endpoint)
      (request : Http.Request), s.Serves endpoint request →
      s.Traceable around endpoint request (s.handle around ids request).1.response := by
  intro h
  have hserves := serves_anonymous longRequest.body
  have hnumbered := (h _ searchSurroundings (.start 7) _ _ hserves).numbered
  rw [handle_of_tooLarge hserves (by decide)] at hnumbered
  cases hnumbered

end RegistryGate.Gateway.Service
