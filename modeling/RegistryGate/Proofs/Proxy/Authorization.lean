/-
  Authorization comes before the register.

  `prepare` alone decides whether the register is called.  `Admission` lists, as named facts, all
  that it has established when it lets a request through, guards and results alike; every statement
  about what is forwarded starts from it (`admission_of_prepare`, `mem_calls_iff`).  The first of
  them is `register_called_only_when_authorized`: a run calls the register at most once, at the
  endpoint's address, and only for a request whose every scope requirement is met; an error of
  policy, datasets or tokens means that it was not called.
-/
import RegistryGate.Proofs.Policy.Evaluation
import RegistryGate.Proofs.Proxy.Ending

namespace RegistryGate.Proxy

open Token (Cipher)

variable {endpoint : Endpoint} {cipher : Cipher} {request : Request} {prepared : Prepared}

/-! ## What lets a request through -/

/-- Everything that is established about a request when it may be forwarded. -/
structure Admission (endpoint : Endpoint) (cipher : Cipher) (request : Request)
    (prepared : Prepared) : Prop where
  /-- The caller meets the requirements on every request. -/
  base : endpoint.baseScopes.MetBy request.principal.scopes
  /-- The request names a variant of the endpoint. -/
  selected : endpoint.select request.payload = .ok prepared.variant
  /-- The caller holds a dataset, where default fields are needed. -/
  dataset : (resolveFields prepared.variant request.principal.scopes
    (prepared.variant.augment request.principal.scopes request.payload)).1 ≠ .noDataset
  /-- The ruleset accepts the judged payload, and the caller meets all requirements together. -/
  ruled : ∃ ruled,
    prepared.variant.ruleset.requiredScopes
      (judgedPayload prepared.variant request.principal.scopes request.payload) = .ok ruled ∧
    Requirements.MetBy (endpoint.baseScopes.union ruled) request.principal.scopes ∧
    prepared.needed = Requirements.labels (endpoint.baseScopes.union ruled)
  /-- What the caller gets is what the judged payload asks for. -/
  callerFields : prepared.callerFields
    = requestedFields (judgedPayload prepared.variant request.principal.scopes request.payload)
  /-- A caller who gets tokens has sent a correlation id. -/
  tokenizing : tokenizingCorrelation endpoint.tokenization request.principal.scopes
    request.correlationId = .ok prepared.tokenizing
  /-- What is forwarded is the judged payload with its tokens put back and the identifying fields
  added. -/
  forwarded : ∃ resolved,
    resolveTokens endpoint.tokenization cipher request.principal.scopes prepared.tokenizing
      (judgedPayload prepared.variant request.principal.scopes request.payload) = .ok resolved ∧
    insertIdentifiers prepared.variant resolved = (prepared.inserted, prepared.payload)

/-- A caller who gets tokens has sent a correlation id. -/
theorem tokenizingCorrelation_of_held {rule : TokenizationRule} {granted : NameSet}
    {sent tokenizing : Option String}
    (h : tokenizingCorrelation (some rule) granted sent = .ok tokenizing)
    (hscope : rule.scope ∈ granted) : ∃ id, sent = some id ∧ tokenizing = some id := by
  unfold tokenizingCorrelation at h
  dsimp only at h
  rw [if_pos (SortedSet.contains_iff.mpr hscope)] at h
  cases sent with
  | none => cases h
  | some id =>
    cases h
    exact ⟨id, rfl, rfl⟩

/-- A caller without the scope gets no tokens. -/
theorem tokenizingCorrelation_of_not_held {rule : TokenizationRule} {granted : NameSet}
    {sent tokenizing : Option String}
    (h : tokenizingCorrelation (some rule) granted sent = .ok tokenizing)
    (hscope : ¬ rule.scope ∈ granted) : tokenizing = none := by
  unfold tokenizingCorrelation at h
  dsimp only at h
  rw [if_neg fun hheld => hscope (SortedSet.contains_iff.mp hheld)] at h
  cases h
  rfl

/-- The only way to the register leads through all checks. -/
theorem admission_of_prepare (h : prepare endpoint cipher request = .ok prepared) :
    Admission endpoint cipher request prepared := by
  have hdecided := decided_prepare endpoint cipher request
  rw [h] at hdecided
  -- of all decisions only one lets a request through
  cases hdecided with
  | admitted hpermitted htokenizing hresolved =>
    exact
      { base := Requirements.ensureGranted_eq_ok_iff.mp hpermitted.base
        selected := hpermitted.selected
        dataset := hpermitted.dataset
        ruled := ⟨_, hpermitted.faultless,
          Requirements.ensureGranted_eq_ok_iff.mp hpermitted.permitted, rfl⟩
        callerFields := rfl
        tokenizing := htokenizing
        forwarded := ⟨_, hresolved, rfl⟩ }

namespace Admission

/-- The judged value of a parameter has a policy, which supports each of its elements, and the
caller meets what it requires. -/
theorem supported (h : Admission endpoint cipher request prepared) {name : String} {value : Json}
    (hvalue : Members.get? name
      (judgedPayload prepared.variant request.principal.scopes request.payload) = some value) :
    ∃ policy, prepared.variant.ruleset.get? name = some policy ∧
      ∀ element ∈ value.elements, ∃ needed,
        policy.requirementsOn? element = some needed ∧
          needed.MetBy request.principal.scopes := by
  obtain ⟨ruled, hruled, hmet, -⟩ := h.ruled
  -- what the whole request requires includes what the element requires
  obtain ⟨policy, hpolicy, helements⟩ := Ruleset.requiredScopes_sound hruled hvalue
  refine ⟨policy, hpolicy, fun element helement => ?_⟩
  obtain ⟨needed, hneeded, hsub⟩ := helements element helement
  exact ⟨needed, hneeded, hmet.mono fun r hr => SortedSet.mem_union.mpr (Or.inr (hsub r hr))⟩

/-- The request was judged under the variant that it selects. -/
theorem variant_eq (h : Admission endpoint cipher request prepared) {variant : Variant}
    (hselected : endpoint.select request.payload = .ok variant) : prepared.variant = variant :=
  Except.ok.inj (h.selected.symm.trans hselected)

/-- A parameter other than `fields`, and not among those whose tokens are put back, is forwarded as
it was filled in. -/
theorem get?_payload_of_ne (h : Admission endpoint cipher request prepared) {name : String}
    (hfields : name ≠ fieldsParameter)
    (htokens : ∀ rule, endpoint.tokenization = some rule → name ∉ rule.parameters) :
    Members.get? name prepared.payload
      = Members.get? name
          (prepared.variant.augment request.principal.scopes request.payload) := by
  -- of the stages only the tokens and the `fields` parameter change a payload
  obtain ⟨resolved, hresolved, hinserted⟩ := h.forwarded
  have hpayload : prepared.payload = (insertIdentifiers prepared.variant resolved).2 := by
    rw [hinserted]
  rw [hpayload, get?_insertIdentifiers_of_ne hfields,
    get?_resolveTokens_of_not_mem hresolved htokens]
  exact get?_resolveFields_of_ne hfields ..

end Admission

/-! ## Calls of a run -/

/-- A run calls the register exactly when the request may be forwarded, with what was prepared. -/
theorem calls_run (endpoint : Endpoint) (cipher : Cipher)
    (register : RegisterCall → RegisterResult) (request : Request) :
    (run endpoint cipher register request).calls
      = match prepare endpoint cipher request with
        | .ok prepared => [⟨endpoint.registerUrl, .object prepared.payload⟩]
        | .error _ => [] := by
  have hend := ending_run endpoint cipher register request
  generalize run endpoint cipher register request = r at hend
  -- by the way in which the run ended
  cases hend with
  | refused h | failed h | untold h | answered h => rw [h]

theorem mem_calls_iff {register : RegisterCall → RegisterResult} {call : RegisterCall} :
    call ∈ (run endpoint cipher register request).calls ↔
      ∃ prepared, prepare endpoint cipher request = .ok prepared ∧
        call = ⟨endpoint.registerUrl, .object prepared.payload⟩ := by
  rw [calls_run]
  cases prepare endpoint cipher request with
  | error refusal => simp
  | ok prepared => simp

/-- What a run forwards went through all checks. -/
theorem admission_of_mem_calls {register : RegisterCall → RegisterResult} {call : RegisterCall}
    (h : call ∈ (run endpoint cipher register request).calls) :
    ∃ prepared, prepare endpoint cipher request = .ok prepared ∧
      call = ⟨endpoint.registerUrl, .object prepared.payload⟩ ∧
      Admission endpoint cipher request prepared := by
  obtain ⟨prepared, hprepared, hcall⟩ := mem_calls_iff.mp h
  exact ⟨prepared, hprepared, hcall, admission_of_prepare hprepared⟩

/-- A run that is answered has the register's answer passed on, transformed. -/
theorem exists_transform_of_answered {register : RegisterCall → RegisterResult}
    {call : RegisterCall} {answer : RegisterResponse} {response : Response}
    (hcall : call ∈ (run endpoint cipher register request).calls)
    (hanswer : register call = .ok answer)
    (hresponse : (run endpoint cipher register request).result = .ok response) :
    ∃ prepared, call = ⟨endpoint.registerUrl, .object prepared.payload⟩ ∧
      Admission endpoint cipher request prepared ∧
      transform endpoint cipher request prepared answer.body = .ok response.body := by
  have hend := ending_run endpoint cipher register request
  generalize run endpoint cipher register request = r at hend hcall hresponse
  cases hend with
  | refused | failed | untold => cases hresponse
  | @answered prepared found body h hregister htransform =>
    cases hresponse
    obtain rfl := List.mem_singleton.mp hcall
    obtain rfl : found = answer := Except.ok.inj (hregister.symm.trans hanswer)
    exact ⟨prepared, rfl, admission_of_prepare h, htransform⟩

/-! ## Authorization -/

/-- A request that is authorized under a variant of its endpoint. -/
structure Authorized (endpoint : Endpoint) (request : Request) (variant : Variant) : Prop where
  /-- The granted scopes meet every requirement of the endpoint. -/
  base : ∀ r, r ∈ endpoint.baseScopes → r.satisfiedBy request.principal.scopes = true
  /-- The discriminator selects the variant, which is registered. -/
  selected : ∃ value name, Members.get? endpoint.discriminator request.payload = some value ∧
    value.scalarText? = some name ∧ endpoint.variants.get? name = some variant
  /-- Every parameter of the judged payload has a policy, and every element of it is resolved to
  requirements, which the granted scopes meet. -/
  supported : ∀ name value,
    Members.get? name (judgedPayload variant request.principal.scopes request.payload) = some value →
    ∃ policy, variant.ruleset.get? name = some policy ∧
      ∀ element ∈ value.elements, ∃ needed, policy.requirementsOn? element = some needed ∧
        ∀ r, r ∈ needed → r.satisfiedBy request.principal.scopes = true
  /-- The ruleset's requirements are known, and the granted scopes meet them and the endpoint's. -/
  met : ∃ ruled, variant.ruleset.requiredScopes
      (judgedPayload variant request.principal.scopes request.payload) = .ok ruled ∧
    ∀ r, r ∈ endpoint.baseScopes.union ruled → r.satisfiedBy request.principal.scopes = true

theorem select_eq_ok {variant : Variant} {payload : Payload}
    (h : endpoint.select payload = .ok variant) :
    ∃ value name, Members.get? endpoint.discriminator payload = some value ∧
      value.scalarText? = some name ∧ endpoint.variants.get? name = some variant := by
  unfold Endpoint.select at h
  split at h
  · cases h
  · rename_i value hvalue
    split at h
    · rename_i found hfound
      cases h
      obtain ⟨name, htext, hname⟩ := Option.bind_eq_some_iff.mp hfound
      exact ⟨value, name, hvalue, htext, hname⟩
    · cases h

theorem Admission.authorized (h : Admission endpoint cipher request prepared) :
    Authorized endpoint request prepared.variant := by
  obtain ⟨ruled, hruled, hmet, -⟩ := h.ruled
  exact ⟨h.base, select_eq_ok h.selected, fun _ _ hvalue => h.supported hvalue, ruled, hruled, hmet⟩

/-- Holds of the errors of policy, datasets and tokens. -/
def PipelineError.precedesCall : PipelineError → Bool
  | policy _ | datasetNotGranted | tokenization _ => true
  | register _ | internal _ => false

/-- A run that got past the checks does not end in an error of policy, datasets or tokens. -/
theorem calls_eq_nil_of_precedesCall {register : RegisterCall → RegisterResult}
    {error : PipelineError} (h : (run endpoint cipher register request).result = .error error)
    (herror : error.precedesCall = true) : (run endpoint cipher register request).calls = [] := by
  have hend := ending_run endpoint cipher register request
  generalize run endpoint cipher register request = r at hend h
  cases hend with
  | refused => rfl
  | failed | untold =>
    cases h
    cases herror
  | answered => cases h

/-- **Authorization precedes the register.**  Whatever the endpoint, the cipher, the request and the
register's behaviour: the register is called at most once, always at the endpoint's address, and
only for an authorized request; a run that ends in an error of policy, datasets or tokens does not
call it. -/
theorem register_called_only_when_authorized (endpoint : Endpoint) (cipher : Cipher)
    (register : RegisterCall → RegisterResult) (request : Request) :
    (run endpoint cipher register request).calls.length ≤ 1 ∧
    (∀ call ∈ (run endpoint cipher register request).calls,
      call.url = endpoint.registerUrl ∧ ∃ variant, Authorized endpoint request variant) ∧
    (∀ error : PipelineError, (run endpoint cipher register request).result = .error error →
      error.precedesCall = true → (run endpoint cipher register request).calls = []) := by
  refine ⟨?_, ?_, fun error => calls_eq_nil_of_precedesCall⟩
  · rw [calls_run]
    split <;> simp
  · intro call hcall
    obtain ⟨prepared, -, rfl, hadmitted⟩ := admission_of_mem_calls hcall
    exact ⟨rfl, prepared.variant, hadmitted.authorized⟩

end RegistryGate.Proxy
