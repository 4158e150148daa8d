/-
  The ways in which a run can end.

  Before the register is called a request passes a row of checks, and each of them may be the last.
  `Decided` says which one decided, together with all that was established before it; `Selected`,
  `Judged` and `Permitted` collect that, each on top of the one before.  After the checks the
  register fails, or its answer cannot be turned into the caller's, or the caller is answered
  (`Ending`).

  The two are the inversions of `prepare` and `run` (`decided_prepare`, `ending_run`): the functions
  are taken apart here, and statements about every run are case analyses over the constructors.
-/
import RegistryGate.Proofs.Policy.Evaluation
import RegistryGate.Proofs.Proxy.Shaping

namespace RegistryGate.Proxy

open Token (Cipher TokenError)

/-! ## The checks before the call -/

/-- The caller holds what every request requires, and the request names a variant. -/
structure Selected (endpoint : Endpoint) (request : Request) (variant : Variant) : Prop where
  /-- Nothing is missing of the endpoint's own requirements. -/
  base : endpoint.baseScopes.ensureGranted request.principal.scopes = .ok ()
  /-- The variant is the one that the discriminator names. -/
  selected : endpoint.select request.payload = .ok variant

/-- Moreover the request was filled in, and the ruleset knows what it requires. -/
structure Judged (endpoint : Endpoint) (request : Request) (variant : Variant)
    (ruled : Requirements) : Prop extends Selected endpoint request variant where
  /-- The caller holds a dataset, where default fields are needed. -/
  dataset : (resolveFields variant request.principal.scopes
    (variant.augment request.principal.scopes request.payload)).1 ≠ .noDataset
  /-- The ruleset finds no fault. -/
  faultless : variant.ruleset.requiredScopes
    (judgedPayload variant request.principal.scopes request.payload) = .ok ruled

/-- Moreover the caller holds everything that is required. -/
structure Permitted (endpoint : Endpoint) (request : Request) (variant : Variant)
    (ruled : Requirements) : Prop extends Judged endpoint request variant ruled where
  /-- Nothing is missing of all requirements together. -/
  permitted : Requirements.ensureGranted (endpoint.baseScopes.union ruled)
    request.principal.scopes = .ok ()

/-- What is known for the audit record once the requirements are known. -/
def progressOf (endpoint : Endpoint) (variant : Variant) (ruled : Requirements) : Progress :=
  ⟨some variant.name, Requirements.labels (endpoint.baseScopes.union ruled)⟩

/-- What is decided about a request, by the check that decided it. -/
inductive Decided (endpoint : Endpoint) (cipher : Cipher) (request : Request) :
    Except Refusal Prepared → Prop where
  /-- A requirement on every request is not met. -/
  | base {error : PolicyError}
      (h : endpoint.baseScopes.ensureGranted request.principal.scopes = .error error) :
      Decided endpoint cipher request (.error ⟨⟨none, []⟩, .policy error⟩)
  /-- No variant is selected. -/
  | selection {error : PolicyError}
      (hbase : endpoint.baseScopes.ensureGranted request.principal.scopes = .ok ())
      (h : endpoint.select request.payload = .error error) :
      Decided endpoint cipher request (.error ⟨⟨none, []⟩, .policy error⟩)
  /-- The caller holds no dataset. -/
  | dataset {variant : Variant} (hselected : Selected endpoint request variant)
      (h : (resolveFields variant request.principal.scopes
        (variant.augment request.principal.scopes request.payload)).1 = .noDataset) :
      Decided endpoint cipher request (.error ⟨⟨some variant.name, []⟩, .datasetNotGranted⟩)
  /-- The ruleset finds a fault. -/
  | fault {variant : Variant} {error : PolicyError}
      (hselected : Selected endpoint request variant)
      (hdataset : (resolveFields variant request.principal.scopes
        (variant.augment request.principal.scopes request.payload)).1 ≠ .noDataset)
      (h : variant.ruleset.requiredScopes
        (judgedPayload variant request.principal.scopes request.payload) = .error error) :
      Decided endpoint cipher request (.error ⟨⟨some variant.name, []⟩, .policy error⟩)
  /-- A requirement of the ruleset is not met. -/
  | permission {variant : Variant} {ruled : Requirements} {error : PolicyError}
      (hjudged : Judged endpoint request variant ruled)
      (h : Requirements.ensureGranted (endpoint.baseScopes.union ruled) request.principal.scopes
        = .error error) :
      Decided endpoint cipher request
        (.error ⟨progressOf endpoint variant ruled, .policy error⟩)
  /-- A caller who gets tokens has sent no correlation id. -/
  | correlation {variant : Variant} {ruled : Requirements} {denial : TokenDenial}
      (hpermitted : Permitted endpoint request variant ruled)
      (h : tokenizingCorrelation endpoint.tokenization request.principal.scopes
        request.correlationId = .error denial) :
      Decided endpoint cipher request
        (.error ⟨progressOf endpoint variant ruled, .tokenization denial⟩)
  /-- A token cannot be put back. -/
  | tokens {variant : Variant} {ruled : Requirements} {tokenizing : Option String}
      {denial : TokenDenial} (hpermitted : Permitted endpoint request variant ruled)
      (htokenizing : tokenizingCorrelation endpoint.tokenization request.principal.scopes
        request.correlationId = .ok tokenizing)
      (h : resolveTokens endpoint.tokenization cipher request.principal.scopes tokenizing
        (judgedPayload variant request.principal.scopes request.payload) = .error denial) :
      Decided endpoint cipher request
        (.error ⟨progressOf endpoint variant ruled, .tokenization denial⟩)
  /-- The request may be forwarded. -/
  | admitted {variant : Variant} {ruled : Requirements} {tokenizing : Option String}
      {resolved : Payload} (hpermitted : Permitted endpoint request variant ruled)
      (htokenizing : tokenizingCorrelation endpoint.tokenization request.principal.scopes
        request.correlationId = .ok tokenizing)
      (hresolved : resolveTokens endpoint.tokenization cipher request.principal.scopes tokenizing
        (judgedPayload variant request.principal.scopes request.payload) = .ok resolved) :
      Decided endpoint cipher request
        (.ok ⟨variant, Requirements.labels (endpoint.baseScopes.union ruled),
          requestedFields (judgedPayload variant request.principal.scopes request.payload),
          (insertIdentifiers variant resolved).1, tokenizing,
          (insertIdentifiers variant resolved).2⟩)

/-- Inversion of `prepare`: every request is decided by one of its checks. -/
theorem decided_prepare (endpoint : Endpoint) (cipher : Cipher) (request : Request) :
    Decided endpoint cipher request (prepare endpoint cipher request) := by
  -- the checks are peeled off in their order; a failed one is a constructor
  unfold prepare
  dsimp only
  cases hbase : endpoint.baseScopes.ensureGranted request.principal.scopes with
  | error error => exact .base hbase
  | ok =>
  -- from here on each check that is passed is kept as a fact about the request
  cases hselected : endpoint.select request.payload with
  | error error => exact .selection hbase hselected
  | ok variant =>
  have hsel : Selected endpoint request variant := ⟨hbase, hselected⟩
  dsimp only
  split
  · rename_i payload hresolved
    exact .dataset hsel (congrArg Prod.fst hresolved)
  · rename_i resolution payload hne hresolved
    have hdataset : (resolveFields variant request.principal.scopes
        (variant.augment request.principal.scopes request.payload)).1 ≠ .noDataset := by
      rw [hresolved]
      exact hne
    obtain rfl : judgedPayload variant request.principal.scopes request.payload = payload :=
      congrArg Prod.snd hresolved
    cases hruled : variant.ruleset.requiredScopes
        (judgedPayload variant request.principal.scopes request.payload) with
    | error error => exact .fault hsel hdataset hruled
    | ok ruled =>
    have hjudged : Judged endpoint request variant ruled := ⟨hsel, hdataset, hruled⟩
    dsimp only
    cases hmet : Requirements.ensureGranted (endpoint.baseScopes.union ruled)
        request.principal.scopes with
    | error error => exact .permission hjudged hmet
    | ok =>
    have hpermitted : Permitted endpoint request variant ruled := ⟨hjudged, hmet⟩
    dsimp only
    cases htokenizing : tokenizingCorrelation endpoint.tokenization request.principal.scopes
        request.correlationId with
    | error denial => exact .correlation hpermitted htokenizing
    | ok tokenizing =>
    dsimp only
    cases hresolved' : resolveTokens endpoint.tokenization cipher request.principal.scopes
        tokenizing (judgedPayload variant request.principal.scopes request.payload) with
    | error denial => exact .tokens hpermitted htokenizing hresolved'
    | ok resolved => exact .admitted hpermitted htokenizing hresolved'

/-- Whoever misses what every request requires is refused before anything else is looked at. -/
theorem prepare_of_base {endpoint : Endpoint} {cipher : Cipher} {request : Request}
    {error : PolicyError}
    (h : endpoint.baseScopes.ensureGranted request.principal.scopes = .error error) :
    prepare endpoint cipher request = .error ⟨⟨none, []⟩, .policy error⟩ := by
  unfold prepare
  dsimp only
  rw [h]

/-- A request is let through when it passes all checks, and its tokens can be put back. -/
theorem exists_prepare_eq_ok_iff {endpoint : Endpoint} {cipher : Cipher} {request : Request} :
    (∃ prepared, prepare endpoint cipher request = .ok prepared) ↔
      ∃ variant ruled tokenizing resolved, Permitted endpoint request variant ruled ∧
        tokenizingCorrelation endpoint.tokenization request.principal.scopes request.correlationId
          = .ok tokenizing ∧
        resolveTokens endpoint.tokenization cipher request.principal.scopes tokenizing
          (judgedPayload variant request.principal.scopes request.payload) = .ok resolved := by
  have hdecided := decided_prepare endpoint cipher request
  constructor
  · rintro ⟨prepared, hprepared⟩
    rw [hprepared] at hdecided
    cases hdecided with
    | admitted hpermitted htokenizing hresolved =>
      exact ⟨_, _, _, _, hpermitted, htokenizing, hresolved⟩
  · rintro ⟨variant, ruled, tokenizing, resolved, hpermitted, htokenizing, hresolved⟩
    generalize prepare endpoint cipher request = decision at hdecided ⊢
    -- a constructor other than the last needs a check that fails, and it was passed
    cases hdecided with
    | base h => cases hpermitted.base.symm.trans h
    | selection _ h => cases hpermitted.selected.symm.trans h
    | dataset hselected h =>
      obtain rfl := Except.ok.inj (hpermitted.selected.symm.trans hselected.selected)
      exact absurd h hpermitted.dataset
    | fault hselected _ h =>
      obtain rfl := Except.ok.inj (hpermitted.selected.symm.trans hselected.selected)
      cases hpermitted.faultless.symm.trans h
    | permission hjudged h =>
      obtain rfl := Except.ok.inj (hpermitted.selected.symm.trans hjudged.selected)
      obtain rfl := Except.ok.inj (hpermitted.faultless.symm.trans hjudged.faultless)
      cases hpermitted.permitted.symm.trans h
    | correlation _ h => cases htokenizing.symm.trans h
    | tokens hother htokens h =>
      obtain rfl := Except.ok.inj (hpermitted.selected.symm.trans hother.selected)
      obtain rfl := Except.ok.inj (htokenizing.symm.trans htokens)
      cases hresolved.symm.trans h
    | admitted => exact ⟨_, rfl⟩

/-! ## Refusals -/

/-- Holds of the errors that find fault with the request itself, whoever sends it. -/
def PipelineError.isValidation : PipelineError → Bool
  | policy error => error.isValidation
  | datasetNotGranted | tokenization _ | register _ | internal _ => false

/-- Where no variant is selected, the request is at fault. -/
theorem isValidation_of_select {endpoint : Endpoint} {payload : Payload} {error : PolicyError}
    (h : endpoint.select payload = .error error) : error.isValidation = true := by
  unfold Endpoint.select at h
  split at h
  · cases h
    rfl
  · split at h
    · cases h
    · cases h
      rfl

section

variable {endpoint : Endpoint} {cipher : Cipher} {request : Request} {refusal : Refusal}

/-- A refused request is denied or at fault. -/
theorem isDenial_or_isValidation_of_refused
    (hrefused : prepare endpoint cipher request = .error refusal) :
    refusal.error.isDenial = true ∨ refusal.error.isValidation = true := by
  have hdecided := decided_prepare endpoint cipher request
  rw [hrefused] at hdecided
  cases hdecided with
  | base hcheck | permission _ hcheck =>
    obtain ⟨rfl, -⟩ := Requirements.of_ensureGranted_eq_error hcheck
    exact Or.inl rfl
  | dataset | correlation | tokens => exact Or.inl rfl
  | selection _ hcheck => exact Or.inr (isValidation_of_select hcheck)
  | fault _ _ hcheck => exact Or.inr (Ruleset.isValidation_of_requiredScopes hcheck)

/-- Who is denied a permission misses something. -/
theorem missing_ne_nil_of_refused {needed missing : List String}
    (hrefused : prepare endpoint cipher request = .error refusal)
    (herror : refusal.error = .policy (.permissionDenied needed missing)) : missing ≠ [] := by
  have hdecided := decided_prepare endpoint cipher request
  rw [hrefused] at hdecided
  cases hdecided with
  | base hcheck | permission _ hcheck =>
    obtain ⟨rfl, hmissing⟩ := Requirements.of_ensureGranted_eq_error hcheck
    cases herror
    exact hmissing
  | selection _ hcheck =>
    cases herror
    cases isValidation_of_select hcheck
  | fault _ _ hcheck =>
    cases herror
    cases Ruleset.isValidation_of_requiredScopes hcheck
  | dataset | correlation | tokens => cases herror

end

/-! ## Whole runs -/

/-- How a run ends, with everything that can be observed of it. -/
inductive Ending (endpoint : Endpoint) (cipher : Cipher)
    (register : RegisterCall → RegisterResult) (request : Request) : Run → Prop where
  /-- The request was refused, and the register not called. -/
  | refused {refusal : Refusal} (h : prepare endpoint cipher request = .error refusal) :
      Ending endpoint cipher register request
        ⟨.error refusal.error, [], refusalRecords endpoint request refusal⟩
  /-- The register failed. -/
  | failed {prepared : Prepared} {error : RegisterError}
      (h : prepare endpoint cipher request = .ok prepared)
      (hregister : register ⟨endpoint.registerUrl, .object prepared.payload⟩ = .error error) :
      Ending endpoint cipher register request
        ⟨.error (.register error), [⟨endpoint.registerUrl, .object prepared.payload⟩],
          [failureRecord endpoint request prepared error]⟩
  /-- The register's answer cannot be turned into the caller's. -/
  | untold {prepared : Prepared} {answer : RegisterResponse} {error : TokenError}
      (h : prepare endpoint cipher request = .ok prepared)
      (hregister : register ⟨endpoint.registerUrl, .object prepared.payload⟩ = .ok answer)
      (htransform : transform endpoint cipher request prepared answer.body = .error error) :
      Ending endpoint cipher register request
        ⟨.error (.internal error), [⟨endpoint.registerUrl, .object prepared.payload⟩], []⟩
  /-- The caller was answered. -/
  | answered {prepared : Prepared} {answer : RegisterResponse} {body : Json}
      (h : prepare endpoint cipher request = .ok prepared)
      (hregister : register ⟨endpoint.registerUrl, .object prepared.payload⟩ = .ok answer)
      (htransform : transform endpoint cipher request prepared answer.body = .ok body) :
      Ending endpoint cipher register request
        ⟨.ok ⟨answer.status, answer.contentType, body⟩,
          [⟨endpoint.registerUrl, .object prepared.payload⟩],
          [answerRecord endpoint request prepared answer]⟩

/-- Inversion of `run`: every run has one of these ends. -/
theorem ending_run (endpoint : Endpoint) (cipher : Cipher)
    (register : RegisterCall → RegisterResult) (request : Request) :
    Ending endpoint cipher register request (run endpoint cipher register request) := by
  -- the three steps of a run, each with its own end where it fails
  unfold run
  cases hprepared : prepare endpoint cipher request with
  | error refusal => exact .refused hprepared
  | ok prepared =>
    dsimp only
    cases hregister : register ⟨endpoint.registerUrl, .object prepared.payload⟩ with
    | error error => exact .failed hprepared hregister
    | ok answer =>
      dsimp only
      cases htransform : transform endpoint cipher request prepared answer.body with
      | error error => exact .untold hprepared hregister htransform
      | ok body => exact .answered hprepared hregister htransform

end RegistryGate.Proxy
