/-
  Validation errors do not depend on what the caller holds.

  A validation error finds fault with the request, so whoever sends the same payload should get the
  same one.  Between the payload and its judgement stands what is filled in, which does depend on
  the caller; but it is admitted by the ruleset, and an admitted parameter is the cause of no fault.
  So the error is a function of the endpoint and the payload alone (`validationError?_run`), and two
  callers who meet the requirements on every request get the same one.

  Default fields are set apart.  A caller without datasets is denied where they are needed, before
  the ruleset is asked; where fields are sent or the variant has none, they are not needed.
-/
import RegistryGate.Proofs.Services.Municipality
import RegistryGate.Proofs.Services.Queries

namespace RegistryGate

open Token (Cipher)

namespace Proxy

variable {endpoint : Endpoint} {cipher : Cipher} {register : RegisterCall → RegisterResult}
variable {request : Request} {variant : Variant} {payload : Payload}

/-! ## The fault of a payload -/

/-- The fault that is found with a request, when its run ends with one. -/
def Run.validationError? (r : Run) : Option PolicyError :=
  match r.result with
  | .error (.policy error) => if error.isValidation then some error else none
  | _ => none

/-- The fault of a payload as it was sent: it selects no variant, or the ruleset of the variant does
not accept it. -/
def payloadFault? (endpoint : Endpoint) (payload : Payload) : Option PolicyError :=
  match endpoint.select payload with
  | .error error => some error
  | .ok variant =>
    match variant.ruleset.requiredScopes payload with
    | .error error => some error
    | .ok _ => none

/-! ## Where no default fields are needed -/

/-- The payload has fields, or selects a variant without them. -/
def NeedsNoDefaults (endpoint : Endpoint) (payload : Payload) : Prop :=
  payload.contains fieldsParameter = true ∨
    ∃ variant, endpoint.select payload = .ok variant ∧ variant.fields = none

/-- Nothing but the augmentations is filled in then, whatever datasets the caller holds. -/
theorem NeedsNoDefaults.resolveFields (h : NeedsNoDefaults endpoint payload)
    (hselected : endpoint.select payload = .ok variant) (granted : NameSet) :
    (resolveFields variant granted (variant.augment granted payload)).1 ≠ .noDataset ∧
      judgedPayload variant granted payload = variant.augment granted payload := by
  rcases h with hsent | ⟨found, hfound, hnone⟩
  · obtain ⟨value, hvalue⟩ := Option.isSome_iff_exists.mp hsent
    have hkept : (variant.augment granted payload).contains fieldsParameter = true := by
      rw [Members.contains, Variant.get?_augment, hvalue]
      rfl
    exact resolveFields_of_sent hkept variant granted
  · obtain rfl := Except.ok.inj (hselected.symm.trans hfound)
    unfold judgedPayload Proxy.resolveFields
    rw [hnone]
    exact ⟨fun h => (by cases h), rfl⟩

/-- What is admitted by the ruleset is the cause of no fault. -/
theorem NeedsNoDefaults.fault_iff (h : NeedsNoDefaults endpoint payload)
    (hselected : endpoint.select payload = .ok variant) {granted : NameSet}
    (hadmits : ∀ a ∈ variant.augmentations, ∀ value, a.valueFor? granted = some value →
      variant.ruleset.Admits granted a.parameter value) (error : PolicyError) :
    variant.ruleset.requiredScopes (judgedPayload variant granted payload) = .error error ↔
      variant.ruleset.requiredScopes payload = .error error := by
  rw [(h.resolveFields hselected granted).2]
  exact (Fallible.of_map_eq_map (Variant.missing_augment hadmits payload)).1 error

/-! ## The error of a run -/

/-- A run has the validation error that was decided before the call, if any. -/
theorem validationError?_run_eq :
    (run endpoint cipher register request).validationError?
      = match prepare endpoint cipher request with
        | .error ⟨_, .policy error⟩ => if error.isValidation then some error else none
        | _ => none := by
  have hend := ending_run endpoint cipher register request
  generalize run endpoint cipher register request = r at hend
  cases hend with
  | @refused refusal h =>
    rw [h]
    obtain ⟨progress, error⟩ := refusal
    cases error <;> rfl
  | failed h | untold h | answered h =>
    rw [h]
    rfl

/-- **A validation error is that of the payload**, where the ruleset admits what is filled in and no
default fields are needed. -/
theorem validationError?_run (hbase : endpoint.baseScopes.MetBy request.principal.scopes)
    (hfields : NeedsNoDefaults endpoint request.payload)
    (hadmits : ∀ variant, endpoint.select request.payload = .ok variant →
      ∀ a ∈ variant.augmentations, ∀ value, a.valueFor? request.principal.scopes = some value →
        variant.ruleset.Admits request.principal.scopes a.parameter value) :
    (run endpoint cipher register request).validationError?
      = payloadFault? endpoint request.payload := by
  -- a payload without a fault gets past the ruleset, and what follows are no validation errors
  have hfaultless : ∀ {variant ruled}, Judged endpoint request variant ruled →
      payloadFault? endpoint request.payload = none := by
    intro variant ruled hjudged
    rw [payloadFault?, hjudged.selected]
    dsimp only
    split
    · rename_i error herror
      have hfault := (hfields.fault_iff hjudged.selected
        (hadmits variant hjudged.selected) error).mpr herror
      rw [hjudged.faultless] at hfault
      cases hfault
    · rfl
  rw [validationError?_run_eq]
  have hdecided := decided_prepare endpoint cipher request
  generalize prepare endpoint cipher request = decision at hdecided
  -- by the check that decided
  cases hdecided with
  | base h =>
    rw [Requirements.ensureGranted_eq_ok_iff.mpr hbase] at h
    cases h
  | selection hpassed h =>
    rw [payloadFault?, h]
    exact if_pos (isValidation_of_select h)
  | dataset hselected h =>
    exact absurd h (hfields.resolveFields hselected.selected _).1
  | @fault variant error hselected hdataset h =>
    rw [payloadFault?, hselected.selected]
    dsimp only
    rw [(hfields.fault_iff hselected.selected (hadmits variant hselected.selected) error).mp h]
    exact if_pos (Ruleset.isValidation_of_requiredScopes h)
  -- a denial is no validation error, and a payload that got so far has none
  | permission hjudged h =>
    rw [hfaultless hjudged]
    obtain ⟨rfl, -⟩ := Requirements.of_ensureGranted_eq_error h
    rfl
  | correlation hpermitted | tokens hpermitted | admitted hpermitted =>
    rw [hfaultless hpermitted.toJudged]

end Proxy

/-! ## The four services -/

namespace Services

open Proxy

/-- **Validation errors do not depend on the caller.**  Two callers send the same payload to one of
the four services, and both meet the requirements on every request.  If the payload has fields, or
selects a variant without them, then the run of one ends in a validation error exactly when that of
the other does, with the same parameter and the same values: no matter what else the two hold, under
which keys the gateway runs and how the register behaves. -/
theorem validation_errors_independent {endpoint : Endpoint} {cipher cipher' : Cipher}
    {register register' : RegisterCall → RegisterResult} {first second : Request}
    (hbuilt : BuiltIn endpoint) (hsame : first.payload = second.payload)
    (hfields : first.payload.contains fieldsParameter = true ∨
      ∃ variant, endpoint.select first.payload = .ok variant ∧ variant.fields = none)
    (hfirst : endpoint.baseScopes.MetBy first.principal.scopes)
    (hsecond : endpoint.baseScopes.MetBy second.principal.scopes) :
    (run endpoint cipher register first).validationError?
      = (run endpoint cipher' register' second).validationError? := by
  -- whatever the caller, what is filled in is admitted
  have hadmits : ∀ (request : Request) (variant : Variant),
      endpoint.select request.payload = .ok variant →
      ∀ a ∈ variant.augmentations, ∀ value, a.valueFor? request.principal.scopes = some value →
        variant.ruleset.Admits request.principal.scopes a.parameter value := by
    intro request variant hselected
    obtain ⟨scope, hkind⟩ := queryKind_of_select hbuilt hselected
    exact hkind.admits_augmentations request.principal.scopes
  have hfields' : NeedsNoDefaults endpoint second.payload := hsame ▸ hfields
  calc (run endpoint cipher register first).validationError?
      = payloadFault? endpoint first.payload :=
        validationError?_run hfirst hfields (hadmits first)
    _ = payloadFault? endpoint second.payload := by rw [hsame]
    _ = (run endpoint cipher' register' second).validationError? :=
        (validationError?_run hsecond hfields' (hadmits second)).symm

/-! ## A search by two callers -/

/-- A search with two values for the flag on deceased persons, of which one is unknown. -/
def flagPayload : Payload :=
  [("fields", .array [.string fieldBsn]), ("geslachtsnaam", .string "Jansen"),
    (parameterIncludeDeceased, .array [.string "true", .string "sometimes"]),
    ("type", .string "ZoekMetGeslachtsnaamEnGeboortedatum")]

/-- The search, as a caller with some scopes sends it. -/
def flagRequest (scopes : List String) : Request where
  payload := flagPayload
  principal := ⟨"caller", SortedSet.ofList scopes⟩
  correlationId := none
  taskDescription := none
  fullResult := false

/-- A run of it at an endpoint. -/
def flagRun (endpoint : Endpoint) (scopes : List String) : Run :=
  run endpoint ⟨Digest.hmacSha256, []⟩ (fun _ => .ok ⟨200, none, .null⟩) (flagRequest scopes)

/-- A caller with the base scope alone has the municipality filled in; one with the nationwide scope
has not.  Both are told of the same value. -/
theorem validation_errors_independent_of_nationwide :
    ∃ endpoint variant, personenEndpoint numberSettings numberCatalog = .ok endpoint ∧
      endpoint.select flagPayload = .ok variant ∧
      Members.get? parameterGemeente
        (variant.augment (SortedSet.ofList [scopeBase]) flagPayload) = some (.string amsterdam) ∧
      Members.get? parameterGemeente
        (variant.augment (SortedSet.ofList [scopeBase, scopeNationwide]) flagPayload) = none ∧
      (flagRun endpoint [scopeBase]).validationError?
        = some (.unsupportedValue parameterIncludeDeceased ["sometimes"]) ∧
      (flagRun endpoint [scopeBase, scopeNationwide]).validationError?
        = some (.unsupportedValue parameterIncludeDeceased ["sometimes"]) := by
  have hevaluated : (personenEndpoint numberSettings numberCatalog).toOption.bind (fun endpoint =>
      (endpoint.select flagPayload).toOption.map fun variant =>
        (Members.get? parameterGemeente
            (variant.augment (SortedSet.ofList [scopeBase]) flagPayload),
          Members.get? parameterGemeente
            (variant.augment (SortedSet.ofList [scopeBase, scopeNationwide]) flagPayload),
          (flagRun endpoint [scopeBase]).validationError?))
      = some (some (.string amsterdam), none,
          some (.unsupportedValue parameterIncludeDeceased ["sometimes"])) := by decide +kernel
  obtain ⟨endpoint, hoption, hrest⟩ := Option.bind_eq_some_iff.mp hevaluated
  have hendpoint := Fallible.eq_ok_of_toOption hoption
  obtain ⟨variant, hselected, hsummary⟩ := Fallible.exists_of_toOption_map hrest
  obtain ⟨hfilled, hpair⟩ := Prod.mk.inj hsummary
  obtain ⟨hlifted, herror⟩ := Prod.mk.inj hpair
  have hbuilt : BuiltIn endpoint := .persons hendpoint
  have hbase : ∀ scopes, scopeBase ∈ SortedSet.ofList scopes →
      endpoint.baseScopes.MetBy (flagRequest scopes).principal.scopes := by
    intro scopes hheld
    rw [hbuilt.baseScopes]
    exact Requirements.metBy_singleton.mpr (SortedSet.contains_iff.mpr hheld)
  have hsame : (flagRun endpoint [scopeBase]).validationError?
      = (flagRun endpoint [scopeBase, scopeNationwide]).validationError? :=
    validation_errors_independent hbuilt rfl (Or.inl rfl)
      (hbase _ (SortedSet.mem_ofList.mpr List.mem_cons_self))
      (hbase _ (SortedSet.mem_ofList.mpr List.mem_cons_self))
  exact ⟨endpoint, variant, hendpoint, hselected, hfilled, hlifted, herror,
    hsame.symm.trans herror⟩

end Services

end RegistryGate
