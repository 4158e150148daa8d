/-
  Who holds no dataset reaches the register only by asking for nothing.

  Two mechanisms keep a caller without datasets away from the register.  Where no fields are sent,
  there are none to fill in, and the request is denied; where fields are sent, each of them requires
  a dataset.  Between the two is the list without items: it is sent, so nothing is filled in, and it
  has no item that could require anything.  A request with it is judged as if it had no fields at
  all, and it is the only one that can get through (`refused_without_dataset_iff`).
-/
import RegistryGate.Proofs.Proxy.FieldAuthorization
import RegistryGate.Proofs.Services.FilledIn
import RegistryGate.Proofs.Services.Municipality

namespace RegistryGate

open Token (Cipher)

namespace Proxy

variable {endpoint : Endpoint} {cipher : Cipher} {register : RegisterCall → RegisterResult}
variable {request : Request} {prepared : Prepared} {variant : Variant}
variable {catalog : FieldCatalog} {allowed : Option FieldList} {shape : ResponseShape}

/-! ## Refused requests -/

/-- The register was not called, and the run ended in a denial or a validation error. -/
def Run.Refused (r : Run) : Prop :=
  r.calls = [] ∧ ∃ error, r.result = .error error ∧
    (error.isDenial = true ∨ error.isValidation = true)

/-- A request is refused unless it is let through. -/
theorem refused_iff : (run endpoint cipher register request).Refused ↔
    ¬ ∃ prepared, prepare endpoint cipher request = .ok prepared := by
  have hend := ending_run endpoint cipher register request
  generalize run endpoint cipher register request = r at hend
  cases hend with
  | refused h =>
    refine iff_of_true ⟨rfl, _, rfl, isDenial_or_isValidation_of_refused h⟩ ?_
    rintro ⟨prepared, hprepared⟩
    cases h.symm.trans hprepared
  | failed h | untold h | answered h =>
    refine iff_of_false ?_ fun hnone => hnone ⟨_, h⟩
    rintro ⟨hcalls, -⟩
    cases hcalls

/-! ## Requests for nothing -/

/-- Apart from its fields, the request is let through. -/
structure AdmittedButForFields (endpoint : Endpoint) (cipher : Cipher) (request : Request)
    (variant : Variant) : Prop where
  /-- The caller meets the requirements on every request. -/
  base : endpoint.baseScopes.MetBy request.principal.scopes
  /-- The ruleset accepts all other parameters, and the caller meets what they require. -/
  ruled : ∃ ruled, variant.ruleset.requiredScopes (Members.erase fieldsParameter
      (variant.augment request.principal.scopes request.payload)) = .ok ruled ∧
    ruled.MetBy request.principal.scopes
  /-- The tokens can be put back. -/
  tokens : ∃ tokenizing resolved,
    tokenizingCorrelation endpoint.tokenization request.principal.scopes request.correlationId
      = .ok tokenizing ∧
    resolveTokens endpoint.tokenization cipher request.principal.scopes tokenizing
      (variant.augment request.principal.scopes request.payload) = .ok resolved

/-- With a list of no fields, nothing but the other parameters decides. -/
theorem exists_prepared_iff_of_no_items (hselected : endpoint.select request.payload = .ok variant)
    (hgoverned : variant.GovernedBy catalog allowed shape)
    (hempty : Members.get? fieldsParameter
      (variant.augment request.principal.scopes request.payload) = some (.array [])) :
    (∃ prepared, prepare endpoint cipher request = .ok prepared) ↔
      AdmittedButForFields endpoint cipher request variant := by
  -- an empty list counts as sent, so nothing is filled in for it
  have hsent : (variant.augment request.principal.scopes request.payload).contains fieldsParameter
      = true := by
    rw [Members.contains, hempty]
    rfl
  obtain ⟨hdataset, hjudged⟩ := resolveFields_of_sent hsent variant request.principal.scopes
  change judgedPayload variant request.principal.scopes request.payload = _ at hjudged
  have hdeclared : (variant.ruleset.get? fieldsParameter).isSome = true := by
    rw [hgoverned.policy]
    rfl
  -- and without elements it has no part in the verdict
  have herased := Ruleset.requiredScopes_erase hdeclared hempty
  rw [exists_prepare_eq_ok_iff]
  constructor
  · rintro ⟨found, ruled, tokenizing, resolved, hpermitted, htokenizing, hresolved⟩
    obtain rfl := Except.ok.inj (hselected.symm.trans hpermitted.selected)
    have hfaultless := hpermitted.faultless
    have hmet := Requirements.ensureGranted_eq_ok_iff.mp hpermitted.permitted
    rw [hjudged] at hfaultless hresolved
    exact
      { base := Requirements.ensureGranted_eq_ok_iff.mp hpermitted.base
        ruled := ⟨ruled, herased.trans hfaultless, (Requirements.metBy_union.mp hmet).2⟩
        tokens := ⟨tokenizing, resolved, htokenizing, hresolved⟩ }
  · rintro ⟨hbase, ⟨ruled, hruled, hmet⟩, tokenizing, resolved, htokenizing, hresolved⟩
    refine ⟨variant, ruled, tokenizing, resolved, ?_, htokenizing, by rw [hjudged]; exact hresolved⟩
    exact
      { base := Requirements.ensureGranted_eq_ok_iff.mpr hbase
        selected := hselected
        dataset := hdataset
        faultless := by rw [hjudged]; exact herased.symm.trans hruled
        permitted := Requirements.ensureGranted_eq_ok_iff.mpr
          (Requirements.metBy_union.mpr ⟨hbase, hmet⟩) }

/-! ## Callers without datasets -/

/-- Who gets through without a dataset has sent no field, in a list without items. -/
theorem Admission.fields_eq_nil (h : Admission endpoint cipher request prepared)
    (hgoverned : prepared.variant.GovernedBy catalog allowed shape)
    (hnone : ∀ dataset ∈ catalog.datasets, ¬ dataset ∈ request.principal.scopes) :
    Members.get? fieldsParameter
      (prepared.variant.augment request.principal.scopes request.payload) = some (.array []) := by
  obtain ⟨value, hvalue, hpermitted⟩ := h.judged_fields hgoverned
  -- an element would be a field that some held dataset grants
  have helements : value.elements = [] := by
    refine List.eq_nil_iff_forall_not_mem.mpr fun element helement => ?_
    obtain ⟨path, -, hpermits⟩ := hpermitted element helement
    obtain ⟨dataset, fields, hgroup, hheld, -⟩ := hpermits.held
    exact hnone dataset (Members.mem_names_of_get? hgroup) hheld
  -- so the fields were not filled in, for then there would be one
  cases hfilled : Members.get? fieldsParameter
      (prepared.variant.augment request.principal.scopes request.payload) with
  | some filled =>
    have hkept := get?_resolveFields_of_some hfilled prepared.variant request.principal.scopes
    obtain rfl := Option.some.inj (hkept.symm.trans hvalue)
    cases filled with
    | array items => exact congrArg (some ∘ Json.array) helements
    | null | bool | number | string | object => cases helements
  | none => exact absurd helements (elements_ne_nil_of_filled hfilled hvalue)

/-- **Who holds no dataset is refused, unless nothing is asked for.**  Take any endpoint and any
variant whose fields a catalog governs, and a caller who holds none of its datasets.  A request for
that variant ends in a denial or a validation error, with no call to the register, except when its
fields are the list without items and everything but its fields would be let through. -/
theorem refused_without_dataset_iff
    (hselected : endpoint.select request.payload = .ok variant)
    (hgoverned : variant.GovernedBy catalog allowed shape)
    (hnone : ∀ dataset ∈ catalog.datasets, ¬ dataset ∈ request.principal.scopes) :
    (run endpoint cipher register request).Refused ↔
      ¬ (Members.get? fieldsParameter
          (variant.augment request.principal.scopes request.payload) = some (.array []) ∧
        AdmittedButForFields endpoint cipher request variant) := by
  rw [refused_iff, not_iff_not]
  constructor
  · rintro ⟨prepared, hprepared⟩
    have hadmitted := admission_of_prepare hprepared
    obtain rfl := hadmitted.variant_eq hselected
    have hempty := hadmitted.fields_eq_nil hgoverned hnone
    exact ⟨hempty, (exists_prepared_iff_of_no_items hselected hgoverned hempty).mp
      ⟨prepared, hprepared⟩⟩
  · rintro ⟨hempty, hbut⟩
    exact (exists_prepared_iff_of_no_items hselected hgoverned hempty).mpr hbut

end Proxy

/-! ## Consulting a person without datasets -/

namespace Services

open Proxy

/-- What the caller below holds: the query, and no dataset. -/
def unheldScopes : NameSet := SortedSet.ofList [scopeBase, scopeSearchBsn]

/-- A person is consulted, with a list of fields. -/
def unheldRequest (fields : List Json) : Request where
  payload := [(fieldBsn, .string "999990019"), ("fields", .array fields),
    ("type", .string "RaadpleegMetBurgerservicenummer")]
  principal := ⟨"caller", unheldScopes⟩
  correlationId := none
  taskDescription := none
  fullResult := false

/-- A run of it at an endpoint. -/
def unheldRun (endpoint : Endpoint) (fields : List Json) : Run :=
  run endpoint ⟨Digest.hmacSha256, []⟩ (fun _ => .ok ⟨200, none, .null⟩) (unheldRequest fields)

/-- What the register is called with, where it is called: the fields that were inserted, and no
others. -/
def unheldCall : RegisterCall where
  url := numberSettings.registerUrl
  payload := .object [(fieldBsn, .string "999990019"),
    ("fields", .array [.string fieldANummer, .string fieldBsn]),
    (parameterGemeente, .string amsterdam), ("type", .string "RaadpleegMetBurgerservicenummer")]

/-- The request selects a variant with fields, and the caller holds none of its datasets. -/
theorem governed_of_unheldRun {fields : List Json} {calls : List RegisterCall}
    (h : (personenEndpoint numberSettings numberCatalog).toOption.map (fun endpoint =>
      ((endpoint.select (unheldRequest fields).payload).toOption.isSome,
        (unheldRun endpoint fields).calls)) = some (true, calls)) :
    ∃ endpoint variant allowed shape, personenEndpoint numberSettings numberCatalog = .ok endpoint ∧
      endpoint.select (unheldRequest fields).payload = .ok variant ∧
      variant.GovernedBy numberCatalog.datasets allowed shape ∧
      (∀ dataset ∈ numberCatalog.datasets.datasets,
        ¬ dataset ∈ (unheldRequest fields).principal.scopes) ∧
      (unheldRun endpoint fields).calls = calls := by
  obtain ⟨endpoint, hendpoint, hpair⟩ := Fallible.exists_of_toOption_map h
  obtain ⟨hsome, hcalls⟩ := Prod.mk.inj hpair
  obtain ⟨variant, hvariant⟩ := Option.isSome_iff_exists.mp hsome
  have hselected := Fallible.eq_ok_of_toOption hvariant
  obtain ⟨q, -, allowed, shape, -, -, hperson⟩ := personVariant_of_select hendpoint hselected
  have hgoverned : variant.GovernedBy numberCatalog.datasets (some allowed) shape := by
    rw [hperson]
    exact ⟨fields_personVariant, get?_ruleset_fields⟩
  have hunheld : ∀ dataset ∈ numberCatalog.datasets.datasets,
      unheldScopes.contains dataset = false := by decide +kernel
  refine ⟨endpoint, variant, some allowed, shape, hendpoint, hselected, hgoverned, ?_, hcalls⟩
  intro dataset hdataset hheld
  have hcontains : unheldScopes.contains dataset = true := SortedSet.contains_iff.mpr hheld
  rw [hunheld dataset hdataset] at hcontains
  cases hcontains

/-- A caller who asks for the number without a dataset is refused. -/
theorem refused_without_dataset_of_number :
    ∃ endpoint, personenEndpoint numberSettings numberCatalog = .ok endpoint ∧
      (unheldRun endpoint [.string fieldBsn]).Refused := by
  obtain ⟨endpoint, variant, allowed, shape, hendpoint, hselected, hgoverned, hnone, -⟩ :=
    @governed_of_unheldRun [.string fieldBsn] [] (by decide +kernel)
  -- the list has an item, so it is not the empty one
  have hsent : Members.get? fieldsParameter (variant.augment
      (unheldRequest [.string fieldBsn]).principal.scopes
      (unheldRequest [.string fieldBsn]).payload) = some (.array [.string fieldBsn]) := by
    rw [Variant.get?_augment]
    rfl
  refine ⟨endpoint, hendpoint, (refused_without_dataset_iff hselected hgoverned hnone).mpr ?_⟩
  rintro ⟨hempty, -⟩
  cases hsent.symm.trans hempty

/-- A caller who asks for nothing is not: the register is asked for the person's two numbers. -/
theorem empty_fields_reach_register :
    ∃ endpoint variant allowed shape, personenEndpoint numberSettings numberCatalog = .ok endpoint ∧
      endpoint.select (unheldRequest []).payload = .ok variant ∧
      variant.GovernedBy numberCatalog.datasets allowed shape ∧
      (∀ dataset ∈ numberCatalog.datasets.datasets,
        ¬ dataset ∈ (unheldRequest []).principal.scopes) ∧
      (unheldRun endpoint []).calls = [unheldCall] ∧ ¬ (unheldRun endpoint []).Refused := by
  obtain ⟨endpoint, variant, allowed, shape, hendpoint, hselected, hgoverned, hnone, hcalls⟩ :=
    @governed_of_unheldRun [] [unheldCall] (by decide +kernel)
  refine ⟨endpoint, variant, allowed, shape, hendpoint, hselected, hgoverned, hnone, hcalls, ?_⟩
  rintro ⟨hnil, -⟩
  rw [hcalls] at hnil
  cases hnil

end Services

end RegistryGate
