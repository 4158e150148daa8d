/-
  The requirements on record, and the order of their texts.

  A record lists what the request required and what the caller did not meet of it.  Whichever check
  ended the run, the two lists are the texts of one set of requirements and of what is missing of it
  (`listed_run`): a request that was refused before anything was required of it lists the empty set,
  and one that met all requirements lists nothing as missing.

  The texts come in the order of the requirements and not in their own, so a record may list them
  out of order.  `requirement_texts_ascend_iff` gives the condition under which texts ascend, for
  requirement sets, for denials and for what is on record of a run; a single scope that is greater
  than the text of an any-of requirement breaks it (`search_scope_out_of_order`).
-/
import RegistryGate.Proofs.Policy.LabelOrder
import RegistryGate.Proofs.Proxy.Authorization

namespace RegistryGate.Proxy

open Token (Cipher)

/-! ## What a record lists -/

/-- The record lists the texts of requirements, and of those among them that the granted scopes do
not meet. -/
structure AuditRecord.Lists (record : AuditRecord) (required : Requirements) (granted : NameSet) :
    Prop where
  /-- All requirements are listed. -/
  needed : record.needed = required.labels
  /-- Those that are not met are listed as missing. -/
  missing : record.missing = Requirements.labels (required.missing granted)

section

variable {endpoint : Endpoint} {cipher : Cipher} {register : RegisterCall → RegisterResult}
variable {request : Request}

/-- A request that meets its requirements has none of them listed as missing. -/
theorem AuditRecord.lists_of_metBy {record : AuditRecord} {required : Requirements}
    {granted : NameSet} (hneeded : record.needed = required.labels) (hmissing : record.missing = [])
    (hmet : required.MetBy granted) : record.Lists required granted :=
  ⟨hneeded, by rw [hmissing, Requirements.labels_missing_of_metBy hmet]⟩

/-- A fault of the request leaves no record. -/
theorem refusalRecords_of_validation {progress : Progress} {error : PolicyError}
    (h : error.isValidation = true) :
    refusalRecords endpoint request ⟨progress, .policy error⟩ = [] := by
  cases error with
  | permissionDenied => cases h
  | unknownParameter | unsupportedValue | missingParameter => rfl

/-- The records of a refusal list requirements, whichever check it was. -/
theorem listed_refusal {refusal : Refusal}
    (hrefused : prepare endpoint cipher request = .error refusal) :
    ∀ record ∈ refusalRecords endpoint request refusal,
      ∃ required, record.Lists required request.principal.scopes := by
  intro record hrecord
  have hdecided := decided_prepare endpoint cipher request
  rw [hrefused] at hdecided
  -- by the check that refused the request
  cases hdecided with
  | base hcheck =>
    obtain ⟨rfl, -⟩ := Requirements.of_ensureGranted_eq_error hcheck
    obtain rfl := List.mem_singleton.mp hrecord
    exact ⟨endpoint.baseScopes, rfl, rfl⟩
  | permission _ hcheck =>
    obtain ⟨rfl, -⟩ := Requirements.of_ensureGranted_eq_error hcheck
    obtain rfl := List.mem_singleton.mp hrecord
    exact ⟨_, rfl, rfl⟩
  | selection _ hcheck =>
    rw [refusalRecords_of_validation (isValidation_of_select hcheck)] at hrecord
    exact absurd hrecord List.not_mem_nil
  | fault _ _ hcheck =>
    rw [refusalRecords_of_validation (Ruleset.isValidation_of_requiredScopes hcheck)] at hrecord
    exact absurd hrecord List.not_mem_nil
  | dataset =>
    obtain rfl := List.mem_singleton.mp hrecord
    exact ⟨.empty, rfl, rfl⟩
  -- the requirements are met here, and the refusal is about tokens
  | correlation hpermitted | tokens hpermitted =>
    obtain rfl := List.mem_singleton.mp hrecord
    have hmet := Requirements.ensureGranted_eq_ok_iff.mp hpermitted.permitted
    exact ⟨_, AuditRecord.lists_of_metBy rfl rfl hmet⟩

/-- What a request that was let through required is listed, and nothing as missing. -/
theorem listed_prepared {prepared : Prepared} {record : AuditRecord}
    (hprepared : prepare endpoint cipher request = .ok prepared)
    (hneeded : record.needed = prepared.needed) (hmissing : record.missing = []) :
    ∃ required, record.Lists required request.principal.scopes := by
  obtain ⟨ruled, -, hmet, hlabels⟩ := (admission_of_prepare hprepared).ruled
  exact ⟨_, AuditRecord.lists_of_metBy (hneeded.trans hlabels) hmissing hmet⟩

/-- **Every record lists requirements**, and which of them were missing. -/
theorem listed_run (endpoint : Endpoint) (cipher : Cipher)
    (register : RegisterCall → RegisterResult) (request : Request) :
    ∀ record ∈ (run endpoint cipher register request).audit,
      ∃ required, record.Lists required request.principal.scopes := by
  intro record hrecord
  have hend := ending_run endpoint cipher register request
  generalize run endpoint cipher register request = r at hend hrecord
  -- by the way in which the run ended
  cases hend with
  | refused hrefused => exact listed_refusal hrefused record hrecord
  | @failed prepared error hprepared =>
    obtain rfl := List.mem_singleton.mp hrecord
    cases error with
    | status | timeout | transport | invalidResponse => exact listed_prepared hprepared rfl rfl
  | untold => exact absurd hrecord List.not_mem_nil
  | answered hprepared =>
    obtain rfl := List.mem_singleton.mp hrecord
    exact listed_prepared hprepared rfl rfl

end

/-! ## The order of the texts -/

/-- **When requirement texts ascend.**  The texts of a requirement set ascend exactly when no single
scope is greater than the text of an any-of requirement, no any-of requirement overtakes another one
when its names are joined, and no text is greater than that of the unattainable requirement, where
there is one.  The texts in a denial ascend exactly when the requirements, or the missing ones among
them, are such a set, and so do the texts on record of a run. -/
theorem requirement_texts_ascend_iff (needed : Requirements) (granted : NameSet)
    (endpoint : Endpoint) (cipher : Cipher) (register : RegisterCall → RegisterResult)
    (request : Request) :
    (Text.Ascend needed.labels ↔ needed.ReadsInOrder) ∧
    (∀ all missing : List String,
      needed.ensureGranted granted = .error (.permissionDenied all missing) →
        (Text.Ascend all ↔ needed.ReadsInOrder) ∧
        (Text.Ascend missing ↔ Requirements.ReadsInOrder (needed.missing granted))) ∧
    ∀ record ∈ (run endpoint cipher register request).audit,
      ∃ required : Requirements, record.Lists required request.principal.scopes ∧
        (Text.Ascend record.needed ↔ required.ReadsInOrder) ∧
        (Text.Ascend record.missing ↔
          Requirements.ReadsInOrder (required.missing request.principal.scopes)) := by
  refine ⟨Requirements.ascend_labels_iff_readsInOrder,
    fun _ _ => Requirements.ascend_of_ensureGranted, ?_⟩
  intro record hrecord
  obtain ⟨required, hlists⟩ := listed_run endpoint cipher register request record hrecord
  refine ⟨required, hlists, ?_, ?_⟩
  · rw [hlists.needed]
    exact Requirements.ascend_labels_iff_readsInOrder
  · rw [hlists.missing]
    exact Requirements.ascend_labels_iff_readsInOrder

/-! ## A scope and one of two datasets -/

/-- One of two datasets, as a field requires that both of them have. -/
def eitherDataset : Requirement :=
  .anyOfList ["benk-brp-gegevensset-1", "benk-brp-gegevensset-2"]

/-- An endpoint that requires a scope and one of the datasets of every request. -/
def datasetEndpoint (scope : String) : Endpoint :=
  Endpoint.ofService "personen" "https://register.example/personen" "/personen"
    (SortedSet.ofList [.scope scope, eitherDataset])

/-- The texts of what it requires. -/
def datasetTexts (scope : String) : List String :=
  [scope, "benk-brp-gegevensset-1|benk-brp-gegevensset-2"]

/-- A caller without any scope sends a request. -/
def unscopedRequest : Request where
  payload := []
  principal := ⟨"caller", .empty⟩
  correlationId := none
  taskDescription := none
  fullResult := false

/-- The run of that request. -/
def unscopedRun (scope : String) : Run :=
  run (datasetEndpoint scope) ⟨Digest.hmacSha256, []⟩ (fun _ => .error (.timeout "none"))
    unscopedRequest

/-- The scope comes before the datasets, whatever it is called. -/
theorem toList_datasetEndpoint (scope : String) :
    (datasetEndpoint scope).baseScopes.toList = [.scope scope, eitherDataset] := by
  -- the kinds are compared first, so the names do not matter
  have hafter : compare eitherDataset (.scope scope) = .gt :=
    Std.OrientedCmp.gt_of_lt Requirement.compare_scope_anyOf
  show insertAscending eitherDataset [.scope scope] = _
  rw [insertAscending, hafter]
  rfl

theorem labels_datasetEndpoint (scope : String) :
    Requirements.labels (datasetEndpoint scope).baseScopes = datasetTexts scope := by
  rw [Requirements.labels, toList_datasetEndpoint]
  rfl

/-- Everything is missing, and listed in that order. -/
theorem ensureGranted_datasetEndpoint (scope : String) :
    (datasetEndpoint scope).baseScopes.ensureGranted .empty
      = .error (.permissionDenied (datasetTexts scope) (datasetTexts scope)) := by
  have hall : Requirements.missing .empty (datasetEndpoint scope).baseScopes
      = (datasetEndpoint scope).baseScopes := by
    refine SortedSet.ext ?_
    show List.filter _ _ = _
    rw [toList_datasetEndpoint]
    rfl
  have hunmet : ¬ Requirements.MetBy (datasetEndpoint scope).baseScopes .empty := by
    rw [← Requirements.missing_isEmpty_iff, hall, SortedSet.isEmpty, toList_datasetEndpoint]
    exact Bool.false_ne_true
  rw [Requirements.ensureGranted_of_not_metBy hunmet, hall, labels_datasetEndpoint]

/-- The record of the denial. -/
def unscopedRecord (scope : String) : AuditRecord :=
  { draft (datasetEndpoint scope) unscopedRequest ⟨none, []⟩ .denied
      (some (PolicyError.message (.permissionDenied (datasetTexts scope) (datasetTexts scope)))) with
    needed := datasetTexts scope
    missing := datasetTexts scope }

theorem audit_unscopedRun (scope : String) :
    (unscopedRun scope).audit = [unscopedRecord scope] := by
  -- the base scopes are checked before anything else
  have hrefused : prepare (datasetEndpoint scope) ⟨Digest.hmacSha256, []⟩ unscopedRequest
      = .error ⟨⟨none, []⟩,
        .policy (.permissionDenied (datasetTexts scope) (datasetTexts scope))⟩ :=
    prepare_of_base (ensureGranted_datasetEndpoint scope)
  unfold unscopedRun run
  rw [hrefused]
  rfl

/-- The scope of the service comes before the datasets, and so does its text. -/
theorem requirement_texts_ascend_of_service :
    (datasetEndpoint "benk-brp-api").baseScopes.ensureGranted .empty
        = .error (.permissionDenied (datasetTexts "benk-brp-api") (datasetTexts "benk-brp-api")) ∧
      Text.Ascend (datasetTexts "benk-brp-api") ∧
      Requirements.ReadsInOrder (datasetEndpoint "benk-brp-api").baseScopes ∧
      unscopedRecord "benk-brp-api" ∈ (unscopedRun "benk-brp-api").audit ∧
      ∃ required : Requirements, (unscopedRecord "benk-brp-api").Lists required .empty ∧
        required.ReadsInOrder := by
  have hdenied := ensureGranted_datasetEndpoint "benk-brp-api"
  have hascend : Text.Ascend (datasetTexts "benk-brp-api") := by decide
  have hrecord : unscopedRecord "benk-brp-api" ∈ (unscopedRun "benk-brp-api").audit := by
    rw [audit_unscopedRun]
    exact List.mem_singleton.mpr rfl
  obtain ⟨-, hdenial, hrun⟩ := requirement_texts_ascend_iff
    (datasetEndpoint "benk-brp-api").baseScopes .empty (datasetEndpoint "benk-brp-api")
    ⟨Digest.hmacSha256, []⟩ (fun _ => .error (.timeout "none")) unscopedRequest
  obtain ⟨required, hlists, hneeded, -⟩ := hrun _ hrecord
  exact ⟨hdenied, hascend, (hdenial _ _ hdenied).1.mp hascend, hrecord, required, hlists,
    hneeded.mp hascend⟩

/-- The scope of a search comes before the datasets, and its text is greater than theirs. -/
theorem search_scope_out_of_order :
    Requirements.labels (datasetEndpoint "benk-brp-zoekvraag-bsn").baseScopes
        = ["benk-brp-zoekvraag-bsn", "benk-brp-gegevensset-1|benk-brp-gegevensset-2"] ∧
      (datasetEndpoint "benk-brp-zoekvraag-bsn").baseScopes.ensureGranted .empty
        = .error (.permissionDenied (datasetTexts "benk-brp-zoekvraag-bsn")
            (datasetTexts "benk-brp-zoekvraag-bsn")) ∧
      (unscopedRun "benk-brp-zoekvraag-bsn").audit = [unscopedRecord "benk-brp-zoekvraag-bsn"] ∧
      ¬ Text.Ascend (datasetTexts "benk-brp-zoekvraag-bsn") ∧
      ¬ ∀ needed : Requirements, Text.Ascend needed.labels := by
  have hfalls : ¬ Text.Ascend (datasetTexts "benk-brp-zoekvraag-bsn") := by decide
  refine ⟨labels_datasetEndpoint _, ensureGranted_datasetEndpoint _, audit_unscopedRun _, hfalls,
    fun hall => ?_⟩
  exact hfalls (labels_datasetEndpoint "benk-brp-zoekvraag-bsn" ▸ hall _)

end RegistryGate.Proxy
