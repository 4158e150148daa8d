/-
  Field authorization, from the catalog to what is forwarded.

  A variant whose `fields` parameter is governed by a catalog (`Variant.GovernedBy`, established by
  `withFields`) has the requested fields judged by the catalog's policy, be they the caller's or
  filled in as defaults: both stand in the judged payload.  Between the judgement and the call the
  list is only extended by identifying fields, so every other field that reaches the register is one
  that the caller may have (`forwarded_fields_permitted`).
-/
import RegistryGate.Proofs.Field.Coverage
import RegistryGate.Proofs.Proxy.Authorization

namespace RegistryGate

/-- The fields of a variant are those of a catalog, and its `fields` parameter has the policy that
follows from the catalog. -/
structure Variant.GovernedBy (v : Variant) (catalog : FieldCatalog) (allowed : Option FieldList)
    (shape : ResponseShape) : Prop where
  /-- The fields are the catalog's, as far as they are allowed. -/
  fields : v.fields = some ⟨catalog, allowed⟩
  /-- The policy on the parameter is the catalog's. -/
  policy : v.ruleset.get? fieldsParameter = some (catalog.fieldPolicy shape.knownPaths allowed)

theorem Variant.governedBy_withFields (v : Variant) (catalog : FieldCatalog)
    (allowed : Option FieldList) (shape : ResponseShape) :
    (v.withFields catalog allowed shape).GovernedBy catalog allowed shape where
  fields := rfl
  policy := by
    show (v.ruleset.insert fieldsParameter _).get? fieldsParameter = _
    rw [Ruleset.get?_insert, if_pos rfl]

namespace Proxy

open Token (Cipher)

variable {endpoint : Endpoint} {cipher : Cipher} {request : Request} {prepared : Prepared}
variable {catalog : FieldCatalog} {allowed : Option FieldList} {shape : ResponseShape}

/-! ## The judged fields -/

/-- A variant with fields has its `fields` parameter judged, and each element of it is the text of a
field that the caller may have. -/
theorem Admission.judged_fields (h : Admission endpoint cipher request prepared)
    (hgoverned : prepared.variant.GovernedBy catalog allowed shape) :
    ∃ value, Members.get? fieldsParameter
        (judgedPayload prepared.variant request.principal.scopes request.payload) = some value ∧
      ∀ element ∈ value.elements, ∃ path, element.scalarText? = some path ∧
        catalog.Permits allowed request.principal.scopes path := by
  have hsome : prepared.variant.fields.isSome = true := by
    rw [hgoverned.fields]
    rfl
  -- the parameter is there because default fields were filled in where it was not
  obtain ⟨value, hvalue⟩ := exists_fields_resolveFields hsome h.dataset
  refine ⟨value, hvalue, fun element helement => ?_⟩
  obtain ⟨policy, hpolicy, helements⟩ := h.supported hvalue
  obtain ⟨needed, hneeded, hmet⟩ := helements element helement
  obtain ⟨path, htext, hresolved⟩ := ParameterPolicy.requirementsOn?_eq_some hneeded
  rw [hgoverned.policy] at hpolicy
  obtain rfl := Option.some.inj hpolicy
  exact ⟨path, htext, FieldCatalog.fieldPolicy_sound hresolved hmet⟩

/-! ## The forwarded fields -/

/-- Adding identifying fields brings no other element into the `fields` parameter. -/
theorem mem_elements_insertIdentifiers {variant : Variant} {payload : Payload} {value : Json}
    (hvalue : Members.get? fieldsParameter payload = some value) :
    ∃ forwarded, Members.get? fieldsParameter (insertIdentifiers variant payload).2
        = some forwarded ∧
      ∀ element ∈ forwarded.elements, element ∈ value.elements ∨
        ∃ field ∈ (insertIdentifiers variant payload).1, element = .string field := by
  rw [insertIdentifiers_eq]
  dsimp only
  by_cases hnone : identifiersToInsert variant payload = []
  · rw [if_pos hnone]
    exact ⟨value, hvalue, fun element helement => Or.inl helement⟩
  · rw [if_neg hnone]
    refine ⟨_, Members.get?_insert_self .., fun element helement => ?_⟩
    obtain ⟨field, hfield, rfl⟩ := List.mem_map.mp helement
    rcases List.mem_append.mp hfield with hrequested | hinserted
    · obtain ⟨value', hvalue', hmem⟩ := mem_requestedFields.mp hrequested
      rw [hvalue] at hvalue'
      obtain rfl := Option.some.inj hvalue'
      exact Or.inl hmem
    · exact Or.inr ⟨field, hinserted, rfl⟩

/-- **Field authorization is sound.**  Whenever the register is called for a variant that a catalog
governs, the forwarded request has a `fields` parameter, and each of its elements is one of the
inserted identifying fields or the text of a field that the caller may have: an entry of a held
dataset covers it, and so does the allowed list. -/
theorem forwarded_fields_permitted {register : RegisterCall → RegisterResult} {call : RegisterCall}
    {variant : Variant}
    (hcall : call ∈ (run endpoint cipher register request).calls)
    (hselected : endpoint.select request.payload = .ok variant)
    (hgoverned : variant.GovernedBy catalog allowed shape)
    (htokens : ∀ rule, endpoint.tokenization = some rule → fieldsParameter ∉ rule.parameters) :
    ∃ prepared value, prepare endpoint cipher request = .ok prepared ∧
      call.payload = .object prepared.payload ∧
      Members.get? fieldsParameter prepared.payload = some value ∧
      ∀ element ∈ value.elements, (∀ field ∈ prepared.inserted, element ≠ .string field) →
        ∃ path, element.scalarText? = some path ∧
          catalog.Permits allowed request.principal.scopes path := by
  obtain ⟨prepared, hprepared, rfl, hadmitted⟩ := admission_of_mem_calls hcall
  rw [← hadmitted.variant_eq hselected] at hgoverned
  obtain ⟨judged, hjudged, hpermitted⟩ := hadmitted.judged_fields hgoverned
  obtain ⟨resolved, hresolved, hinserted⟩ := hadmitted.forwarded
  -- putting tokens back does not touch the parameter
  rw [← get?_resolveTokens_of_not_mem hresolved htokens] at hjudged
  obtain ⟨value, hvalue, hsource⟩ :=
    @mem_elements_insertIdentifiers prepared.variant _ _ hjudged
  rw [hinserted] at hvalue hsource
  refine ⟨prepared, value, hprepared, rfl, hvalue, fun element helement hother => ?_⟩
  rcases hsource element helement with hmem | ⟨field, hfield, heq⟩
  · exact hpermitted element hmem
  · exact absurd heq (hother field hfield)

/-! ## A register of names and ages -/

/-- Names are one dataset, ages another. -/
def nameCatalog : FieldCatalog where
  groups := Table.ofList
    [("dataset-ages", ⟨SortedSet.ofList ["leeftijd"], by decide⟩),
     ("dataset-names", ⟨SortedSet.ofList ["naam.*"], by decide⟩)]

/-- The fields of its record type. -/
def nameFields : FieldList := ⟨SortedSet.ofList ["leeftijd", "naam"], by decide⟩

/-- The shape of its records. -/
def nameShape : ResponseShape where
  fields := Shape.ofMembers
    [("leeftijd", .number (.integer 40)), ("naam", .object [("voornamen", .string "Carolina")])]

/-- Its only variant; the register is always asked for the number of a person, too. -/
def nameVariant : Variant :=
  ((Variant.ofRuleset "Zoek"
    (Ruleset.empty.insert "type" (ParameterPolicy.empty.allowValue "Zoek"))).withFields
      nameCatalog (some nameFields) nameShape).withInsertedIdentifiers ["nummer"]

/-- Its endpoint. -/
def nameEndpoint : Endpoint :=
  (Endpoint.ofService "namen" "https://register.example/namen" "/namen" .empty).withVariant
    nameVariant

/-- A caller who holds the names asks for a part of them. -/
def nameRequest : Request where
  payload := [("fields", .array [.string "naam.voornamen"]), ("type", .string "Zoek")]
  principal := ⟨"caller", SortedSet.singleton "dataset-names"⟩
  correlationId := none
  taskDescription := none
  fullResult := false

/-- The register is called, and what it is asked for is the caller's part of a name and the inserted
number. -/
theorem forwarded_fields_permitted_of_names :
    ∃ prepared value, prepare nameEndpoint ⟨Digest.hmacSha256, []⟩ nameRequest = .ok prepared ∧
      prepared.inserted = ["nummer"] ∧
      Members.get? fieldsParameter prepared.payload = some value ∧
      value = .array [.string "naam.voornamen", .string "nummer"] ∧
      ∀ element ∈ value.elements, (∀ field ∈ prepared.inserted, element ≠ .string field) →
        ∃ path, element.scalarText? = some path ∧
          nameCatalog.Permits (some nameFields) nameRequest.principal.scopes path := by
  have hcall : ⟨"https://register.example/namen", .object
      [("fields", .array [.string "naam.voornamen", .string "nummer"]), ("type", .string "Zoek")]⟩
        ∈ (run nameEndpoint ⟨Digest.hmacSha256, []⟩ (fun _ => .ok ⟨200, none, .null⟩)
          nameRequest).calls := by decide +kernel
  have hselected : nameEndpoint.select nameRequest.payload = .ok nameVariant := rfl
  have hgoverned : nameVariant.GovernedBy nameCatalog (some nameFields) nameShape :=
    ⟨rfl, (Variant.governedBy_withFields ..).policy⟩
  obtain ⟨prepared, value, hprepared, -, hvalue, hpermitted⟩ :=
    forwarded_fields_permitted hcall hselected hgoverned (fun _ hrule => nomatch hrule)
  refine ⟨prepared, value, hprepared, ?_, hvalue, ?_, hpermitted⟩
  · have hinserted : (prepare nameEndpoint ⟨Digest.hmacSha256, []⟩ nameRequest).toOption.map
        Prepared.inserted = some ["nummer"] := by decide +kernel
    rw [hprepared] at hinserted
    exact Option.some.inj hinserted
  · have hforwarded : (prepare nameEndpoint ⟨Digest.hmacSha256, []⟩ nameRequest).toOption.bind
        (fun prepared => Members.get? fieldsParameter prepared.payload)
          = some (.array [.string "naam.voornamen", .string "nummer"]) := by decide +kernel
    rw [hprepared] at hforwarded
    exact Option.some.inj (hvalue.symm.trans hforwarded)

end Proxy

end RegistryGate
