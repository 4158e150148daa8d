/-
  How far the filter on the municipality binds a person query.

  A restricted caller has the filter filled in when it is not sent, and may send no value of it but
  `0363`.  The policy judges a value by its text, which only a text value can have
  (`eq_string_amsterdam`), and it judges a list item by item.  A list without items is therefore
  judged by nobody: it is forwarded as it is, and binds the query to no municipality.  That is the
  only way around the filter (`forwarded_gemeente_bound_iff`).
-/
import RegistryGate.Proofs.Number.Text
import RegistryGate.Proofs.Services.PersonVariants

namespace RegistryGate.Services

open Proxy
open Token (Cipher)

/-! ## Restricted queries -/

/-- A search that never leaves Amsterdam. -/
def AmsterdamOnly (variant : Variant) : Prop :=
  ∃ q ∈ personQueries, q.name = variant.name ∧ q.locality = .amsterdamOnly

/-- A filter that lets through Amsterdam and nothing else. -/
def BoundToAmsterdam (value : Json) : Prop :=
  value = .string amsterdam ∨
    ∃ items, value = .array items ∧ items ≠ [] ∧ ∀ item ∈ items, item = .string amsterdam

/-- The name of a query tells how far it reaches. -/
theorem locality_of_amsterdamOnly {q : PersonQuery} (hq : q ∈ personQueries)
    {datasets : FieldCatalog} {allowed : FieldList} {shape : ResponseShape}
    (h : AmsterdamOnly (personVariant q datasets allowed shape)) : q.locality = .amsterdamOnly := by
  have hnames : ∀ a ∈ personQueries, ∀ b ∈ personQueries, a.name = b.name →
      a.locality = b.locality := by decide
  obtain ⟨q', hq', hname, hlocality⟩ := h
  rw [name_personVariant] at hname
  rw [← hnames q' hq' q hq hname, hlocality]

/-- Holds when a caller cannot take a query of this reach beyond Amsterdam. -/
def Locality.Restricted (l : Locality) (granted : NameSet) : Prop :=
  l = .amsterdamOnly ∨ ¬ scopeNationwide ∈ granted

/-- A restricted query has no scope that lifts the filter. -/
theorem Locality.Restricted.liftedBy {l : Locality} {granted : NameSet} (h : l.Restricted granted) :
    l.liftedBy.any granted.contains = false := by
  -- an Amsterdam-only query has no such scope at all, and the other one is not held
  cases l with
  | amsterdamOnly => rfl
  | nationwide =>
    rcases h with hlocality | hscope
    · cases hlocality
    · show granted.contains scopeNationwide = false
      rw [Bool.eq_false_iff]
      exact fun hheld => hscope (SortedSet.contains_iff.mp hheld)

/-! ## The values that pass -/

/-- A restricted caller gets no text through but Amsterdam's. -/
theorem text_of_gemeentePolicy {l : Locality} {granted : NameSet} {text : String}
    {needed : Requirements} (h : (gemeentePolicy l).requirementsFor? text = some needed)
    (hmet : needed.MetBy granted) (hrestricted : l.Restricted granted) : text = amsterdam := by
  by_cases htext : text = amsterdam
  · exact htext
  · have hvalues : (ParameterPolicy.empty.allowValue amsterdam).values.get? text = none := by
      show (Table.empty.insert amsterdam (SortedSet.empty : Requirements)).get? text = none
      rw [Table.get?_insert_of_ne _ htext]
      rfl
    -- what is not Amsterdam is left to the fallback, which only a nationwide query has
    cases l with
    | amsterdamOnly =>
      have hnone : (gemeentePolicy .amsterdamOnly).requirementsFor? text
          = (((ParameterPolicy.empty.allowValue amsterdam).values.get? text).or none).or none := rfl
      rw [hnone, hvalues] at h
      cases h
    | nationwide =>
      have hfallback : (gemeentePolicy .nationwide).requirementsFor? text
          = (((ParameterPolicy.empty.allowValue amsterdam).values.get? text).or none).or
              (some (Requirements.ofScope scopeNationwide)) := rfl
      rw [hfallback, hvalues] at h
      cases h
      have hheld : Requirement.satisfiedBy granted (.scope scopeNationwide) = true :=
        Requirements.metBy_singleton.mp hmet
      rcases hrestricted with hlocality | hscope
      · cases hlocality
      · exact absurd (SortedSet.contains_iff.mp hheld) hscope

/-- The text of Amsterdam's code is that of no number and of no truth value. -/
theorem eq_string_amsterdam {element : Json} (h : element.scalarText? = some amsterdam) :
    element = .string amsterdam := by
  cases element with
  | string text =>
    cases h
    rfl
  | bool value =>
    cases value with
    | false => exact absurd (Option.some.inj h) (by decide)
    | true => exact absurd (Option.some.inj h) (by decide)
  -- digits with a zero before them are the text of no number
  | number value =>
    have hdigits : ∀ c ∈ amsterdam.toList, c.isDigit = true :=
      List.all_eq_true.mp (by decide)
    have hcanonical : amsterdam.toList
        ≠ Nat.toDigits 10 (Nat.ofDigitChars 10 amsterdam.toList 0) := by decide +kernel
    exact absurd (Option.some.inj h) (Number.text_ne_of_digits hdigits hcanonical value)
  | null | array | object => cases h

/-- Where every element is Amsterdam, a value binds unless it has none. -/
theorem boundToAmsterdam_iff {value : Json}
    (h : ∀ element ∈ value.elements, element = .string amsterdam) :
    BoundToAmsterdam value ↔ value ≠ .array [] := by
  constructor
  · rintro (rfl | ⟨items, rfl, hitems, -⟩) hempty
    · cases hempty
    · cases hempty
      exact hitems rfl
  · intro hempty
    cases value with
    | array items =>
      refine Or.inr ⟨items, rfl, fun hitems => hempty (by rw [hitems]), h⟩
    | null | bool | number | string | object =>
      exact Or.inl (h _ List.mem_cons_self)

/-! ## What is forwarded -/

section

variable {q : PersonQuery} {datasets : FieldCatalog} {allowed : FieldList} {shape : ResponseShape}
variable {endpoint : Endpoint} {cipher : Cipher} {request : Request} {prepared : Prepared}

/-- A restricted query has the filter that was sent, or Amsterdam. -/
theorem get?_augment_gemeente_of_restricted {granted : NameSet} (h : q.locality.Restricted granted)
    (payload : Payload) :
    Members.get? parameterGemeente
        ((personVariant q datasets allowed shape).augment granted payload)
      = some ((Members.get? parameterGemeente payload).getD (.string amsterdam)) := by
  rw [get?_augment_gemeente, h.liftedBy]
  cases Members.get? parameterGemeente payload <;> rfl

/-- Every element of it was judged by the policy on municipalities, so it is Amsterdam. -/
theorem gemeente_elements (hadmitted : Admission endpoint cipher request prepared)
    (hvariant : prepared.variant = personVariant q datasets allowed shape)
    (hrestricted : q.locality.Restricted request.principal.scopes) {value : Json}
    (hvalue : Members.get? parameterGemeente
      (prepared.variant.augment request.principal.scopes request.payload) = some value) :
    ∀ element ∈ value.elements, element = .string amsterdam := by
  intro element helement
  -- the value was judged, so each element has a text that the policy lets through
  obtain ⟨policy, hpolicy, hsupported⟩ :=
    hadmitted.supported (get?_resolveFields_of_some hvalue ..)
  obtain ⟨needed, hneeded, hmet⟩ := hsupported element helement
  rw [hvariant, get?_ruleset_gemeente] at hpolicy
  obtain rfl := Option.some.inj hpolicy
  obtain ⟨text, htext, hresolved⟩ := ParameterPolicy.requirementsOn?_eq_some hneeded
  -- for a restricted caller that is Amsterdam only
  rw [text_of_gemeentePolicy hresolved hmet hrestricted] at htext
  exact eq_string_amsterdam htext

/-- Nothing happens to the filter between filling in and the register. -/
theorem get?_payload_gemeente {settings : Settings} {catalog : EndpointCatalog}
    (hendpoint : personenEndpoint settings catalog = .ok endpoint)
    (hadmitted : Admission endpoint cipher request prepared) :
    Members.get? parameterGemeente prepared.payload
      = Members.get? parameterGemeente
          (prepared.variant.augment request.principal.scopes request.payload) := by
  obtain ⟨-, -, -, -, -, htokens⟩ := exists_of_personenEndpoint hendpoint
  refine hadmitted.get?_payload_of_ne (by decide) fun rule hrule => ?_
  rw [htokens] at hrule
  cases hrule
  decide

end

/-- **The filter on Amsterdam has one way around it.**  Whenever the register is called for an
Amsterdam-only search, or for a caller without the nationwide scope, the forwarded request has a
filter on the municipality.  It is Amsterdam or a list of nothing else, unless the caller sent the
list without items, which is forwarded as it is. -/
theorem forwarded_gemeente_bound_iff {settings : Settings} {catalog : EndpointCatalog}
    {endpoint : Endpoint} {cipher : Cipher} {register : RegisterCall → RegisterResult}
    {request : Request} {call : RegisterCall} {variant : Variant}
    (hendpoint : personenEndpoint settings catalog = .ok endpoint)
    (hcall : call ∈ (run endpoint cipher register request).calls)
    (hselected : endpoint.select request.payload = .ok variant)
    (hrestricted : AmsterdamOnly variant ∨ ¬ scopeNationwide ∈ request.principal.scopes) :
    ∃ members value, call.payload = .object members ∧
      Members.get? parameterGemeente members = some value ∧
      (BoundToAmsterdam value ↔
        Members.get? parameterGemeente request.payload ≠ some (.array [])) ∧
      (¬ BoundToAmsterdam value → value = .array []) := by
  obtain ⟨prepared, -, rfl, hadmitted⟩ := admission_of_mem_calls hcall
  have hvariant : prepared.variant = variant := hadmitted.variant_eq hselected
  obtain ⟨q, hq, allowed, shape, -, -, hperson⟩ := personVariant_of_select hendpoint hselected
  rw [hperson] at hvariant hrestricted
  have hlocality : q.locality.Restricted request.principal.scopes :=
    hrestricted.imp_left (locality_of_amsterdamOnly hq)
  have hfilled : Members.get? parameterGemeente
      (prepared.variant.augment request.principal.scopes request.payload)
        = some ((Members.get? parameterGemeente request.payload).getD (.string amsterdam)) := by
    rw [hvariant]
    exact get?_augment_gemeente_of_restricted hlocality request.payload
  -- so the filter binds unless it is the empty list, which only the caller can have sent
  have hbound := boundToAmsterdam_iff (gemeente_elements hadmitted hvariant hlocality hfilled)
  refine ⟨prepared.payload, _, rfl, (get?_payload_gemeente hendpoint hadmitted).trans hfilled,
    hbound.trans ?_, fun hunbound => Classical.byContradiction (hunbound ∘ hbound.mpr)⟩
  -- the only unbound value that can have been sent is the list without items
  cases Members.get? parameterGemeente request.payload with
  | none => exact iff_of_true (fun h => nomatch h) (fun h => nomatch h)
  | some sent => exact not_congr Option.some_inj.symm

/-! ## Searches by postal code -/

/-- A catalog with one dataset, which grants the number of a person. -/
def numberCatalog : EndpointCatalog where
  datasets := ⟨Table.ofList [("dataset-numbers", ⟨SortedSet.ofList [fieldBsn], by decide⟩)]⟩
  shape := some ⟨Shape.ofMembers [(fieldBsn, .string "999993653")]⟩
  recordTypes := Table.ofList
    [("Persoon", ⟨SortedSet.ofList [fieldBsn], by decide⟩),
     ("PersoonBeperkt", ⟨SortedSet.ofList [fieldBsn], by decide⟩)]

/-- Where its endpoint forwards to. -/
def numberSettings : Settings := ⟨"https://register.example/personen", "https://gate.example"⟩

/-- What the caller below holds: no scope beyond Amsterdam. -/
def postcodeScopes : NameSet :=
  SortedSet.ofList [scopeBase, "benk-brp-zoekvraag-postcode-huisnummer", "dataset-numbers"]

/-- A search by postal code with a list of municipalities. -/
def postcodeRequest (municipalities : List Json) : Request where
  payload := [(parameterGemeente, .array municipalities),
    ("type", .string "ZoekMetPostcodeEnHuisnummer")]
  principal := ⟨"caller", postcodeScopes⟩
  correlationId := none
  taskDescription := none
  fullResult := false

/-- A run of it at an endpoint. -/
def postcodeRun (endpoint : Endpoint) (municipalities : List Json) : Run :=
  run endpoint ⟨Digest.hmacSha256, []⟩ (fun _ => .ok ⟨200, none, .null⟩)
    (postcodeRequest municipalities)

/-- What the register is then called with. -/
def postcodeCall (municipalities : List Json) : RegisterCall where
  url := numberSettings.registerUrl
  payload := .object
    [("fields", .array [.string fieldBsn]), (parameterGemeente, .array municipalities),
      ("type", .string "ZoekMetPostcodeEnHuisnummer")]

/-- When the register is called with it, the caller is known to be restricted. -/
theorem restricted_of_postcodeCall {municipalities : List Json}
    (h : (personenEndpoint numberSettings numberCatalog).toOption.map
      (fun endpoint => (postcodeRun endpoint municipalities).calls)
        = some [postcodeCall municipalities]) :
    ∃ endpoint variant, personenEndpoint numberSettings numberCatalog = .ok endpoint ∧
      endpoint.select (postcodeRequest municipalities).payload = .ok variant ∧
      (AmsterdamOnly variant ∨
        ¬ scopeNationwide ∈ (postcodeRequest municipalities).principal.scopes) ∧
      postcodeCall municipalities ∈ (postcodeRun endpoint municipalities).calls := by
  cases hendpoint : personenEndpoint numberSettings numberCatalog with
  | error fault =>
    rw [hendpoint] at h
    cases h
  | ok endpoint =>
    rw [hendpoint] at h
    have hcalls : (postcodeRun endpoint municipalities).calls = [postcodeCall municipalities] :=
      Option.some.inj h
    have hcall : postcodeCall municipalities ∈ (postcodeRun endpoint municipalities).calls := by
      rw [hcalls]
      exact List.mem_cons_self
    obtain ⟨prepared, -, -, hadmitted⟩ := admission_of_mem_calls hcall
    refine ⟨endpoint, prepared.variant, rfl, hadmitted.selected, Or.inr fun hheld => ?_, hcall⟩
    have hheld' : postcodeScopes.contains scopeNationwide = true := SortedSet.contains_iff.mpr hheld
    exact absurd hheld' (by decide)

/-- Amsterdam, named twice, binds the search. -/
theorem forwarded_gemeente_bound_of_list :
    ∃ endpoint members value, personenEndpoint numberSettings numberCatalog = .ok endpoint ∧
      postcodeCall [.string amsterdam, .string amsterdam]
        ∈ (postcodeRun endpoint [.string amsterdam, .string amsterdam]).calls ∧
      (postcodeCall [.string amsterdam, .string amsterdam]).payload = .object members ∧
      Members.get? parameterGemeente members = some value ∧ BoundToAmsterdam value := by
  obtain ⟨endpoint, variant, hendpoint, hselected, hrestricted, hcall⟩ :=
    @restricted_of_postcodeCall [.string amsterdam, .string amsterdam] (by decide +kernel)
  obtain ⟨members, value, hmembers, hvalue, hbound, -⟩ :=
    forwarded_gemeente_bound_iff hendpoint hcall hselected hrestricted
  exact ⟨endpoint, members, value, hendpoint, hcall, hmembers, hvalue,
    hbound.mpr (by decide +kernel)⟩

/-- The list without items does not: the search goes to the register with no municipality at all. -/
theorem empty_list_not_bound :
    ∃ endpoint variant, personenEndpoint numberSettings numberCatalog = .ok endpoint ∧
      endpoint.select (postcodeRequest []).payload = .ok variant ∧
      (AmsterdamOnly variant ∨ ¬ scopeNationwide ∈ (postcodeRequest []).principal.scopes) ∧
      postcodeCall [] ∈ (postcodeRun endpoint []).calls ∧
      ¬ ∃ members value, (postcodeCall []).payload = .object members ∧
        Members.get? parameterGemeente members = some value ∧ BoundToAmsterdam value := by
  obtain ⟨endpoint, variant, hendpoint, hselected, hrestricted, hcall⟩ :=
    @restricted_of_postcodeCall [] (by decide +kernel)
  refine ⟨endpoint, variant, hendpoint, hselected, hrestricted, hcall, ?_⟩
  rintro ⟨members, value, hmembers, hvalue, hbound⟩
  obtain rfl := Json.object.inj hmembers
  have hforwarded : Members.get? parameterGemeente
      [("fields", .array [.string fieldBsn]), (parameterGemeente, .array []),
        ("type", .string "ZoekMetPostcodeEnHuisnummer")] = some (Json.array []) := by decide +kernel
  obtain rfl : value = .array [] := Option.some.inj (hvalue.symm.trans hforwarded)
  rcases hbound with htext | ⟨items, hitems, hne, -⟩
  · cases htext
  · cases hitems
    exact hne rfl

end RegistryGate.Services
