/-
  What a request to the endpoint of persons can select.

  The endpoint is built query by query, each with the fields of its record type.  Read backwards:
  whatever it selects is the variant of one of the listed queries (`personVariant_of_select`), so a
  statement about all its variants is one about `personVariant`.  Its policies and what it fills in
  are looked up here once.
-/
import RegistryGate.Endpoint.Services
import RegistryGate.Proofs.Proxy.Authorization

namespace RegistryGate.Services

open Proxy

variable {catalog : EndpointCatalog} {shape : ResponseShape} {settings : Settings}

/-! ## The variants of the endpoint -/

/-- One query adds one variant. -/
theorem get?_variants_withVariant (e : Endpoint) (v : Variant) (name : String) :
    (e.withVariant v).variants.get? name
      = if name = v.name then some v else e.variants.get? name :=
  Members.get?_insert v.name name v e.variants.entries

/-- A variant of an endpoint to which variants were added is one of them, or was there before. -/
theorem get?_variants_foldl_withVariant {α : Type} {f : α → Variant} {xs : List α} {e : Endpoint}
    {name : String} {variant : Variant}
    (h : (xs.foldl (fun e x => e.withVariant (f x)) e).variants.get? name = some variant) :
    (∃ x ∈ xs, variant = f x) ∨ e.variants.get? name = some variant := by
  -- on what is added, for every endpoint to start from
  induction xs generalizing e with
  | nil => exact Or.inr h
  | cons x rest ih =>
    rcases ih h with ⟨x', hx', rfl⟩ | hbefore
    · exact Or.inl ⟨x', List.mem_cons_of_mem x hx', rfl⟩
    · rw [get?_variants_withVariant] at hbefore
      split at hbefore
      · exact Or.inl ⟨x, List.mem_cons_self, (Option.some.inj hbefore).symm⟩
      · exact Or.inr hbefore

/-- A variant of a built endpoint is that of one of the queries, or was there before.  A variant was
added for the first query, or it is one of the endpoint that the others are added to. -/
theorem get?_variants_addPersonVariants {queries : List PersonQuery} {e built : Endpoint}
    (h : addPersonVariants catalog shape queries e = .ok built) {name : String} {variant : Variant}
    (hvariant : built.variants.get? name = some variant) :
    (∃ q ∈ queries, ∃ allowed, catalog.recordTypes.get? q.recordType = some allowed ∧
      variant = personVariant q catalog.datasets allowed shape) ∨
    e.variants.get? name = some variant := by
  -- by induction on the queries, for every endpoint that they are added to
  induction queries generalizing e with
  | nil =>
    cases h
    exact Or.inr hvariant
  | cons q rest ih =>
    unfold addPersonVariants at h
    split at h
    · cases h
    · rename_i allowed hallowed
      rcases ih h with ⟨q', hq', found⟩ | hbefore
      · exact Or.inl ⟨q', List.mem_cons_of_mem q hq', found⟩
      · rw [get?_variants_withVariant] at hbefore
        split at hbefore
        · cases hbefore
          exact Or.inl ⟨q, List.mem_cons_self, allowed, hallowed, rfl⟩
        · exact Or.inr hbefore

/-- Adding person queries changes nothing but the variants. -/
theorem eq_of_addPersonVariants {queries : List PersonQuery} {e built : Endpoint}
    (h : addPersonVariants catalog shape queries e = .ok built) :
    built = { e with variants := built.variants } := by
  -- on the queries; each changes the variants and nothing else
  induction queries generalizing e with
  | nil =>
    cases h
    rfl
  | cons q rest ih =>
    unfold addPersonVariants at h
    split at h
    · cases h
    · have hrest := ih h
      exact hrest

/-- The endpoint of persons is the base endpoint with all queries added, and tokens for citizen
service numbers. -/
theorem exists_of_personenEndpoint {endpoint : Endpoint}
    (h : personenEndpoint settings catalog = .ok endpoint) :
    ∃ shape built, catalog.shape = some shape ∧
      addPersonVariants catalog shape personQueries
        (baseEndpoint personen "/api/brp/personen" settings) = .ok built ∧
      endpoint.variants = built.variants ∧
      endpoint.tokenization = some (bsnTokenization [fieldBsn] [fieldBsn]) := by
  unfold personenEndpoint at h
  split at h
  · cases h
  · rename_i shape hshape
    dsimp only at h
    cases hbuilt : addPersonVariants catalog shape personQueries
        (baseEndpoint personen "/api/brp/personen" settings) with
    | error fault =>
      rw [hbuilt] at h
      cases h
    | ok built =>
      rw [hbuilt] at h
      cases h
      exact ⟨shape, built, hshape, hbuilt, rfl, rfl⟩

/-- It keeps the discriminator and the scopes of the base endpoint. -/
theorem base_of_personenEndpoint {endpoint : Endpoint}
    (h : personenEndpoint settings catalog = .ok endpoint) :
    endpoint.discriminator = "type" ∧ endpoint.baseScopes = Requirements.ofScope scopeBase := by
  unfold personenEndpoint at h
  split at h
  · cases h
  · rename_i shape hshape
    dsimp only at h
    cases hbuilt : addPersonVariants catalog shape personQueries
        (baseEndpoint personen "/api/brp/personen" settings) with
    | error fault =>
      rw [hbuilt] at h
      cases h
    | ok built =>
      rw [hbuilt] at h
      cases h
      rw [eq_of_addPersonVariants hbuilt]
      exact ⟨rfl, rfl⟩

/-- **Whatever a request selects is a person query**, with the fields of its record type. -/
theorem personVariant_of_select {endpoint : Endpoint} {payload : Payload} {variant : Variant}
    (h : personenEndpoint settings catalog = .ok endpoint)
    (hselect : endpoint.select payload = .ok variant) :
    ∃ q ∈ personQueries, ∃ allowed shape, catalog.recordTypes.get? q.recordType = some allowed ∧
      catalog.shape = some shape ∧ variant = personVariant q catalog.datasets allowed shape := by
  obtain ⟨shape, built, hshape, hbuilt, hvariants, -⟩ := exists_of_personenEndpoint h
  obtain ⟨_, name, -, -, hvariant⟩ := select_eq_ok hselect
  rw [hvariants] at hvariant
  rcases get?_variants_addPersonVariants hbuilt hvariant with ⟨q, hq, allowed, hallowed, rfl⟩ | hnone
  · exact ⟨q, hq, allowed, shape, hallowed, hshape, rfl⟩
  · cases hnone

/-! ## One variant -/

variable (q : PersonQuery) (datasets : FieldCatalog) (allowed : FieldList) (shape : ResponseShape)

theorem name_personVariant : (personVariant q datasets allowed shape).name = q.name := by
  unfold personVariant
  dsimp only
  split <;> rfl

/-- The policies of a variant are those of its query, and the catalog's on fields. -/
theorem ruleset_personVariant :
    (personVariant q datasets allowed shape).ruleset
      = (personRules q).insert fieldsParameter
          (datasets.fieldPolicy shape.knownPaths (some allowed)) := by
  unfold personVariant
  dsimp only
  split <;> rfl

theorem get?_ruleset_gemeente :
    (personVariant q datasets allowed shape).ruleset.get? parameterGemeente
      = some (gemeentePolicy q.locality) := by
  rw [ruleset_personVariant, Ruleset.get?_insert, if_neg (by decide)]
  unfold personRules
  rw [Ruleset.get?_insert, if_pos rfl]

/-- A variant fills in the filter on the municipality and, when it searches, the flag for deceased
persons. -/
theorem augmentations_personVariant :
    (personVariant q datasets allowed shape).augmentations
      = .defaultValue parameterGemeente (.string amsterdam) q.locality.liftedBy ::
          if q.consult then []
          else [.enableFlag parameterIncludeDeceased scopeIncludeDeceased] := by
  unfold personVariant
  cases q.consult <;> rfl

/-- The filter on the municipality is filled in, unless the caller's scope lifts it. -/
theorem get?_augment_gemeente (granted : NameSet) (payload : Payload) :
    Members.get? parameterGemeente
        ((personVariant q datasets allowed shape).augment granted payload)
      = (Members.get? parameterGemeente payload).or
          (if q.locality.liftedBy.any granted.contains then none
            else some (.string amsterdam)) := by
  have hown : (if (Augmentation.defaultValue parameterGemeente (.string amsterdam)
        q.locality.liftedBy).parameter = parameterGemeente
      then (Augmentation.defaultValue parameterGemeente (.string amsterdam)
        q.locality.liftedBy).valueFor? granted else none)
      = if q.locality.liftedBy.any granted.contains then none else some (.string amsterdam) :=
    if_pos rfl
  have hother : (if (Augmentation.enableFlag parameterIncludeDeceased
        scopeIncludeDeceased).parameter = parameterGemeente
      then (Augmentation.enableFlag parameterIncludeDeceased
        scopeIncludeDeceased).valueFor? granted else none) = none := if_neg (by decide)
  rw [Variant.get?_augment, augmentations_personVariant, List.findSome?_cons, hown]
  -- with the scope the filter is left to the caller, and the flag does not stand in for it
  cases q.locality.liftedBy.any granted.contains with
  | false => rfl
  | true =>
    cases q.consult with
    | true => rfl
    | false =>
      show Option.or _ (List.findSome? _ [_]) = _
      rw [List.findSome?_cons, hother]
      rfl

end RegistryGate.Services
