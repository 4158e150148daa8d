/-
  The four services and their queries.

  A statement about whatever the four services let through is one about the kinds of queries that
  they have.  `BuiltIn` lists the services, `QueryKind` the variants that they are built from, each
  with the scope of its kind; whatever a request selects is of one of these kinds
  (`queryKind_of_select`).

  Of every kind the same is looked up here, once and constructor by constructor: each parameter is
  declared once (`QueryKind.distinct`), the discriminator requires the scope of the kind
  (`QueryKind.get?_type`), the policy on citizen service numbers treats all texts alike
  (`QueryKind.blind_bsn`), and what is filled in is admitted (`QueryKind.admits_augmentations`).
-/
import RegistryGate.Proofs.Policy.Acceptance
import RegistryGate.Proofs.Services.FilledIn

namespace RegistryGate.Services

open Proxy

/-! ## The services -/

/-- One of the four services, with any settings and over any catalog. -/
inductive BuiltIn : Endpoint → Prop where
  /-- Persons. -/
  | persons {settings : Settings} {catalog : EndpointCatalog} {endpoint : Endpoint}
      (h : personenEndpoint settings catalog = .ok endpoint) : BuiltIn endpoint
  /-- Occupancy. -/
  | occupancy (settings : Settings) : BuiltIn (bewoningenEndpoint settings)
  /-- Residence history. -/
  | residence (settings : Settings) : BuiltIn (verblijfplaatshistorieEndpoint settings)
  /-- Travel documents. -/
  | documents {settings : Settings} {catalog : EndpointCatalog} {endpoint : Endpoint}
      (h : reisdocumentenEndpoint settings catalog = .ok endpoint) : BuiltIn endpoint

section

variable {endpoint : Endpoint}

/-- Every service is told by the `type` parameter what is asked. -/
theorem BuiltIn.discriminator (h : BuiltIn endpoint) : endpoint.discriminator = "type" := by
  cases h with
  | persons h => exact (base_of_personenEndpoint h).1
  | occupancy settings => rfl
  | residence settings => rfl
  | documents h =>
    obtain ⟨-, -, -, htype, -⟩ := exists_of_reisdocumentenEndpoint h
    exact htype

/-- Every service requires the base scope. -/
theorem BuiltIn.baseScopes (h : BuiltIn endpoint) :
    endpoint.baseScopes = Requirements.ofScope scopeBase := by
  cases h with
  | persons h => exact (base_of_personenEndpoint h).2
  | occupancy settings => rfl
  | residence settings => rfl
  | documents h =>
    obtain ⟨-, -, -, -, hbase, -⟩ := exists_of_reisdocumentenEndpoint h
    exact hbase

/-- Where tokens are put back, they are those of citizen service numbers. -/
theorem BuiltIn.tokenized (h : BuiltIn endpoint) {rule : TokenizationRule}
    (hrule : endpoint.tokenization = some rule) : rule.parameters = [fieldBsn] := by
  cases h with
  | persons h =>
    obtain ⟨-, -, -, -, -, htokens⟩ := exists_of_personenEndpoint h
    rw [htokens] at hrule
    cases hrule
    rfl
  | occupancy settings => cases hrule
  | residence settings =>
    cases hrule
    rfl
  | documents h =>
    obtain ⟨-, -, -, -, -, htokens⟩ := exists_of_reisdocumentenEndpoint h
    rw [htokens] at hrule
    cases hrule
    rfl

end

/-! ## Their queries -/

/-- The names of the occupancy queries. -/
def occupancyQueries : List String := ["BewoningMetPeildatum", "BewoningMetPeriode"]

/-- The variant of an occupancy query. -/
def occupancyVariant (name : String) : Variant :=
  openVariant name "benk-brp-zoekvraag-bewoning"
    ["adresseerbaarObjectIdentificatie", "peildatum", "datumVan", "datumTot"]

/-- The names of the residence history queries. -/
def residenceQueries : List String := ["RaadpleegMetPeildatum", "RaadpleegMetPeriode"]

/-- The variant of a residence history query. -/
def residenceVariant (name : String) : Variant :=
  openVariant name "benk-brp-zoekvraag-verblijfplaatshistorie"
    [fieldBsn, "peildatum", "datumVan", "datumTot"]

/-- A variant is that of a kind of query, which requires a scope. -/
inductive QueryKind : Variant → String → Prop where
  /-- A query for persons. -/
  | person {q : PersonQuery} (hq : q ∈ personQueries) (datasets : FieldCatalog)
      (allowed : FieldList) (shape : ResponseShape) :
      QueryKind (personVariant q datasets allowed shape) q.scope
  /-- A query for occupancy. -/
  | occupancy {name : String} (hname : name ∈ occupancyQueries) :
      QueryKind (occupancyVariant name) "benk-brp-zoekvraag-bewoning"
  /-- A query for residence history. -/
  | residence {name : String} (hname : name ∈ residenceQueries) :
      QueryKind (residenceVariant name) "benk-brp-zoekvraag-verblijfplaatshistorie"
  /-- A query for travel documents. -/
  | document {q : DocumentQuery} (hq : q ∈ documentQueries) (datasets : FieldCatalog)
      (shape : ResponseShape) : QueryKind (documentVariant q datasets shape) q.scope

/-- **Whatever a request selects is of one of the kinds.** -/
theorem queryKind_of_select {endpoint : Endpoint} {payload : Payload} {variant : Variant}
    (hbuilt : BuiltIn endpoint) (hselect : endpoint.select payload = .ok variant) :
    ∃ scope, QueryKind variant scope := by
  obtain ⟨_, name, -, -, hvariant⟩ := select_eq_ok hselect
  cases hbuilt with
  | persons h =>
    obtain ⟨q, hq, allowed, shape, -, -, rfl⟩ := personVariant_of_select h hselect
    exact ⟨q.scope, .person hq _ allowed shape⟩
  | occupancy settings =>
    have hadded : (∃ name ∈ occupancyQueries, variant = occupancyVariant name) ∨ _ :=
      get?_variants_foldl_withVariant hvariant
    rcases hadded with ⟨name, hname, rfl⟩ | hnone
    · exact ⟨_, .occupancy hname⟩
    · cases hnone
  | residence settings =>
    have hadded : (∃ name ∈ residenceQueries, variant = residenceVariant name) ∨ _ :=
      get?_variants_foldl_withVariant hvariant
    rcases hadded with ⟨name, hname, rfl⟩ | hnone
    · exact ⟨_, .residence hname⟩
    · cases hnone
  | documents h =>
    obtain ⟨shape, -, hvariants, -⟩ := exists_of_reisdocumentenEndpoint h
    rw [hvariants] at hvariant
    rcases get?_variants_foldl_withVariant hvariant with ⟨q, hq, rfl⟩ | hnone
    · exact ⟨q.scope, .document hq _ shape⟩
    · cases hnone

/-! ## Their policies -/

theorem get?_typeRules (name scope parameter : String) :
    (typeRules name scope).get? parameter
      = if parameter = "type" then some (ParameterPolicy.empty.withValue name scope) else none :=
  Ruleset.get?_insert ..

/-- Open parameters are allowed; the others have the policy that they had. -/
theorem get?_withOpenParameters (rules : Ruleset) (parameters : List String) (name : String) :
    (withOpenParameters rules parameters).get? name
      = if name ∈ parameters then some .allowAll else rules.get? name := by
  unfold withOpenParameters
  -- on the open parameters; one that is named again is allowed again
  induction parameters generalizing rules with
  | nil => rfl
  | cons parameter rest ih =>
    rw [List.foldl_cons, ih, Ruleset.get?_insert]
    by_cases hrest : name ∈ rest
    · simp [hrest]
    · by_cases hname : name = parameter
      · simp [hname]
      · simp [hrest, hname]

namespace QueryKind

variable {variant : Variant} {scope : String}

/-- Each parameter is declared once. -/
theorem distinct (h : QueryKind variant scope) : variant.ruleset.Distinct := by
  cases h with
  | person hq datasets allowed shape => exact distinct_personVariant
  | occupancy hname | residence hname =>
    exact distinct_withOpenParameters (distinct_typeRules _ _) _
  | document hq datasets shape => exact ((distinct_typeRules _ _).insert _ _).insert _ _

/-- The discriminator has one value, which requires the scope of the kind. -/
theorem get?_type (h : QueryKind variant scope) :
    variant.ruleset.get? "type" = some (ParameterPolicy.empty.withValue variant.name scope) := by
  -- the discriminator is declared first, and no later parameter has its name
  cases h with
  | person hq datasets allowed shape =>
    rw [ruleset_personVariant, name_personVariant, Ruleset.get?_insert, if_neg (by decide)]
    unfold personRules
    rw [Ruleset.get?_insert, if_neg (by decide), Ruleset.get?_insert, if_neg (by decide),
      Ruleset.get?_insert, if_neg (by decide), Ruleset.get?_insert, if_neg (by decide),
      get?_withOpenParameters, if_neg (by decide), get?_typeRules, if_pos rfl]
  | occupancy hname | residence hname =>
    show (withOpenParameters (typeRules _ _) _).get? "type" = _
    rw [get?_withOpenParameters, if_neg (by decide), get?_typeRules, if_pos rfl]
    rfl
  | @document q hq datasets shape =>
    have hparameter : "type" ≠ q.parameter :=
      (by decide : ∀ q ∈ documentQueries, "type" ≠ q.parameter) q hq
    show (((typeRules _ _).insert _ _).insert _ _).get? "type" = _
    rw [Ruleset.get?_insert, if_neg (by decide), Ruleset.get?_insert, if_neg hparameter,
      get?_typeRules, if_pos rfl]
    rfl

/-- Citizen service numbers are judged without a look at them. -/
theorem blind_bsn (h : QueryKind variant scope) {policy : ParameterPolicy}
    (hpolicy : variant.ruleset.get? fieldBsn = some policy) : policy.Blind := by
  cases h with
  | person hq datasets allowed shape =>
    rw [ruleset_personVariant, Ruleset.get?_insert, if_neg (by decide)] at hpolicy
    unfold personRules at hpolicy
    rw [Ruleset.get?_insert, if_neg (by decide), Ruleset.get?_insert, if_neg (by decide),
      Ruleset.get?_insert, if_pos rfl] at hpolicy
    obtain rfl := Option.some.inj hpolicy
    exact ParameterPolicy.blind_forAllValues _
  | occupancy hname | residence hname =>
    change (withOpenParameters (typeRules _ _) _).get? fieldBsn = _ at hpolicy
    rw [get?_withOpenParameters, get?_typeRules,
      if_neg (show fieldBsn ≠ "type" by decide)] at hpolicy
    split at hpolicy
    · obtain rfl := Option.some.inj hpolicy
      exact ParameterPolicy.blind_allowAll
    · cases hpolicy
  | document hq datasets shape =>
    change (((typeRules _ _).insert _ _).insert _ _).get? fieldBsn = _ at hpolicy
    rw [Ruleset.get?_insert, if_neg (by decide), Ruleset.get?_insert, get?_typeRules,
      if_neg (show fieldBsn ≠ "type" by decide)] at hpolicy
    split at hpolicy
    · obtain rfl := Option.some.inj hpolicy
      exact ParameterPolicy.blind_forAllValues _
    · cases hpolicy

/-- Whatever is filled in for a caller is admitted for that caller. -/
theorem admits_augmentations (h : QueryKind variant scope) (granted : NameSet) :
    ∀ a ∈ variant.augmentations, ∀ value, a.valueFor? granted = some value →
      variant.ruleset.Admits granted a.parameter value := by
  intro a ha value hvalue
  cases h with
  | person hq datasets allowed shape => exact admits_augmentations_personVariant ha hvalue
  | occupancy hname | residence hname | document hq datasets shape =>
    exact absurd ha List.not_mem_nil

end QueryKind

end RegistryGate.Services
