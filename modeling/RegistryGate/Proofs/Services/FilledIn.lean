/-
  What is filled in is never the cause of a rejection.

  Before a request is judged, parameters are filled in: the municipality, the flag for deceased
  persons, the default fields.  Each of them is put in only where the caller did not send it, and
  with a value that the variant's own ruleset admits for that caller.  Such a parameter changes no
  verdict, and so neither do all of them together (`missing_judgedPayload`).

  What is left is to look up, for the variants of both services that have fields, that their rulesets
  admit what they fill in (`fillsInAdmitted_personVariant`, `fillsInAdmitted_documentVariant`).  For
  the default fields this takes a catalog of which the shape knows every path, which every loaded
  catalog is.
-/
import RegistryGate.Proofs.Field.Defaults
import RegistryGate.Proofs.Services.PersonVariants

namespace RegistryGate

/-! ## Filling in admitted values -/

/-- The ruleset of a variant admits everything that is filled in for a caller. -/
structure Variant.FillsInAdmitted (v : Variant) (granted : NameSet) : Prop where
  /-- It admits the value of each augmentation that applies. -/
  augmentations : ∀ a ∈ v.augmentations, ∀ value, a.valueFor? granted = some value →
    v.ruleset.Admits granted a.parameter value
  /-- It admits the default fields. -/
  defaults : ∀ fields, v.fields = some fields →
    v.ruleset.Admits granted fieldsParameter (Json.ofStrings (fields.defaults granted))

section

variable {granted : NameSet}

theorem Augmentation.eq_of_valueFor?_defaultValue {parameter : String} {value found : Json}
    {unlessScope : Option String}
    (h : (defaultValue parameter value unlessScope).valueFor? granted = some found) :
    found = value := by
  rw [valueFor?] at h
  split at h
  · cases h
  · exact (Option.some.inj h).symm

theorem Augmentation.of_valueFor?_enableFlag {parameter scope : String} {found : Json}
    (h : (enableFlag parameter scope).valueFor? granted = some found) :
    found = .bool true ∧ scope ∈ granted := by
  rw [valueFor?] at h
  split at h
  · rename_i hscope
    exact ⟨(Option.some.inj h).symm, SortedSet.contains_iff.mp hscope⟩
  · cases h

/-- An augmentation with an admitted value changes no verdict. -/
theorem Augmentation.missing_apply {rules : Ruleset} {a : Augmentation}
    (h : ∀ value, a.valueFor? granted = some value → rules.Admits granted a.parameter value)
    (request : Payload) :
    (rules.requiredScopes (a.apply granted request)).map (Requirements.missing granted)
      = (rules.requiredScopes request).map (Requirements.missing granted) := by
  unfold Augmentation.apply
  split
  · rename_i value hvalue
    split
    · rfl
    · rename_i habsent
      exact Ruleset.requiredScopes_insert (h value hvalue)
        (Members.get?_eq_none_of_not_contains habsent)
  · rfl

/-- Augmentations with admitted values change no verdict.  Each puts in a value only where there is
none. -/
theorem Variant.missing_augment {v : Variant}
    (h : ∀ a ∈ v.augmentations, ∀ value, a.valueFor? granted = some value →
      v.ruleset.Admits granted a.parameter value) (request : Payload) :
    (v.ruleset.requiredScopes (v.augment granted request)).map (Requirements.missing granted)
      = (v.ruleset.requiredScopes request).map (Requirements.missing granted) := by
  unfold Variant.augment
  generalize v.augmentations = steps at h
  -- on the augmentations in their order, each applied to what the one before left
  induction steps generalizing request with
  | nil => rfl
  | cons a rest ih =>
    obtain ⟨ha, hrest⟩ := List.forall_mem_cons.mp h
    rw [List.foldl_cons, ih _ hrest, Augmentation.missing_apply ha]

namespace Proxy

/-- **What is filled in changes no verdict**, where the ruleset admits it. -/
theorem missing_judgedPayload {v : Variant} (h : v.FillsInAdmitted granted) (payload : Payload) :
    (v.ruleset.requiredScopes (judgedPayload v granted payload)).map (Requirements.missing granted)
      = (v.ruleset.requiredScopes payload).map (Requirements.missing granted) := by
  rw [← Variant.missing_augment h.augmentations payload]
  unfold judgedPayload resolveFields
  split
  · rfl
  · rename_i fields hfields
    split
    · rfl
    · rename_i habsent
      split
      · rfl
      · exact Ruleset.requiredScopes_insert (h.defaults fields hfields)
          (Members.get?_eq_none_of_not_contains habsent)

end Proxy

end

/-- Default fields are admitted by a ruleset that has the policy of their catalog. -/
theorem Ruleset.Distinct.admits_defaults {rules : Ruleset} (h : rules.Distinct)
    {fields : VariantFields} {shape : ResponseShape} {granted : NameSet}
    (hpolicy : rules.get? fieldsParameter
      = some (fields.catalog.fieldPolicy shape.knownPaths fields.allowed))
    (hdatasets : ∀ dataset list, fields.catalog.group? dataset = some list → list.KnownTo shape)
    (hallowed : ∀ list, fields.allowed = some list → list.KnownTo shape) :
    rules.Admits granted fieldsParameter (Json.ofStrings (fields.defaults granted)) :=
  h.admits hpolicy (FieldCatalog.admits_defaultFields hdatasets hallowed)

namespace Services

open Proxy

/-! ## Rulesets -/

theorem distinct_typeRules (name scope : String) : (typeRules name scope).Distinct :=
  Ruleset.distinct_empty.insert _ _

theorem distinct_withOpenParameters {rules : Ruleset} (h : rules.Distinct)
    (parameters : List String) : (withOpenParameters rules parameters).Distinct := by
  unfold withOpenParameters
  induction parameters generalizing rules with
  | nil => exact h
  | cons parameter rest ih => exact ih (h.insert parameter .allowAll)

theorem distinct_personRules (q : PersonQuery) : (personRules q).Distinct :=
  ((((distinct_withOpenParameters (distinct_typeRules q.name q.scope) _).insert _ _).insert _ _).insert
    _ _).insert _ _

/-! ## Person queries -/

section

variable {q : PersonQuery} {datasets : FieldCatalog} {allowed : FieldList} {shape : ResponseShape}
  {granted : NameSet}

/-- Amsterdam is admitted for everyone. -/
theorem admits_amsterdam (l : Locality) (granted : NameSet) :
    (gemeentePolicy l).Admits granted (.string amsterdam) := by
  -- the policy has an entry for Amsterdam that requires nothing
  intro element helement
  obtain rfl := List.mem_singleton.mp helement
  refine ⟨.empty, ?_, fun r hr => absurd hr SortedSet.not_mem_empty⟩
  cases l with
  | nationwide => decide
  | amsterdamOnly => decide

/-- The policy on the flag for deceased persons. -/
def deceasedPolicy : ParameterPolicy :=
  (ParameterPolicy.empty.withValue "true" scopeIncludeDeceased).allowValue "false"

/-- The flag is admitted for those who hold its scope. -/
theorem admits_deceased (h : scopeIncludeDeceased ∈ granted) :
    deceasedPolicy.Admits granted (.bool true) := by
  intro element helement
  obtain rfl := List.mem_singleton.mp helement
  refine ⟨Requirements.ofScope scopeIncludeDeceased, by decide, ?_⟩
  exact Requirements.metBy_singleton.mpr (SortedSet.contains_iff.mpr h)

theorem get?_ruleset_deceased :
    (personVariant q datasets allowed shape).ruleset.get? parameterIncludeDeceased
      = some deceasedPolicy := by
  rw [ruleset_personVariant, Ruleset.get?_insert, if_neg (by decide)]
  unfold personRules
  rw [Ruleset.get?_insert, if_neg (by decide), Ruleset.get?_insert, if_pos rfl]
  rfl

theorem get?_ruleset_fields :
    (personVariant q datasets allowed shape).ruleset.get? fieldsParameter
      = some (datasets.fieldPolicy shape.knownPaths (some allowed)) := by
  rw [ruleset_personVariant, Ruleset.get?_insert, if_pos rfl]

theorem fields_personVariant :
    (personVariant q datasets allowed shape).fields = some ⟨datasets, some allowed⟩ := by
  unfold personVariant
  dsimp only
  split <;> rfl

theorem distinct_personVariant : (personVariant q datasets allowed shape).ruleset.Distinct := by
  rw [ruleset_personVariant]
  exact (distinct_personRules q).insert _ _

/-- A person query admits the municipality and the flag that it fills in. -/
theorem admits_augmentations_personVariant {a : Augmentation} {value : Json}
    (ha : a ∈ (personVariant q datasets allowed shape).augmentations)
    (hvalue : a.valueFor? granted = some value) :
    (personVariant q datasets allowed shape).ruleset.Admits granted a.parameter value := by
  rw [augmentations_personVariant] at ha
  rcases List.mem_cons.mp ha with rfl | hflag
  · -- the municipality
    rw [Augmentation.eq_of_valueFor?_defaultValue hvalue]
    exact distinct_personVariant.admits (get?_ruleset_gemeente q datasets allowed shape)
      (admits_amsterdam q.locality granted)
  · -- the flag for deceased persons
    split at hflag
    · exact absurd hflag List.not_mem_nil
    · obtain rfl := List.mem_singleton.mp hflag
      obtain ⟨rfl, hscope⟩ := Augmentation.of_valueFor?_enableFlag hvalue
      exact distinct_personVariant.admits get?_ruleset_deceased (admits_deceased hscope)

/-- A person query admits what it fills in. -/
theorem fillsInAdmitted_personVariant
    (hdatasets : ∀ dataset list, datasets.group? dataset = some list → list.KnownTo shape)
    (hallowed : allowed.KnownTo shape) (granted : NameSet) :
    (personVariant q datasets allowed shape).FillsInAdmitted granted where
  augmentations := fun _ ha _ hvalue => admits_augmentations_personVariant ha hvalue
  defaults := by
    -- the defaults are fields of the held datasets, narrowed by the record type
    intro fields hfields
    rw [fields_personVariant] at hfields
    obtain rfl := Option.some.inj hfields
    refine distinct_personVariant.admits_defaults get?_ruleset_fields hdatasets fun list hlist => ?_
    obtain rfl := Option.some.inj hlist
    exact hallowed

end

/-! ## Travel document queries -/

/-- A travel document query admits what it fills in. -/
theorem fillsInAdmitted_documentVariant {q : DocumentQuery} {datasets : FieldCatalog}
    {shape : ResponseShape}
    (hdatasets : ∀ dataset list, datasets.group? dataset = some list → list.KnownTo shape)
    (granted : NameSet) : (documentVariant q datasets shape).FillsInAdmitted granted where
  augmentations := fun _ ha => absurd ha List.not_mem_nil
  defaults := by
    intro fields hfields
    obtain rfl := Option.some.inj hfields
    have hdistinct : (documentVariant q datasets shape).ruleset.Distinct :=
      ((distinct_typeRules q.name q.scope).insert _ _).insert _ _
    have hpolicy : (documentVariant q datasets shape).ruleset.get? fieldsParameter
        = some (datasets.fieldPolicy shape.knownPaths none) :=
      (Ruleset.get?_insert _ _ _ _).trans (if_pos rfl)
    exact hdistinct.admits_defaults hpolicy hdatasets fun list hlist => nomatch hlist

/-- The endpoint of travel documents is the base endpoint with the variants of all queries, and
tokens for citizen service numbers. -/
theorem exists_of_reisdocumentenEndpoint {settings : Settings} {catalog : EndpointCatalog}
    {endpoint : Endpoint} (h : reisdocumentenEndpoint settings catalog = .ok endpoint) :
    ∃ shape, catalog.shape = some shape ∧
      endpoint.variants = (documentQueries.foldl
        (fun e q => e.withVariant (documentVariant q catalog.datasets shape))
        (baseEndpoint reisdocumenten "/api/reisdocumenten/reisdocumenten" settings)).variants ∧
      endpoint.discriminator = "type" ∧ endpoint.baseScopes = Requirements.ofScope scopeBase ∧
      endpoint.tokenization = some (bsnTokenization [fieldBsn] [fieldBsn]) := by
  unfold reisdocumentenEndpoint at h
  split at h
  · cases h
  · rename_i shape hshape
    cases h
    exact ⟨shape, hshape, rfl, rfl, rfl, rfl⟩

/-! ## Both services -/

/-- The shape of a catalog knows every path of its datasets and its record types. -/
structure KnowsItsPaths (catalog : EndpointCatalog) (shape : ResponseShape) : Prop where
  /-- It knows the paths of the datasets. -/
  datasets : ∀ dataset list, catalog.datasets.group? dataset = some list → list.KnownTo shape
  /-- It knows the paths of the record types. -/
  recordTypes : ∀ name list, catalog.recordTypes.get? name = some list → list.KnownTo shape

/-- Whatever variant of persons or of travel documents: its ruleset admits what it fills in. -/
theorem fillsInAdmitted_of_built {settings : Settings} {catalog : EndpointCatalog}
    {shape : ResponseShape} {endpoint : Endpoint} {name : String} {variant : Variant}
    (hshape : catalog.shape = some shape) (hknows : KnowsItsPaths catalog shape)
    (hbuilt : personenEndpoint settings catalog = .ok endpoint ∨
      reisdocumentenEndpoint settings catalog = .ok endpoint)
    (hvariant : endpoint.variants.get? name = some variant) (granted : NameSet) :
    variant.FillsInAdmitted granted := by
  -- for either service the variant is one that its queries added
  rcases hbuilt with hpersons | hdocuments
  · obtain ⟨found, built, hfound, hadded, hvariants, -⟩ := exists_of_personenEndpoint hpersons
    obtain rfl := Option.some.inj (hshape.symm.trans hfound)
    rw [hvariants] at hvariant
    rcases get?_variants_addPersonVariants hadded hvariant with
      ⟨q, -, allowed, hallowed, rfl⟩ | hnone
    · exact fillsInAdmitted_personVariant hknows.datasets
        (hknows.recordTypes q.recordType allowed hallowed) granted
    · cases hnone
  · obtain ⟨found, hfound, hvariants, -⟩ := exists_of_reisdocumentenEndpoint hdocuments
    obtain rfl := Option.some.inj (hshape.symm.trans hfound)
    rw [hvariants] at hvariant
    rcases get?_variants_foldl_withVariant hvariant with ⟨q, -, rfl⟩ | hnone
    · exact fillsInAdmitted_documentVariant hknows.datasets granted
    · cases hnone

/-- **What the gateway fills in is never the cause of a rejection.**  Take any variant that the
endpoint of persons or of travel documents has over a catalog whose shape knows all its paths, any
caller and any payload.  Once everything is filled in, the ruleset reports the same fault as before,
if any; and otherwise the caller misses the same requirements as before. -/
theorem filled_in_never_rejected {settings : Settings} {catalog : EndpointCatalog}
    {shape : ResponseShape} {endpoint : Endpoint} {name : String} {variant : Variant}
    (hshape : catalog.shape = some shape) (hknows : KnowsItsPaths catalog shape)
    (hbuilt : personenEndpoint settings catalog = .ok endpoint ∨
      reisdocumentenEndpoint settings catalog = .ok endpoint)
    (hvariant : endpoint.variants.get? name = some variant) (granted : NameSet)
    (payload : Payload) :
    (∀ fault, variant.ruleset.requiredScopes (judgedPayload variant granted payload) = .error fault ↔
      variant.ruleset.requiredScopes payload = .error fault) ∧
    ∀ needed, variant.ruleset.requiredScopes payload = .ok needed →
      ∃ judged, variant.ruleset.requiredScopes (judgedPayload variant granted payload) = .ok judged ∧
        judged.missing granted = needed.missing granted := by
  -- the two verdicts agree but for requirements that are met
  have hfills := fillsInAdmitted_of_built hshape hknows hbuilt hvariant granted
  exact Fallible.of_map_eq_map (missing_judgedPayload hfills payload)

/-! ## A search by name -/

/-- The paths of a table are known when those of its entries are. -/
theorem knownTo_of_entries {shape : ResponseShape} {table : Table FieldList}
    (h : ∀ entry ∈ table.entries, ∀ path ∈ entry.2.entries.toList, shape.knows path = true)
    {name : String} {list : FieldList} (hlist : table.get? name = some list) : list.KnownTo shape :=
  h (name, list) (Table.get?_eq_some_iff.mp hlist)

/-- The shape of a person with a name in two forms. -/
def fullNameShape : ResponseShape where
  fields := Shape.ofMembers [("leeftijd", .number (.integer 40)), ("naam", .object
    [("geslachtsnaam", .string "Jansen"), ("volledigeNaam", .string "Jan Jansen")])]

/-- A catalog with one dataset, which grants the age and all of a name, where searches show the full
form of the name only. -/
def fullNameCatalog : EndpointCatalog where
  datasets := ⟨Table.ofList
    [("dataset-names", ⟨SortedSet.ofList ["leeftijd", "naam.*"], by decide⟩)]⟩
  shape := some fullNameShape
  recordTypes := Table.ofList
    [("Persoon", ⟨SortedSet.ofList ["naam"], by decide⟩),
     ("PersoonBeperkt", ⟨SortedSet.ofList ["naam.volledigeNaam"], by decide⟩)]

/-- A search by name. -/
def byName : String := "ZoekMetGeslachtsnaamEnGeboortedatum"

/-- What a caller sends who leaves out everything that can be filled in. -/
def byNamePayload : Payload := [("geslachtsnaam", .string "Jansen"), ("type", .string byName)]

/-- What that caller holds: the dataset and the flag's scope, and not the scope of the search. -/
def byNameScopes : NameSet := SortedSet.ofList ["dataset-names", scopeIncludeDeceased]

/-- What is filled in: the narrowed default field, the municipality and the flag. -/
def byNameJudged : Payload :=
  [("fields", .array [.string "naam.volledigeNaam"]), (parameterGemeente, .string amsterdam),
    ("geslachtsnaam", .string "Jansen"), (parameterIncludeDeceased, .bool true),
    ("type", .string byName)]

/-- Where its endpoint forwards to. -/
def byNameSettings : Settings := ⟨"https://register.example/personen", "https://gate.example"⟩

/-- The texts of what the search requires as it was sent. -/
def byNameNeeded : List String := ["benk-brp-zoekvraag-geslachtsnaam-geboortedatum"]

/-- The texts of what it requires with everything filled in. -/
def byNameJudgedNeeded : List String :=
  [scopeIncludeDeceased, "benk-brp-zoekvraag-geslachtsnaam-geboortedatum", "dataset-names"]

/-- The scope of the search is missing before and after; what is filled in asks for two scopes more,
and the caller holds both. -/
theorem filled_in_never_rejected_of_name :
    ∃ endpoint variant needed judged,
      personenEndpoint byNameSettings fullNameCatalog = .ok endpoint ∧
      endpoint.variants.get? byName = some variant ∧
      judgedPayload variant byNameScopes byNamePayload = byNameJudged ∧
      variant.ruleset.requiredScopes byNamePayload = .ok needed ∧
      needed.labels = byNameNeeded ∧
      variant.ruleset.requiredScopes byNameJudged = .ok judged ∧
      judged.labels = byNameJudgedNeeded ∧
      judged.missing byNameScopes = needed.missing byNameScopes := by
  have hknows : KnowsItsPaths fullNameCatalog fullNameShape :=
    { datasets := fun _ _ => knownTo_of_entries (by decide +kernel)
      recordTypes := fun _ _ => knownTo_of_entries (by decide +kernel) }
  have hevaluated : (personenEndpoint byNameSettings fullNameCatalog).toOption.bind
      (fun endpoint => (endpoint.variants.get? byName).map fun variant =>
        (judgedPayload variant byNameScopes byNamePayload,
          (variant.ruleset.requiredScopes byNamePayload).toOption.map Requirements.labels,
          (variant.ruleset.requiredScopes byNameJudged).toOption.map Requirements.labels))
      = some (byNameJudged, some byNameNeeded, some byNameJudgedNeeded) := by decide +kernel
  obtain ⟨endpoint, hoption, hrest⟩ := Option.bind_eq_some_iff.mp hevaluated
  obtain ⟨variant, hvariant, hsummary⟩ := Option.map_eq_some_iff.mp hrest
  have hendpoint := Fallible.eq_ok_of_toOption hoption
  obtain ⟨hjudged, hlabels⟩ := Prod.mk.inj hsummary
  obtain ⟨hneeded, hjudgedNeeded⟩ := Prod.mk.inj hlabels
  obtain ⟨needed, hsent, hsentLabels⟩ := Fallible.exists_of_toOption_map hneeded
  obtain ⟨-, hmissing⟩ := filled_in_never_rejected rfl hknows (Or.inl hendpoint) hvariant
    byNameScopes byNamePayload
  obtain ⟨judged, hfound, hsame⟩ := hmissing needed hsent
  rw [hjudged] at hfound
  rw [hfound] at hjudgedNeeded
  exact ⟨endpoint, variant, needed, judged, hendpoint, hvariant, hjudged, hsent, hsentLabels, hfound,
    Option.some.inj hjudgedNeeded, hsame⟩

end Services

end RegistryGate
