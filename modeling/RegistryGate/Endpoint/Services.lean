/-
  The four services of the population register.

  Persons, occupancy, residence history and travel documents: their query kinds, the parameters of
  each, the scopes that go with them, and how their records are treated.  Every parameter that may
  be sent is named, so that no flag that is not listed can widen access.

  A person query is bound to the municipality of Amsterdam.  Kinds with `Locality.nationwide` may go
  beyond it with the nationwide scope; kinds with `Locality.amsterdamOnly` never do.
-/
import RegistryGate.Endpoint.Basic

namespace RegistryGate.Services

/-! ## Names and scopes -/

/-- The municipality code of Amsterdam. -/
def amsterdam : String := "0363"

/-- Required by every endpoint. -/
def scopeBase : String := "benk-brp-api"
/-- Lifts the binding to Amsterdam. -/
def scopeNationwide : String := "benk-brp-landelijk"
/-- Lets searches include deceased persons. -/
def scopeIncludeDeceased : String := "benk-brp-inclusief-overledenen"
/-- Lets confidential records through. -/
def scopeAllowConfidential : String := "benk-brp-inclusief-geheim"
/-- Replaces citizen service numbers by tokens. -/
def scopeEncryptBsn : String := "benk-brp-encrypt-bsn"
/-- Lets a caller with tokens send a citizen service number as it is. -/
def scopeRawBsn : String := "benk-brp-bsn-onversleuteld"
/-- Lets searches filter on persons abroad. -/
def scopeAbroad : String := "benk-brp-in-buitenland"
/-- Lets searches go by citizen service number. -/
def scopeSearchBsn : String := "benk-brp-zoekvraag-bsn"

/-- The service of persons. -/
def personen : String := "personen"
/-- The service of occupancy. -/
def bewoningen : String := "bewoningen"
/-- The service of residence history. -/
def verblijfplaatshistorie : String := "verblijfplaatshistorie"
/-- The service of travel documents. -/
def reisdocumenten : String := "reisdocumenten"

/-- The citizen service number. -/
def fieldBsn : String := "burgerservicenummer"
/-- The administration number. -/
def fieldANummer : String := "aNummer"
/-- The filter on the municipality. -/
def parameterGemeente : String := "gemeenteVanInschrijving"
/-- The flag that includes deceased persons. -/
def parameterIncludeDeceased : String := "inclusiefOverledenPersonen"

/-- The person search parameters that require no scope of their own. -/
def openPersonParameters : List String :=
  ["geboortedatum", "geslachtsnaam", "geslacht", "voorvoegsel", "voornamen", "straat",
   "huisletter", "huisnummer", "huisnummertoevoeging", "postcode",
   "nummeraanduidingIdentificatie", "adresseerbaarObjectIdentificatie"]

/-- How far a person query reaches. -/
inductive Locality where
  /-- Amsterdam, and with the nationwide scope any municipality. -/
  | nationwide
  /-- Amsterdam only. -/
  | amsterdamOnly
deriving DecidableEq

/-- A kind of person query. -/
structure PersonQuery where
  /-- Its name, the value of the discriminator. -/
  name : String
  /-- The scope that it requires. -/
  scope : String
  /-- How far it reaches. -/
  locality : Locality
  /-- Set for the kind that consults one person instead of searching. -/
  consult : Bool

/-- The kinds of person queries. -/
def personQueries : List PersonQuery :=
  [⟨"RaadpleegMetBurgerservicenummer", scopeSearchBsn, .nationwide, true⟩,
   ⟨"ZoekMetGeslachtsnaamEnGeboortedatum", "benk-brp-zoekvraag-geslachtsnaam-geboortedatum",
    .nationwide, false⟩,
   ⟨"ZoekMetNaamEnGemeenteVanInschrijving", "benk-brp-zoekvraag-naam-gemeente",
    .amsterdamOnly, false⟩,
   ⟨"ZoekMetAdresseerbaarObjectIdentificatie", "benk-brp-zoekvraag-adresseerbaar-object",
    .amsterdamOnly, false⟩,
   ⟨"ZoekMetNummeraanduidingIdentificatie", "benk-brp-zoekvraag-nummeraanduiding",
    .amsterdamOnly, false⟩,
   ⟨"ZoekMetPostcodeEnHuisnummer", "benk-brp-zoekvraag-postcode-huisnummer",
    .amsterdamOnly, false⟩,
   ⟨"ZoekMetStraatHuisnummerEnGemeenteVanInschrijving",
    "benk-brp-zoekvraag-straatnaam-huisnummer", .amsterdamOnly, false⟩]

/-- The record type that a query answers with. -/
def PersonQuery.recordType (q : PersonQuery) : String :=
  if q.consult then "Persoon" else "PersoonBeperkt"

/-! ## Building endpoints -/

/-- Where an endpoint forwards to and how it is reached. -/
structure Settings where
  /-- The URL that requests are forwarded to. -/
  registerUrl : String
  /-- What precedes the public path in links. -/
  publicBaseUrl : String

/-- An endpoint with the base scope and its public URL. -/
def baseEndpoint (service publicPath : String) (settings : Settings) : Endpoint :=
  { Endpoint.ofService service settings.registerUrl publicPath (Requirements.ofScope scopeBase) with
    publicUrl := Text.trimEnd '/' settings.publicBaseUrl ++ publicPath }

/-- The ruleset that knows the discriminator with one value. -/
def typeRules (name scope : String) : Ruleset :=
  Ruleset.empty.insert "type" (ParameterPolicy.empty.withValue name scope)

/-- Adds parameters that require nothing. -/
def withOpenParameters (rules : Ruleset) (parameters : List String) : Ruleset :=
  parameters.foldl (fun rs p => rs.insert p .allowAll) rules

/-- The values of the municipality filter. -/
def gemeentePolicy : Locality → ParameterPolicy
  | .nationwide =>
    (ParameterPolicy.empty.allowValue amsterdam).withFallback (Requirements.ofScope scopeNationwide)
  | .amsterdamOnly => ParameterPolicy.empty.allowValue amsterdam

/-- The ruleset of a person query. -/
def personRules (q : PersonQuery) : Ruleset :=
  let rules := withOpenParameters (typeRules q.name q.scope) openPersonParameters
  let rules := rules.insert "verblijfplaats" (.forAllValues scopeAbroad)
  let rules := rules.insert fieldBsn (.forAllValues scopeSearchBsn)
  let rules := rules.insert parameterIncludeDeceased
    ((ParameterPolicy.empty.withValue "true" scopeIncludeDeceased).allowValue "false")
  rules.insert parameterGemeente (gemeentePolicy q.locality)

/-- The scope that lifts the filter on Amsterdam, if any does. -/
def Locality.liftedBy : Locality → Option String
  | nationwide => some scopeNationwide
  | amsterdamOnly => none

/-- The variant of a person query. -/
def personVariant (q : PersonQuery) (datasets : FieldCatalog) (allowed : FieldList)
    (shape : ResponseShape) : Variant :=
  let base := Variant.ofRuleset q.name (personRules q)
  let filtered :=
    base.withAugmentation (.defaultValue parameterGemeente (.string amsterdam) q.locality.liftedBy)
  let v := filtered.withFields datasets (some allowed) shape
  if q.consult then v.withInsertedIdentifiers [fieldANummer, fieldBsn]
  else
    (v.withAugmentation (.enableFlag parameterIncludeDeceased scopeIncludeDeceased)
      ).withInsertedIdentifiers [fieldBsn]

/-- The rule that replaces citizen service numbers by tokens. -/
def bsnTokenization (fields parameters : List String) : TokenizationRule :=
  ⟨scopeEncryptBsn, scopeRawBsn, fields, parameters⟩

/-- Adds the variants of the listed person queries; each needs its record type. -/
def addPersonVariants (catalog : EndpointCatalog) (shape : ResponseShape) :
    List PersonQuery → Endpoint → Except CatalogFault Endpoint
  | [], e => .ok e
  | q :: rest, e =>
    match catalog.recordTypes.get? q.recordType with
    | none => .error (.missingRecordType q.recordType)
    | some allowed =>
      addPersonVariants catalog shape rest
        (e.withVariant (personVariant q catalog.datasets allowed shape))

/-- The endpoint of persons. -/
def personenEndpoint (settings : Settings) (catalog : EndpointCatalog) :
    Except CatalogFault Endpoint :=
  match catalog.shape with
  | none => .error (.missingShape personen)
  | some shape => do
    let base := baseEndpoint personen "/api/brp/personen" settings
    let e ← addPersonVariants catalog shape personQueries base
    return { e with
      recordsKey := some "personen"
      shape := some shape
      confidentiality := some ⟨"geheimhoudingPersoonsgegevens", scopeAllowConfidential⟩
      tokenization := some (bsnTokenization [fieldBsn] [fieldBsn])
      auditIdentifiers := [fieldANummer, fieldBsn] }

/-- A variant with one typed discriminator and parameters that require nothing. -/
def openVariant (name scope : String) (parameters : List String) : Variant :=
  Variant.ofRuleset name (withOpenParameters (typeRules name scope) parameters)

/-- The endpoint of occupancy. -/
def bewoningenEndpoint (settings : Settings) : Endpoint :=
  let parameters := ["adresseerbaarObjectIdentificatie", "peildatum", "datumVan", "datumTot"]
  let e := ["BewoningMetPeildatum", "BewoningMetPeriode"].foldl
    (fun e name => e.withVariant (openVariant name "benk-brp-zoekvraag-bewoning" parameters))
    (baseEndpoint bewoningen "/api/brp/bewoningen" settings)
  { e with recordsKey := some "bewoningen" }

/-- The endpoint of residence history. -/
def verblijfplaatshistorieEndpoint (settings : Settings) : Endpoint :=
  let parameters := [fieldBsn, "peildatum", "datumVan", "datumTot"]
  let e := ["RaadpleegMetPeildatum", "RaadpleegMetPeriode"].foldl
    (fun e name =>
      e.withVariant (openVariant name "benk-brp-zoekvraag-verblijfplaatshistorie" parameters))
    (baseEndpoint verblijfplaatshistorie "/api/brp/verblijfplaatshistorie" settings)
  { e with
    recordsKey := some "verblijfplaatsen"
    tokenization := some (bsnTokenization [] [fieldBsn]) }

/-- A kind of travel document query. -/
structure DocumentQuery where
  /-- Its name, the value of the discriminator. -/
  name : String
  /-- The scope that it requires. -/
  scope : String
  /-- The parameter that it searches by. -/
  parameter : String

/-- The kinds of travel document queries. -/
def documentQueries : List DocumentQuery :=
  [⟨"RaadpleegMetReisdocumentnummer", "benk-brp-zoekvraag-reisdocumentnummer",
    "reisdocumentnummer"⟩,
   ⟨"ZoekMetBurgerservicenummer", "benk-brp-zoekvraag-reisdocument-bsn", fieldBsn⟩]

/-- The variant of a travel document query. -/
def documentVariant (q : DocumentQuery) (datasets : FieldCatalog) (shape : ResponseShape) :
    Variant :=
  let rules := (typeRules q.name q.scope).insert q.parameter (.forAllValues q.scope)
  (Variant.ofRuleset q.name rules).withFields datasets none shape

/-- The endpoint of travel documents. -/
def reisdocumentenEndpoint (settings : Settings) (catalog : EndpointCatalog) :
    Except CatalogFault Endpoint :=
  match catalog.shape with
  | none => .error (.missingShape reisdocumenten)
  | some shape =>
    let e := documentQueries.foldl
      (fun e q => e.withVariant (documentVariant q catalog.datasets shape))
      (baseEndpoint reisdocumenten "/api/reisdocumenten/reisdocumenten" settings)
    .ok { e with
      recordsKey := some "reisdocumenten"
      shape := some shape
      tokenization := some (bsnTokenization [fieldBsn] [fieldBsn])
      auditIdentifiers := ["houder." ++ fieldBsn] }

end RegistryGate.Services
