/-
  Endpoints: what the gateway forwards, and on which terms.

  An endpoint has one variant per kind of query.  The request names the variant in its
  discriminator; the variant says which parameters may be sent, what is filled in before they are
  judged, and which fields its records have.
-/
import RegistryGate.Policy.Ruleset
import RegistryGate.Field.Catalog
import RegistryGate.Shape

namespace RegistryGate

/-- The parameter that lists the requested fields. -/
def fieldsParameter : String := "fields"

/-! ## Filling in parameters -/

/-- A parameter that is filled in before the request is judged, if the caller did not send it. -/
inductive Augmentation where
  /-- A value for every caller but those who hold `unlessScope`. -/
  | defaultValue (parameter : String) (value : Json) (unlessScope : Option String)
  /-- The value `true` for callers who hold `scope`. -/
  | enableFlag (parameter scope : String)

namespace Augmentation

/-- The parameter that is filled in. -/
def parameter : Augmentation → String
  | defaultValue parameter _ _ => parameter
  | enableFlag parameter _ => parameter

/-- The value to fill in for a caller, if any. -/
def valueFor? (granted : NameSet) : Augmentation → Option Json
  | defaultValue _ value unlessScope =>
    if unlessScope.any granted.contains then none else some value
  | enableFlag _ scope => if granted.contains scope then some (.bool true) else none

/-- Fills in the parameter, unless the request has it already. -/
def apply (granted : NameSet) (request : Payload) (a : Augmentation) : Payload :=
  match a.valueFor? granted with
  | some value =>
    if request.contains a.parameter then request else request.insert a.parameter value
  | none => request

end Augmentation

/-! ## Variants -/

/-- The fields that a variant's records have. -/
structure VariantFields where
  /-- The datasets of the endpoint. -/
  catalog : FieldCatalog
  /-- The fields of the record type; without a list every field. -/
  allowed : Option FieldList

/-- The fields of a caller who asks for none in particular. -/
def VariantFields.defaults (fields : VariantFields) (granted : NameSet) : List String :=
  fields.catalog.defaultFields granted fields.allowed

/-- One kind of query. -/
structure Variant where
  /-- The discriminator's value that selects the variant. -/
  name : String
  /-- The policies of its parameters, the discriminator included. -/
  ruleset : Ruleset
  /-- What is filled in before the request is judged, in order. -/
  augmentations : List Augmentation
  /-- The fields of its records; none when it has no `fields` parameter. -/
  fields : Option VariantFields
  /-- The identifying fields that are requested for the audit record. -/
  insertedIdentifiers : List String

namespace Variant

/-- A variant with a ruleset and nothing else. -/
def ofRuleset (name : String) (ruleset : Ruleset) : Variant := ⟨name, ruleset, [], none, []⟩

/-- Adds something to fill in. -/
def withAugmentation (v : Variant) (a : Augmentation) : Variant :=
  { v with augmentations := v.augmentations ++ [a] }

/-- Gives the variant a `fields` parameter, whose policy follows from the datasets, the record type
and the response shape. -/
def withFields (v : Variant) (catalog : FieldCatalog) (allowed : Option FieldList)
    (shape : ResponseShape) : Variant :=
  { v with
    ruleset := v.ruleset.insert fieldsParameter (catalog.fieldPolicy shape.knownPaths allowed)
    fields := some ⟨catalog, allowed⟩ }

/-- Sets the identifying fields that are requested for the audit record. -/
def withInsertedIdentifiers (v : Variant) (fields : List String) : Variant :=
  { v with insertedIdentifiers := fields }

/-- Fills in what the caller did not send. -/
def augment (v : Variant) (granted : NameSet) (request : Payload) : Payload :=
  v.augmentations.foldl (Augmentation.apply granted) request

end Variant

/-! ## Endpoints -/

/-- The rule that hides confidential records. -/
structure ConfidentialityRule where
  /-- The field that marks a record as confidential. -/
  markerField : String
  /-- The scope that lets confidential records through. -/
  overrideScope : String
deriving DecidableEq

/-- The rule that replaces identifiers by tokens. -/
structure TokenizationRule where
  /-- The scope whose holders get tokens for identifiers. -/
  scope : String
  /-- The scope that lets such a caller send identifiers as they are. -/
  rawInputScope : String
  /-- The response fields that are replaced, at any depth. -/
  fields : List String
  /-- The request parameters whose tokens are put back. -/
  parameters : List String
deriving DecidableEq

/-- One forwarded endpoint. -/
structure Endpoint where
  /-- The short name in audit records. -/
  service : String
  /-- Where requests are forwarded to. -/
  registerUrl : String
  /-- The path that the gateway serves. -/
  publicPath : String
  /-- What replaces `registerUrl` in the links of an answer. -/
  publicUrl : String
  /-- What every request requires. -/
  baseScopes : Requirements
  /-- The parameter that selects the variant. -/
  discriminator : String
  /-- The variants under their names. -/
  variants : Table Variant
  /-- The member of an answer that lists the records. -/
  recordsKey : Option String
  /-- The shape of a record, for completing records. -/
  shape : Option ResponseShape
  /-- How confidential records are hidden. -/
  confidentiality : Option ConfidentialityRule
  /-- How identifiers are replaced by tokens. -/
  tokenization : Option TokenizationRule
  /-- The record fields that the audit record names. -/
  auditIdentifiers : List String

namespace Endpoint

/-- An endpoint without variants, whose links point to its own path. -/
def ofService (service registerUrl publicPath : String) (baseScopes : Requirements) : Endpoint where
  service := service
  registerUrl := registerUrl
  publicPath := publicPath
  publicUrl := publicPath
  baseScopes := baseScopes
  discriminator := "type"
  variants := .empty
  recordsKey := none
  shape := none
  confidentiality := none
  tokenization := none
  auditIdentifiers := []

/-- Adds a variant under its name. -/
def withVariant (e : Endpoint) (v : Variant) : Endpoint :=
  { e with variants := e.variants.insert v.name v }

/-- The variant that a request names. -/
def select (e : Endpoint) (request : Payload) : Except PolicyError Variant :=
  match Members.get? e.discriminator request with
  | none => .error (.missingParameter e.discriminator)
  | some value =>
    match value.scalarText?.bind e.variants.get? with
    | some variant => .ok variant
    | none => .error (.unsupportedValue e.discriminator [value.displayText])

end Endpoint

/-- What is read from the catalog directory for one endpoint. -/
structure EndpointCatalog where
  /-- The datasets. -/
  datasets : FieldCatalog
  /-- The shape of a record, if there is one. -/
  shape : Option ResponseShape
  /-- The field lists of the record types, under their names. -/
  recordTypes : Table FieldList

end RegistryGate
