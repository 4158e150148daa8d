/-
  Shaping a request before it is forwarded.

  The parameters that the caller left out are filled in, the identifying fields that the audit
  record needs are added to the requested ones, and tokens are put back into identifiers.
-/
import RegistryGate.Endpoint.Basic
import RegistryGate.Token.Cipher

namespace RegistryGate.Proxy

open Token (Cipher TokenError)

/-! ## Requested fields -/

/-- How the `fields` parameter came about. -/
inductive FieldResolution where
  /-- The variant has no such parameter. -/
  | notApplicable
  /-- The caller sent it. -/
  | explicit
  /-- It was filled in with the caller's fields. -/
  | defaulted (fields : List String)
  /-- The caller holds no dataset that grants a field of the variant. -/
  | noDataset
deriving DecidableEq

/-- Fills in the `fields` parameter where the caller sent none. -/
def resolveFields (variant : Variant) (granted : NameSet) (payload : Payload) :
    FieldResolution × Payload :=
  match variant.fields with
  | none => (.notApplicable, payload)
  | some fields =>
    if payload.contains fieldsParameter then (.explicit, payload)
    else
      match fields.defaults granted with
      | [] => (.noDataset, payload)
      | defaults =>
        (.defaulted defaults, payload.insert fieldsParameter (Json.ofStrings defaults))

/-- The texts in the `fields` parameter. -/
def requestedFields (payload : Payload) : List String :=
  match Members.get? fieldsParameter payload with
  | some (.array items) => items.filterMap Json.asString?
  | some (.string single) => [single]
  | _ => []

/-- The identifying fields of a variant that a request does not ask for. -/
def identifiersToInsert (variant : Variant) (payload : Payload) : List String :=
  if variant.fields.isNone then []
  else
    variant.insertedIdentifiers.filter fun field => !(requestedFields payload).contains field

/-- Adds the identifying fields that are not requested; also lists them. -/
def insertIdentifiers (variant : Variant) (payload : Payload) : List String × Payload :=
  match identifiersToInsert variant payload with
  | [] => ([], payload)
  | inserted =>
    let fields := Json.ofStrings (requestedFields payload ++ inserted)
    (inserted, payload.insert fieldsParameter fields)

/-! ## Tokens in requests -/

/-- Why a caller with tokens is turned away. -/
inductive TokenDenial where
  /-- The caller sent no correlation id. -/
  | missingCorrelation
  /-- An identifier was sent as it is, without the scope for that. -/
  | rawIdentifier (parameter : String)
  /-- A token does not fit the correlation id. -/
  | undecryptable (parameter : String) (reason : TokenError)
deriving DecidableEq

/-- The text of a token denial. -/
def TokenDenial.message : TokenDenial → String
  | missingCorrelation => "tokenized identifiers require a correlation id"
  | rawIdentifier parameter => "raw " ++ parameter ++ " used without the raw identifier scope"
  | undecryptable parameter reason =>
    "cannot decrypt " ++ parameter ++ " in this correlation context: " ++ reason.message

/-- Holds of a text that looks like an identifier: digits only. -/
def looksRaw (text : String) : Bool := !text.isEmpty && text.toList.all Char.isDigit

/-- The identifier that a text stands for: what its token hides, or the text itself where raw
identifiers are allowed. -/
def detokenize (cipher : Cipher) (allowRaw : Bool) (correlation parameter text : String) :
    Except TokenDenial String :=
  match cipher.decrypt text correlation with
  | .ok identifier => .ok identifier
  | .error reason =>
    if looksRaw text then
      if allowRaw then .ok text else .error (.rawIdentifier parameter)
    else .error (.undecryptable parameter reason)

/-- What became of a value whose tokens were put back: the value as far as it was changed, and the
denial that ended the change, if any. -/
abbrev Detokenized (α : Type) := α × Option TokenDenial

/-- Puts the tokens of list items back, from the first to the last. -/
def detokenizeItems (replace : String → Except TokenDenial String) :
    List Json → Detokenized (List Json)
  | [] => ([], none)
  | .string text :: rest =>
    match replace text with
    | .error denial => (.string text :: rest, some denial)
    | .ok identifier =>
      let (rest, denial) := detokenizeItems replace rest
      (.string identifier :: rest, denial)
  | item :: rest =>
    let (rest, denial) := detokenizeItems replace rest
    (item :: rest, denial)

/-- Puts the tokens of a parameter's value back. -/
def detokenizeValue (replace : String → Except TokenDenial String) : Json → Detokenized Json
  | .string text =>
    match replace text with
    | .error denial => (.string text, some denial)
    | .ok identifier => (.string identifier, none)
  | .array items =>
    let (items, denial) := detokenizeItems replace items
    (.array items, denial)
  | value => (value, none)

/-- Puts the tokens of the listed parameters back, in order. -/
def detokenizeParameters (cipher : Cipher) (allowRaw : Bool) (correlation : String) :
    List String → Payload → Detokenized Payload
  | [], payload => (payload, none)
  | parameter :: rest, payload =>
    match Members.get? parameter payload with
    | none => detokenizeParameters cipher allowRaw correlation rest payload
    | some value =>
      match detokenizeValue (detokenize cipher allowRaw correlation parameter) value with
      | (value, none) =>
        detokenizeParameters cipher allowRaw correlation rest (payload.insert parameter value)
      | (value, some denial) => (payload.insert parameter value, some denial)

/-- Puts the tokens of a request back, as the endpoint's rule says. -/
def detokenizeRequest (rule : TokenizationRule) (cipher : Cipher) (granted : NameSet)
    (correlation : String) (payload : Payload) : Detokenized Payload :=
  detokenizeParameters cipher (granted.contains rule.rawInputScope) correlation rule.parameters
    payload

end RegistryGate.Proxy
