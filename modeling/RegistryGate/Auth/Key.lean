/-
  Keys that verify the signatures of bearer tokens.

  A key document lists published keys.  Each says which kind of key it is and may carry an id; what
  a key is made of stays text until a token is verified with it, so a key that cannot be decoded
  spoils only the tokens that name it.
-/
import RegistryGate.Digest.Rsa
import RegistryGate.Json.Typed
import RegistryGate.Json.Written
import RegistryGate.Text.Base64Url

namespace RegistryGate.Auth

/-! ## Algorithms -/

/-- The kinds of keys. -/
inductive KeyFamily where
  /-- A shared secret. -/
  | secret
  /-- An RSA modulus and exponent. -/
  | rsa
  /-- A point of a curve in two coordinates. -/
  | ellipticCurve
  /-- A point of an Edwards curve. -/
  | edwards
deriving DecidableEq

/-- The signature algorithms that a token may name. -/
inductive Algorithm where
  /-- Keyed hashing with SHA-256. -/
  | hs256
  /-- Keyed hashing with SHA-384. -/
  | hs384
  /-- Keyed hashing with SHA-512. -/
  | hs512
  /-- RSA with PKCS #1 v1.5 padding and SHA-256. -/
  | rs256
  /-- RSA with PKCS #1 v1.5 padding and SHA-384. -/
  | rs384
  /-- RSA with PKCS #1 v1.5 padding and SHA-512. -/
  | rs512
  /-- RSA with probabilistic padding and SHA-256. -/
  | ps256
  /-- RSA with probabilistic padding and SHA-384. -/
  | ps384
  /-- RSA with probabilistic padding and SHA-512. -/
  | ps512
  /-- The curve P-256 with SHA-256. -/
  | es256
  /-- The curve P-384 with SHA-384. -/
  | es384
  /-- The Edwards curve of Curve25519. -/
  | edDsa
deriving DecidableEq

namespace Algorithm

/-- The name of an algorithm in tokens and settings. -/
def name : Algorithm → String
  | hs256 => "HS256"
  | hs384 => "HS384"
  | hs512 => "HS512"
  | rs256 => "RS256"
  | rs384 => "RS384"
  | rs512 => "RS512"
  | ps256 => "PS256"
  | ps384 => "PS384"
  | ps512 => "PS512"
  | es256 => "ES256"
  | es384 => "ES384"
  | edDsa => "EdDSA"

/-- Every algorithm. -/
def all : List Algorithm :=
  [hs256, hs384, hs512, rs256, rs384, rs512, ps256, ps384, ps512, es256, es384, edDsa]

/-- The algorithm of a name, in exactly its spelling. -/
def ofName? (text : String) : Option Algorithm := all.find? fun a => a.name == text

/-- The kind of key that an algorithm needs. -/
def family : Algorithm → KeyFamily
  | hs256 | hs384 | hs512 => .secret
  | rs256 | rs384 | rs512 | ps256 | ps384 | ps512 => .rsa
  | es256 | es384 => .ellipticCurve
  | edDsa => .edwards

end Algorithm

/-! ## Published keys -/

/-- What a published key is made of, as its texts. -/
inductive KeyMaterial where
  /-- Modulus and exponent. -/
  | rsa (modulus exponent : String)
  /-- A shared secret. -/
  | secret (value : String)
  /-- The coordinates of a curve point. -/
  | ellipticCurve (x y : String)
  /-- A point of an Edwards curve. -/
  | edwards (x : String)
deriving DecidableEq

/-- One published key. -/
structure PublishedKey where
  /-- The id by which a token names the key. -/
  id : Option String
  /-- What the key is made of. -/
  material : KeyMaterial
deriving DecidableEq

/-- The keys of a key document, in its order. -/
structure KeySet where
  /-- The keys. -/
  keys : List PublishedKey
deriving DecidableEq

/-- The curves that a key document may name. -/
def curveNames : List String := ["P-256", "P-384", "P-521", "Ed25519"]

/-- The algorithms that a key document may name, some of them for encryption. -/
def keyAlgorithmNames : List String :=
  Algorithm.all.map Algorithm.name ++ ["RSA1_5", "RSA-OAEP", "RSA-OAEP-256"]

/-- A word that is one of the names. -/
def asNameOf? (names : List String) (isNothing : Json → Bool) (value : Json) : Option String :=
  (value.asWord? isNothing).filter names.contains

namespace KeyMaterial

/-- Reads what a key is made of; none when its kind is not known, or a part of it is missing or
stands there twice. -/
def ofEntries? (entries : List (String × Json)) : Option KeyMaterial := do
  let ms := Members.ofList entries
  let part := fun name =>
    if Json.noneRepeated [name] entries then Json.required? Json.asString? name ms else none
  let curve := if Json.noneRepeated ["crv"] entries then
    Json.required? (asNameOf? curveNames Json.isNull) "crv" ms else none
  if !Json.noneRepeated ["kty"] entries then none
  else
    match ← Json.required? (Json.asWord? Json.isNull) "kty" ms with
    | "RSA" => some (.rsa (← part "n") (← part "e"))
    | "oct" => some (.secret (← part "k"))
    | "EC" => do
      -- the curve has to be a known one, and nothing else is done with it
      let _ ← curve
      some (.ellipticCurve (← part "x") (← part "y"))
    | "OKP" => do
      let _ ← curve
      some (.edwards (← part "x"))
    | _ => none

end KeyMaterial

namespace PublishedKey

/-- The members that keys of all kinds may have. -/
def commonNames : List String :=
  ["kid", "use", "alg", "x5u", "x5t", "x5t#S256", "key_ops", "x5c"]

/-- Holds of the values that say nothing about an algorithm. -/
def isNothing (value : Json) : Bool := value == .null || value == .object []

/-- Holds when what a key says about its use is of the right kind; it is otherwise of no account. -/
def describes (ms : Members Json) : Bool :=
  (["use", "x5u", "x5t", "x5t#S256"].all fun name =>
    (Json.optional? Json.asString? name ms).isSome)
  && (["key_ops", "x5c"].all fun name => (Json.optional? Json.asTexts? name ms).isSome)
  && (Json.optional? (asNameOf? keyAlgorithmNames isNothing) "alg" ms).isSome

/-- Reads a published key from its entries. -/
def ofEntries? (entries : List (String × Json)) : Option PublishedKey := do
  let ms := Members.ofList entries
  let id ← Json.optional? Json.asString? "kid" ms
  let material ← KeyMaterial.ofEntries? entries
  if Json.noneRepeated commonNames entries && describes ms then some ⟨id, material⟩ else none

/-- Reads a published key from its written form. -/
def ofWritten? (depth : Nat) (form : Json.Written) : Option PublishedKey :=
  (form.text?.bind (Json.parseEntries? depth)).bind ofEntries?

end PublishedKey

namespace KeySet

/-- Reads a key document: a record with a list of keys of known kinds. -/
def parse? (text : String) : Option KeySet := do
  let forms ← Json.Written.record? ["keys"] 1 (.ofText text)
  let items ← (← Members.get? "keys" forms).items?
  return ⟨← items.mapM (PublishedKey.ofWritten? (Json.maxDepth - 2))⟩

/-- The first key of an id. -/
def find? (set : KeySet) (id : String) : Option PublishedKey :=
  set.keys.find? fun key => key.id == some id

end KeySet

/-! ## Keys for use -/

/-- A key that was decoded. -/
inductive VerifyingKey where
  /-- An RSA key. -/
  | rsa (key : Digest.RsaKey)
  /-- A shared secret. -/
  | secret (bytes : List UInt8)
  /-- A curve point. -/
  | ellipticCurve (x y : List UInt8)
  /-- A point of an Edwards curve. -/
  | edwards (x : List UInt8)
deriving DecidableEq

/-- The kind of a decoded key. -/
def VerifyingKey.family : VerifyingKey → KeyFamily
  | rsa _ => .rsa
  | secret _ => .secret
  | ellipticCurve _ _ => .ellipticCurve
  | edwards _ => .edwards

/-- Decodes a key, all of whose parts are in URL-safe base64 without padding. -/
def KeyMaterial.decode? : KeyMaterial → Option VerifyingKey
  | .rsa n e => do
    return .rsa ⟨← Text.Base64Url.decode? n, ← Text.Base64Url.decode? e⟩
  | .secret value => do
    return .secret (← Text.Base64Url.decode? value)
  | .ellipticCurve x y => do
    return .ellipticCurve (← Text.Base64Url.decode? x) (← Text.Base64Url.decode? y)
  | .edwards x => do
    return .edwards (← Text.Base64Url.decode? x)

end RegistryGate.Auth
