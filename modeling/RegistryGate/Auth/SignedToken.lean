/-
  Signed tokens.

  A token has three parts with dots between them: a header, claims and a signature, each in URL-safe
  base64.  The signature covers the text of the first two parts.  `SignedToken.read?` takes a token
  apart and reads its header; nothing in it is to be believed before `verify` has passed, and the
  claims are not even decoded before that.
-/
import RegistryGate.Auth.Key
import RegistryGate.Digest.Hmac
import RegistryGate.Text.Split
import RegistryGate.Text.Utf8

namespace RegistryGate.Auth

/-! ## Headers -/

/-- What a header says about its signature. -/
structure TokenHeader where
  /-- The signature algorithm. -/
  algorithm : Algorithm
  /-- The id of the key. -/
  keyId : Option String
deriving DecidableEq

/-- The members of a header that count, in the order in which a list of them has them. -/
def headerNames : List String :=
  ["typ", "alg", "cty", "jku", "jwk", "kid", "x5u", "x5c", "x5t", "x5t#S256"]

/-- The members of a header that are text, where they are there. -/
def headerTexts : List String := ["typ", "cty", "jku", "kid", "x5u", "x5t", "x5t#S256"]

/-- Holds when a header's own key, which is of no account, is a key. -/
def describesKey (form : Json.Written) : Bool :=
  let depth := Json.maxDepth - 1
  form.read? depth == some .null || (PublishedKey.ofWritten? depth form).isSome

/-- Reads a header: every known member is of its kind and is there once. -/
def TokenHeader.parse? (bytes : List UInt8) : Option TokenHeader := do
  let forms ← Json.Written.record? headerNames headerNames.length (.ofBytes bytes)
  let ms ← Json.Written.members? (Json.maxDepth - 1) forms
  let algorithm ←
    (← Json.required? (Json.asWord? Json.isNull) "alg" ms) |> Algorithm.ofName?
  let keyId ← Json.optional? Json.asString? "kid" ms
  let described := (headerTexts.all fun name => (Json.optional? Json.asString? name ms).isSome)
    && (Json.optional? Json.asTexts? "x5c" ms).isSome
    && (Members.get? "jwk" forms).all describesKey
  if described then some ⟨algorithm, keyId⟩ else none

/-! ## Tokens -/

/-- A token in its parts. -/
structure SignedToken where
  /-- The header. -/
  header : TokenHeader
  /-- The text that is signed: the first two parts with their dot. -/
  message : String
  /-- The claims part, as it is written. -/
  claims : String
  /-- The signature part, as it is written. -/
  signature : String
deriving DecidableEq

namespace SignedToken

/-- Takes a token apart at its last two dots and reads its header. -/
def read? (text : String) : Option SignedToken := do
  let (message, signature) ← Text.splitLast? '.' text
  let (head, claims) ← Text.splitLast? '.' message
  let bytes ← Text.Base64Url.decode? head
  let header ← TokenHeader.parse? bytes
  return ⟨header, message, claims, signature⟩

/-! ## Signatures -/

/-- Why a signature is refused. -/
inductive SignatureFault where
  /-- The key is of another kind than the algorithm needs. -/
  | wrongFamily
  /-- The signature is no base64 text. -/
  | encoding
  /-- The signature is not the key's. -/
  | mismatch
deriving DecidableEq

/-- The keyed hash of an algorithm with a shared secret. -/
def secretHash? : Algorithm → Option (List UInt8 → List UInt8 → List UInt8)
  | .hs256 => some (Digest.hmac Digest.sha256 64)
  | .hs384 => some (Digest.hmac Digest.sha384 128)
  | .hs512 => some (Digest.hmac Digest.sha512 128)
  | _ => none

/-- The digest of an RSA algorithm with PKCS #1 v1.5 padding. -/
def rsaDigest? : Algorithm → Option Digest.SignatureDigest
  | .rs256 => some Digest.signatureSha256
  | .rs384 => some Digest.signatureSha384
  | .rs512 => some Digest.signatureSha512
  | _ => none

/-- Tells of an algorithm, a key, a message and a decoded signature whether the signature is the
key's.  Only RSA with PKCS #1 v1.5 padding is computed here; a verifier may bring its own check for
the other kinds. -/
abbrev SignatureCheck := Algorithm → VerifyingKey → List UInt8 → List UInt8 → Bool

/-- The check that accepts no signatures but those that are computed here. -/
def accepts : SignatureCheck := fun algorithm key message signature =>
  match key, rsaDigest? algorithm with
  | .rsa key, some digest => key.verifies digest message signature
  | _, _ => false

/-- Passes when the signature is the key's.  A shared secret's signature is compared as it is
written, all others are decoded and checked. -/
def verify (check : SignatureCheck) (token : SignedToken) (key : VerifyingKey) :
    Except SignatureFault Unit :=
  let algorithm := token.header.algorithm
  let message := Text.Utf8.encode token.message
  if key.family = algorithm.family then
    match key, secretHash? algorithm with
    | .secret secret, some hash =>
      if Text.Base64Url.encode (hash secret message) = token.signature then .ok ()
      else .error .mismatch
    | _, _ =>
      match Text.Base64Url.decode? token.signature with
      | none => .error .encoding
      | some signature =>
        if check algorithm key message signature then .ok () else .error .mismatch
  else .error .wrongFamily

end SignedToken

end RegistryGate.Auth
