/-
  Who sent a request.

  The verifier takes the bearer token out of the authorization header, finds the key that the token
  names, checks the signature and only then looks at the claims: the token must not have expired,
  and must come from and be for the configured parties.  The caller and the scopes are taken from
  two claims of choice.
-/
import RegistryGate.Auth.Claims
import RegistryGate.Proxy.Pipeline
import RegistryGate.Text.Ascii

namespace RegistryGate.Auth

/-! ## Errors -/

/-- What is wrong with a token. -/
inductive TokenFault where
  /-- The header carries something else than a bearer token. -/
  | notBearer
  /-- The token's header cannot be read. -/
  | malformedHeader
  /-- The token's algorithm is not configured. -/
  | algorithmNotAccepted
  /-- No key has the id that the token names. -/
  | unknownKeyId
  /-- The token names no key and there is not just one. -/
  | missingKeyId
  /-- The key cannot be decoded. -/
  | unusableKey
  /-- The key is of another kind than the algorithm needs. -/
  | wrongKeyFamily
  /-- The signature or the claims are no base64 text. -/
  | notBase64Url
  /-- The signature is not the key's. -/
  | badSignature
  /-- The claims cannot be read. -/
  | unreadableClaims
  /-- The claims say no time at which the token expires. -/
  | missingExpiry
  /-- The token has expired. -/
  | expired
  /-- The token is from another party than the configured one. -/
  | wrongIssuer
  /-- The token is for other parties than the configured one. -/
  | wrongAudience
  /-- No claim names the caller. -/
  | noUser
  /-- The scope claim is of the wrong kind. -/
  | scopes (claim : String) (fault : Claims.ScopeFault)
deriving DecidableEq

/-- The text of a token fault. -/
def TokenFault.message : TokenFault → String
  | notBearer => "authorization must be a bearer token"
  | malformedHeader => "invalid JWT header"
  | algorithmNotAccepted => "JWT algorithm not accepted"
  | unknownKeyId => "JWT kid not found in JWKS"
  | missingKeyId => "JWT header missing kid"
  | unusableKey => "unusable JWK"
  | wrongKeyFamily => "InvalidAlgorithm"
  | notBase64Url => "Base64 error:"
  | badSignature => "InvalidSignature"
  | unreadableClaims => "JSON error:"
  | missingExpiry => "Missing required claim: exp"
  | expired => "ExpiredSignature"
  | wrongIssuer => "InvalidIssuer"
  | wrongAudience => "InvalidAudience"
  | noUser => "token has no user claim"
  | scopes claim .notTexts => "claim " ++ claim ++ " must hold strings"
  | scopes claim .wrongKind => "claim " ++ claim ++ " must be a string or a string array"

/-- Why a caller is not known. -/
inductive AuthError where
  /-- There is no token. -/
  | missingToken
  /-- The token is refused. -/
  | invalidToken (fault : TokenFault)
deriving DecidableEq

/-- The text of an authentication error. -/
def AuthError.message : AuthError → String
  | missingToken => "missing bearer token"
  | invalidToken fault => "invalid bearer token: " ++ fault.message

/-! ## The verifier -/

/-- What tokens are verified against. -/
structure Verifier where
  /-- The keys. -/
  keys : KeySet
  /-- The algorithms that a token may use. -/
  algorithms : List Algorithm
  /-- The party that must have issued the token. -/
  issuer : Option String
  /-- The party that the token must be for. -/
  audience : Option String
  /-- The claim that names the caller. -/
  userClaim : String
  /-- The claim that lists the scopes. -/
  scopeClaim : String
  /-- The seconds for which an expired token is still taken. -/
  leeway : Nat
  /-- What decides about signatures that are no keyed hashes. -/
  signatures : SignedToken.SignatureCheck

/-- The token that an authorization header carries. -/
def bearerToken (header : Option (List UInt8)) : Except AuthError String :=
  match (header.bind Text.ofVisibleBytes?).map Text.trim with
  | none => .error .missingToken
  | some value =>
    if value.isEmpty then .error .missingToken
    else
      match (Text.stripPrefix? "Bearer " value).or (Text.stripPrefix? "bearer " value) with
      | none => .error (.invalidToken .notBearer)
      | some token =>
        let token := Text.trim token
        if token.isEmpty then .error .missingToken else .ok token

namespace Verifier

/-- The key that a token is verified with: the one it names, or the only one. -/
def selectKey (v : Verifier) (id : Option String) : Except TokenFault PublishedKey :=
  match id with
  | some id =>
    match v.keys.find? id with
    | some key => .ok key
    | none => .error .unknownKeyId
  | none =>
    match v.keys.keys with
    | [key] => .ok key
    | _ => .error .missingKeyId

/-- Holds when the token does not name a party, or names the expected one. -/
def agrees (expected : Option String) (named : Option (List String)) : Bool :=
  match expected, named with
  | some party, some parties => parties.contains party
  | _, _ => true

/-- Passes when the claims hold at a time, in seconds. -/
def checkClaims (v : Verifier) (now : Nat) (claims : Claims) : Except TokenFault Unit :=
  match claims.expiry? with
  | none => .error .missingExpiry
  | some expiry =>
    if expiry < now - v.leeway then .error .expired
    else if !agrees v.issuer claims.issuers? then .error .wrongIssuer
    else if !agrees v.audience claims.audiences? then .error .wrongAudience
    else .ok ()

/-- The claims of a token whose signature was verified. -/
def readClaims (token : SignedToken) : Except TokenFault Claims :=
  match Text.Base64Url.decode? token.claims with
  | none => .error .notBase64Url
  | some bytes =>
    match (Text.Utf8.decode? bytes).bind Claims.parse? with
    | none => .error .unreadableClaims
    | some claims => .ok claims

/-- Passes when the signature is the one of the token's key. -/
def checkSignature (v : Verifier) (token : SignedToken) : Except TokenFault Unit := do
  if !v.algorithms.contains token.header.algorithm then throw .algorithmNotAccepted
  let published ← v.selectKey token.header.keyId
  match published.material.decode? with
  | none => throw .unusableKey
  | some key =>
    match token.verify v.signatures key with
    | .ok () => return ()
    | .error .wrongFamily => throw .wrongKeyFamily
    | .error .encoding => throw .notBase64Url
    | .error .mismatch => throw .badSignature

/-- The caller whom the claims name. -/
def principal (v : Verifier) (claims : Claims) : Except TokenFault Proxy.Principal :=
  match claims.user? v.userClaim with
  | none => .error .noUser
  | some user =>
    match claims.scopes v.scopeClaim with
    | .error fault => .error (.scopes v.scopeClaim fault)
    | .ok scopes => .ok ⟨user, scopes⟩

/-- The caller whom a token names at a time. -/
def verifyToken (v : Verifier) (now : Nat) (text : String) : Except TokenFault Proxy.Principal :=
  match SignedToken.read? text with
  | none => .error .malformedHeader
  | some token => do
    v.checkSignature token
    let claims ← readClaims token
    v.checkClaims now claims
    v.principal claims

/-- The caller whom an authorization header names at a time. -/
def authenticate (v : Verifier) (now : Nat) (header : Option (List UInt8)) :
    Except AuthError Proxy.Principal := do
  let token ← bearerToken header
  match v.verifyToken now token with
  | .ok caller => return caller
  | .error fault => throw (.invalidToken fault)

end Verifier

end RegistryGate.Auth
