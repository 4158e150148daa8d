/-
  Tokens for identifiers.

  A token hides an identifier and is bound to the correlation id of the caller: the same identifier
  under the same id always gives the same token, and a token is of no use under another id.  It is
  the written form of a version byte, a tag and the masked identifier.  The tag authenticates the
  correlation id and the identifier together, and also seeds the mask, so that the mask can be taken
  off before the tag is checked.

  The cipher holds one or more keys.  The first one makes new tokens; all of them are tried on a
  token that comes in.  Everything is stated over an arbitrary `KeyedHash`.
-/
import RegistryGate.Digest.Hmac
import RegistryGate.Text.Base64Url
import RegistryGate.Text.Blank
import RegistryGate.Text.Split
import RegistryGate.Text.Utf8

namespace RegistryGate.Token

open Digest (KeyedHash)

/-! ## Limits and errors -/

/-- The bytes of a key. -/
def keyLength : Nat := 32

/-- The most bytes of a token's text. -/
def maxTokenLength : Nat := 512

/-- The most bytes of an identifier. -/
def maxIdentifierLength : Nat := 256

/-- The bytes of a tag. -/
def tagLength : Nat := 16

/-- The version of the token format. -/
def version : UInt8 := 1

/-- What is wrong with the form of a token or an identifier. -/
inductive Malformation where
  /-- The identifier is longer than a token may carry. -/
  | identifierTooLong
  /-- The text is longer than any token. -/
  | tokenTooLong
  /-- The text is no base64url text. -/
  | notBase64Url
  /-- The token holds no byte. -/
  | empty
  /-- The token is of an unknown version. -/
  | unsupportedVersion (found : UInt8)
  /-- The token ends within its tag. -/
  | tokenTooShort
  /-- The identifier is not UTF-8 text. -/
  | notUtf8
deriving DecidableEq

/-- The text of a malformation. -/
def Malformation.message : Malformation → String
  | identifierTooLong => "identifier too long"
  | tokenTooLong => "token too long"
  | notBase64Url => "token is not base64url"
  | empty => "token is empty"
  | unsupportedVersion found => "unsupported token version " ++ toString found.toNat
  | tokenTooShort => "token too short"
  | notUtf8 => "identifier is not utf-8"

/-- What is wrong with the text of a key. -/
inductive KeyFault where
  /-- The text is no base64url text. -/
  | notBase64Url
  /-- The key has another length than `keyLength`. -/
  | wrongLength (found : Nat)
deriving DecidableEq

/-- The text of a key fault. -/
def KeyFault.message : KeyFault → String
  | notBase64Url => "not url-safe base64"
  | wrongLength found =>
    "expected " ++ toString keyLength ++ " bytes, got " ++ toString found

/-- Why a cipher cannot be built or a token cannot be made or read. -/
inductive TokenError where
  /-- There is no key. -/
  | noKeys
  /-- The key at a position, counted from zero, is faulty. -/
  | invalidKey (position : Nat) (fault : KeyFault)
  /-- A token or an identifier has a wrong form. -/
  | malformed (fault : Malformation)
  /-- No key authenticates the token under the correlation id. -/
  | undecryptable
deriving DecidableEq

/-- The text of a token error. -/
def TokenError.message : TokenError → String
  | noKeys => "no tokenization keys configured"
  | invalidKey position fault =>
    "invalid tokenization key: key " ++ toString position ++ ": " ++ fault.message
  | malformed fault => "malformed token: " ++ fault.message
  | undecryptable => "token cannot be decrypted in this correlation context"

/-! ## Keys -/

/-- A raw key. -/
structure Key where
  /-- The bytes of the key. -/
  bytes : List UInt8
  /-- There are exactly `keyLength` of them. -/
  length_bytes : bytes.length = keyLength
deriving DecidableEq

/-- The text of a key in the configuration. -/
def Key.encode (key : Key) : String := Text.Base64Url.encode key.bytes

/-- Reads a key text; white space around it and padding behind it do not count. -/
def Key.decode (text : String) : Except KeyFault Key :=
  match Text.Base64Url.decode? (Text.trimEnd '=' (Text.trim text)) with
  | none => .error .notBase64Url
  | some bytes =>
    if h : bytes.length = keyLength then .ok ⟨bytes, h⟩ else .error (.wrongLength bytes.length)

/-- Reads key texts in order, counting from `position`; the first faulty one is reported. -/
def Key.decodeAll (position : Nat) : List String → Except TokenError (List Key)
  | [] => .ok []
  | text :: rest =>
    match Key.decode text with
    | .error fault => .error (.invalidKey position fault)
    | .ok key => do
      let keys ← Key.decodeAll (position + 1) rest
      return key :: keys

/-- The two keys derived from a raw key: one masks, the other authenticates. -/
structure KeyPair where
  /-- Makes the mask. -/
  encryption : List UInt8
  /-- Makes the tag. -/
  authentication : List UInt8
deriving DecidableEq

/-- Derives the keys for masking and for authenticating. -/
def KeyPair.derive (hash : KeyedHash) (key : Key) : KeyPair where
  encryption := hash.run key.bytes (Text.Utf8.encode "brp-gate/enc")
  authentication := hash.run key.bytes (Text.Utf8.encode "brp-gate/mac")

namespace KeyPair

/-- What the tag authenticates: the length of the correlation id, the id and the identifier. -/
def frame (correlation : String) (plain : List UInt8) : List UInt8 :=
  let id := Text.Utf8.encode correlation
  Digest.bigEndian 8 id.length ++ id ++ plain

/-- The tag of an identifier under a correlation id. -/
def tag (hash : KeyedHash) (keys : KeyPair) (correlation : String) (plain : List UInt8) :
    List UInt8 :=
  (hash.run keys.authentication (frame correlation plain)).take tagLength

/-- Masks bytes, or takes the mask off again, block by block from the block numbered `index`; the
fuel bounds the number of blocks. -/
def maskBlocks (hash : KeyedHash) (keys : KeyPair) (tag : List UInt8) :
    Nat → Nat → List UInt8 → List UInt8
  | 0, _, _ => []
  | _ + 1, _, [] => []
  | fuel + 1, index, data =>
    let block := hash.run keys.encryption (tag ++ Digest.bigEndian 4 index)
    (data.zipWith (· ^^^ ·) block)
      ++ maskBlocks hash keys tag fuel (index + 1) (data.drop Digest.hashLength)

/-- Masks bytes, or takes the mask off again, with the mask that a tag seeds. -/
def applyMask (hash : KeyedHash) (keys : KeyPair) (tag data : List UInt8) : List UInt8 :=
  maskBlocks hash keys tag data.length 0 data

end KeyPair

/-! ## The cipher -/

/-- A cipher over a keyed hash, with its keys in the order of their use. -/
structure Cipher where
  /-- The keyed hash. -/
  hash : KeyedHash
  /-- The derived keys; the first one makes new tokens. -/
  keys : List KeyPair

namespace Cipher

/-- The cipher of raw keys, of which there must be one. -/
def ofKeys (hash : KeyedHash) (keys : List Key) : Except TokenError Cipher :=
  if keys.isEmpty then .error .noKeys else .ok ⟨hash, keys.map (KeyPair.derive hash)⟩

/-- The cipher of key texts. -/
def ofTexts (hash : KeyedHash) (texts : List String) : Except TokenError Cipher := do
  let keys ← Key.decodeAll 0 texts
  ofKeys hash keys

/-- The number of keys. -/
def keyCount (cipher : Cipher) : Nat := cipher.keys.length

/-- The bytes of a token: version, tag and masked identifier. -/
def tokenBytes (hash : KeyedHash) (keys : KeyPair) (correlation : String) (plain : List UInt8) :
    List UInt8 :=
  let tag := keys.tag hash correlation plain
  version :: (tag ++ keys.applyMask hash tag plain)

/-- The token of an identifier under a correlation id. -/
def encrypt (cipher : Cipher) (identifier correlation : String) : Except TokenError String :=
  let plain := Text.Utf8.encode identifier
  if plain.length > maxIdentifierLength then .error (.malformed .identifierTooLong)
  else
    match cipher.keys with
    | [] => .error .noKeys
    | key :: _ => .ok (Text.Base64Url.encode (tokenBytes cipher.hash key correlation plain))

/-- The tag and the masked identifier of a token's text. -/
def split (token : String) : Except Malformation (List UInt8 × List UInt8) :=
  if token.utf8ByteSize > maxTokenLength then .error .tokenTooLong
  else
    match Text.Base64Url.decode? token with
    | none => .error .notBase64Url
    | some [] => .error .empty
    | some (found :: rest) =>
      if found ≠ version then .error (.unsupportedVersion found)
      else if rest.length < tagLength then .error .tokenTooShort
      else .ok (rest.take tagLength, rest.drop tagLength)

/-- The identifier's bytes, if the key authenticates them under the correlation id. -/
def open? (hash : KeyedHash) (correlation : String) (tag masked : List UInt8) (keys : KeyPair) :
    Option (List UInt8) :=
  let plain := keys.applyMask hash tag masked
  if keys.tag hash correlation plain = tag then some plain else none

/-- The identifier of a token that was made under the same correlation id. -/
def decrypt (cipher : Cipher) (token correlation : String) : Except TokenError String :=
  match split token with
  | .error fault => .error (.malformed fault)
  | .ok (tag, masked) =>
    match cipher.keys.findSome? (open? cipher.hash correlation tag masked) with
    | none => .error .undecryptable
    | some plain =>
      match Text.Utf8.decode? plain with
      | none => .error (.malformed .notUtf8)
      | some identifier => .ok identifier

end Cipher

end RegistryGate.Token
