/-
  The certificate that the gateway shows to the register.

  The certificate chain and the private key are in two files.  Their texts together must hold at
  least one certificate and a key, and the first certificate must be for the key.
-/
import RegistryGate.Config.Settings
import RegistryGate.Net.Der
import RegistryGate.Storage.Basic

namespace RegistryGate.Register

/-- Why there is no certificate to show. -/
inductive IdentityError where
  /-- A file cannot be read. -/
  | unreadable (path : String) (fault : IoFault)
  /-- The files do not hold a certificate and a key. -/
  | malformed
  /-- The certificate is not for the key, or one of them is not well formed. -/
  | unusable
deriving DecidableEq

/-- A certificate chain and its private key. -/
structure Identity where
  /-- The certificate of the gateway. -/
  certificate : List UInt8
  /-- The certificates of those who vouch for it. -/
  issuers : List (List UInt8)
  /-- How the private key is encoded. -/
  encoding : Net.Pem.KeyEncoding
  /-- The private key. -/
  key : List UInt8
deriving DecidableEq

namespace Identity

/-- The key that a section holds. -/
def keyOf? (part : Net.Pem.Part) : Option (Net.Pem.KeyEncoding × List UInt8) :=
  match part.content with
  | .key encoding => some (encoding, part.bytes)
  | _ => none

/-- The certificates and the last key of a text. -/
def parse? (text : List UInt8) : Option Identity := do
  let parts ← Net.Pem.parts? text
  if parts.any fun part => part.content == .other then none
  else
    let (encoding, key) ← (parts.filterMap keyOf?).getLast?
    match (parts.filter fun part => part.content == .certificate).map Net.Pem.Part.bytes with
    | [] => none
    | certificate :: issuers => some ⟨certificate, issuers, encoding, key⟩

/-- Holds when the certificate is for the key. -/
def isUsable (identity : Identity) : Bool :=
  match Net.Der.certified? identity.certificate, Net.Der.public? identity.encoding identity.key with
  | some certified, some own => certified == own
  | _, _ => false

/-- A file of the identity. -/
def readFile (files : FileSystem) (path : String) : Except IdentityError (List UInt8) :=
  match files.read path with
  | .ok bytes => .ok bytes.toList
  | .error fault => .error (.unreadable path fault)

/-- Loads the identity that the settings name. -/
def load (files : FileSystem) (s : Config.MtlsSettings) : Except IdentityError Identity := do
  let chain ← readFile files s.certPath
  let key ← readFile files s.keyPath
  match parse? (chain ++ 10 :: key) with
  | none => throw .malformed
  | some identity => if identity.isUsable then return identity else throw .unusable

end Identity

end RegistryGate.Register
