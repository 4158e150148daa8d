/-
  Verifying RSA signatures of the PKCS #1 v1.5 kind.

  A signature is valid when its power by the public exponent, modulo the public modulus, is the
  padded digest of the message.  The components are taken as they come out of a key document, so
  the rules on their form are part of the verification: no leading zero byte, an odd modulus of 2048
  to 8192 bits, an odd exponent from 3 to 2³³ - 1, a signature exactly as long as the modulus.
-/
import RegistryGate.Digest.Sha2

namespace RegistryGate.Digest

/-- The natural number of a byte list, most significant byte first. -/
def ofBigEndian (bytes : List UInt8) : Nat := bytes.foldl (fun n b => n * 256 + b.toNat) 0

/-- Modular power by repeated squaring; the fuel bounds the bits of the exponent. -/
def powMod (modulus : Nat) : Nat → Nat → Nat → Nat
  | 0, _, _ => 1 % modulus
  | _ + 1, _, 0 => 1 % modulus
  | fuel + 1, base, exponent =>
    let rest := powMod modulus fuel (base * base % modulus) (exponent / 2)
    if exponent % 2 = 1 then base * rest % modulus else rest

/-- A public key, as its two byte strings. -/
structure RsaKey where
  /-- The modulus, most significant byte first. -/
  modulus : List UInt8
  /-- The public exponent, most significant byte first. -/
  exponent : List UInt8
deriving DecidableEq

/-- A digest with the bytes that name it inside a signature. -/
structure SignatureDigest where
  /-- The digest. -/
  digest : List UInt8 → List UInt8
  /-- The encoded name that precedes the digest. -/
  header : List UInt8

/-- SHA-256 inside signatures. -/
def signatureSha256 : SignatureDigest :=
  ⟨sha256, [0x30, 0x31, 0x30, 0x0d, 0x06, 0x09, 0x60, 0x86, 0x48, 0x01, 0x65, 0x03, 0x04, 0x02,
    0x01, 0x05, 0x00, 0x04, 0x20]⟩

/-- SHA-384 inside signatures. -/
def signatureSha384 : SignatureDigest :=
  ⟨sha384, [0x30, 0x41, 0x30, 0x0d, 0x06, 0x09, 0x60, 0x86, 0x48, 0x01, 0x65, 0x03, 0x04, 0x02,
    0x02, 0x05, 0x00, 0x04, 0x30]⟩

/-- SHA-512 inside signatures. -/
def signatureSha512 : SignatureDigest :=
  ⟨sha512, [0x30, 0x51, 0x30, 0x0d, 0x06, 0x09, 0x60, 0x86, 0x48, 0x01, 0x65, 0x03, 0x04, 0x02,
    0x03, 0x05, 0x00, 0x04, 0x40]⟩

namespace RsaKey

/-- Holds when the components have the form that is accepted. -/
def wellFormed (key : RsaKey) : Bool :=
  let n := ofBigEndian key.modulus
  let e := ofBigEndian key.exponent
  let bytes := key.modulus.length
  let minimal (bs : List UInt8) : Bool := match bs with
    | [] => false
    | b :: _ => b != 0
  minimal key.modulus && minimal key.exponent && n % 2 == 1 && e % 2 == 1
    && decide (256 ≤ bytes) && decide (bytes ≤ 1024)
    && decide (3 ≤ e) && decide (e < Nat.pow 2 33)

/-- The padded digest, as long as the modulus. -/
def padded (d : SignatureDigest) (size : Nat) (message : List UInt8) : List UInt8 :=
  let tail := 0x00 :: (d.header ++ d.digest message)
  0x00 :: 0x01 :: (List.replicate (size - 2 - tail.length) 0xff ++ tail)

/-- Holds when the signature is the key's signature of the message. -/
def verifies (key : RsaKey) (d : SignatureDigest) (message signature : List UInt8) : Bool :=
  let n := ofBigEndian key.modulus
  let s := ofBigEndian signature
  key.wellFormed && signature.length == key.modulus.length && decide (s < n)
    && powMod n 34 s (ofBigEndian key.exponent)
      == ofBigEndian (padded d key.modulus.length message)

end RsaKey

end RegistryGate.Digest
