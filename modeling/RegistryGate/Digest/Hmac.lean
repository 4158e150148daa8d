/-
  Keyed hashing.

  `hmac` turns a digest into a keyed one.  The rest of the library needs of it only that it is *some*
  function from a key and a message to thirty-two bytes: `KeyedHash` is that interface, and
  `hmacSha256` is the one that the gateway runs with.
-/
import RegistryGate.Digest.Sha2

namespace RegistryGate.Digest

/-- The keyed form of a digest that works on blocks of `block` bytes. -/
def hmac (digest : List UInt8 → List UInt8) (block : Nat) (key message : List UInt8) :
    List UInt8 :=
  let key := if key.length > block then digest key else key
  let key := key ++ List.replicate (block - key.length) 0
  let inner := digest (key.map (· ^^^ 0x36) ++ message)
  digest (key.map (· ^^^ 0x5c) ++ inner)

/-- The length of a 256-bit hash, in bytes. -/
def hashLength : Nat := 32

/-- A function from a key and a message to a hash of `hashLength` bytes. -/
structure KeyedHash where
  /-- The hash of a message under a key. -/
  run : List UInt8 → List UInt8 → List UInt8
  /-- Every hash has the same length. -/
  length_run : ∀ key message, (run key message).length = hashLength

/-- Keyed hashing with SHA-256. -/
def hmacSha256 : KeyedHash where
  run := hmac sha256 64
  length_run _ _ := length_sha256 _

end RegistryGate.Digest
