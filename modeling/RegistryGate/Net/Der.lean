/-
  Certificates and keys in their binary form.

  An element is a tag, a length and that many bytes; the bytes of some elements are elements
  themselves.  Certificates and private keys are such elements, and of both it can be said which
  public key they are for: that is all that is asked of them here.
-/
import RegistryGate.Net.Pem

namespace RegistryGate.Net.Der

/-- An element. -/
structure Element where
  /-- What it is. -/
  tag : Nat
  /-- What it holds. -/
  content : List UInt8
deriving DecidableEq

/-! ## Elements -/

/-- The number that bytes write, the most significant one first. -/
def bigEndian (bytes : List UInt8) : Nat := bytes.foldl (fun n b => 256 * n + b.toNat) 0

/-- The element at the front of some bytes, and the rest.  A length is written in as few bytes as it
can be. -/
def read? : List UInt8 → Option (Element × List UInt8)
  | tag :: short :: rest =>
    let width := if short < 128 then 0 else short.toNat - 128
    let length := if short < 128 then short.toNat else bigEndian (rest.take width)
    let body := rest.drop width
    let isShortest := short < 128 || (decide (128 ≤ length) && (rest.head?).any (· != 0))
    if isShortest ∧ width ≤ 4 ∧ length ≤ body.length then
      some (⟨tag.toNat, body.take length⟩, body.drop length)
    else none
  | _ => none

/-- The elements that follow each other in some bytes; the fuel bounds their number. -/
def readAll? : Nat → List UInt8 → Option (List Element)
  | _, [] => some []
  | 0, _ :: _ => none
  | fuel + 1, bytes =>
    (read? bytes).bind fun (element, rest) => (readAll? fuel rest).map (element :: ·)

/-- The elements inside of an element. -/
def Element.parts? (element : Element) : Option (List Element) :=
  readAll? element.content.length element.content

/-- The bytes of an element of at most 65535 bytes. -/
def Element.bytes (element : Element) : List UInt8 :=
  let n := element.content.length
  let length := if n < 128 then [n] else if n < 256 then [129, n] else [130, n / 256, n % 256]
  (element.tag :: length).map UInt8.ofNat ++ element.content

/-- The tag of sequences. -/
def sequenceTag : Nat := 48

/-- The elements of the sequence that some bytes are. -/
def sequence? (bytes : List UInt8) : Option (List Element) :=
  (read? bytes).bind fun (element, rest) =>
    if element.tag = sequenceTag ∧ rest.isEmpty then element.parts? else none

/-! ## Public keys -/

/-- A public key. -/
structure PublicKey where
  /-- The algorithm that it is for. -/
  algorithm : List UInt8
  /-- The key. -/
  bits : List UInt8
deriving DecidableEq

/-- The bits of an element that holds bits; all its bytes are full ones. -/
def bits? (element : Element) : Option (List UInt8) :=
  match element.tag, element.content with
  | 3, 0 :: bits => some bits
  | _, _ => none

/-- The public key that a certificate is for. -/
def certified? (certificate : List UInt8) : Option PublicKey := do
  let [toBeSigned, _, signature] ← sequence? certificate | none
  let _ ← bits? signature
  let fields ← toBeSigned.parts?
  let fields := if fields.head?.any (·.tag == 160) then fields.drop 1 else fields
  let _serial :: _signature :: _issuer :: _validity :: _subject :: key :: _ := fields | none
  let [algorithm, bits] ← key.parts? | none
  return ⟨algorithm.content, ← bits? bits⟩

/-- The algorithm of RSA keys. -/
def rsaAlgorithm : List UInt8 := [6, 9, 42, 134, 72, 134, 247, 13, 1, 1, 1, 5, 0]

/-- The public key of an RSA key: modulus and exponent stand behind its version. -/
def rsaPublic? (key : List UInt8) : Option PublicKey := do
  let _version :: modulus :: exponent :: secrets ← sequence? key | none
  if secrets.length = 6 then
    return ⟨rsaAlgorithm, Element.bytes ⟨sequenceTag, modulus.bytes ++ exponent.bytes⟩⟩
  else none

/-- The public key of a key on a curve, if it is stated. -/
def curvePublic? (algorithm : List UInt8) (key : List UInt8) : Option PublicKey := do
  let stated ← (← sequence? key).find? fun element => element.tag == 161
  let [bits] ← stated.parts? | none
  return ⟨algorithm, ← bits? bits⟩

/-- The public key of a private key, if it is stated. -/
def public? (encoding : Pem.KeyEncoding) (key : List UInt8) : Option PublicKey :=
  match encoding with
  | .rsa => rsaPublic? key
  | .curve => do
    let parameters ← (← sequence? key).find? fun element => element.tag == 160
    curvePublic? (curveAlgorithm ++ parameters.content) key
  | .general => do
    let _version :: algorithm :: inner :: _ ← sequence? key | none
    if algorithm.content = rsaAlgorithm then rsaPublic? inner.content
    else curvePublic? algorithm.content inner.content
where
  /-- The algorithm of keys on curves, without the curve. -/
  curveAlgorithm : List UInt8 := [6, 7, 42, 134, 72, 206, 61, 2, 1]

end RegistryGate.Net.Der
