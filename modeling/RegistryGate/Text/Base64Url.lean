/-
  URL-safe base64 without padding, read strictly.

  A written text uses the sixty-four characters `A`-`Z`, `a`-`z`, `0`-`9`, `-`, `_` and nothing else.
  Three bytes make four characters; a rest of one or two bytes makes two or three, whose unused low
  bits are zero.  `decode` accepts exactly the written texts: other characters, padding, a rest of
  one character and non-zero unused bits are all refused, so every byte list has one text.

  Everything is arithmetic on natural numbers below 2²⁴, which is what the round-trip laws need.
-/

namespace RegistryGate.Text.Base64Url

/-! ## Single characters -/

/-- The character that stands for a number below sixty-four. -/
def digit (n : Nat) : Char :=
  if n < 26 then Char.ofNat (65 + n)
  else if n < 52 then Char.ofNat (97 + (n - 26))
  else if n < 62 then Char.ofNat (48 + (n - 52))
  else if n = 62 then '-'
  else '_'

/-- The number that a character of the alphabet stands for. -/
def value? (c : Char) : Option Nat :=
  let n := c.toNat
  if 65 ≤ n ∧ n ≤ 90 then some (n - 65)
  else if 97 ≤ n ∧ n ≤ 122 then some (n - 97 + 26)
  else if 48 ≤ n ∧ n ≤ 57 then some (n - 48 + 52)
  else if c = '-' then some 62
  else if c = '_' then some 63
  else none

/-! ## Whole texts -/

/-- Writes bytes as characters of the alphabet. -/
def encodeChars : List UInt8 → List Char
  | [] => []
  | [a] => [digit (a.toNat / 4), digit (a.toNat % 4 * 16)]
  | [a, b] =>
    [digit (a.toNat / 4), digit (a.toNat % 4 * 16 + b.toNat / 16), digit (b.toNat % 16 * 4)]
  | a :: b :: c :: rest =>
    digit (a.toNat / 4) :: digit (a.toNat % 4 * 16 + b.toNat / 16)
      :: digit (b.toNat % 16 * 4 + c.toNat / 64) :: digit (c.toNat % 64) :: encodeChars rest

/-- Reads what `encodeChars` writes, and nothing else. -/
def decodeChars : List Char → Option (List UInt8)
  | [] => some []
  | [_] => none
  | [a, b] => do
    let x ← value? a
    let y ← value? b
    -- the unused bits of the last digit have to be zero
    if y % 16 = 0 then some [UInt8.ofNat (x * 4 + y / 16)] else none
  | [a, b, c] => do
    let x ← value? a
    let y ← value? b
    let z ← value? c
    if z % 4 = 0 then
      some [UInt8.ofNat (x * 4 + y / 16), UInt8.ofNat (y % 16 * 16 + z / 4)]
    else none
  | a :: b :: c :: d :: rest => do
    let x ← value? a
    let y ← value? b
    let z ← value? c
    let w ← value? d
    let tail ← decodeChars rest
    some (UInt8.ofNat (x * 4 + y / 16) :: UInt8.ofNat (y % 16 * 16 + z / 4)
      :: UInt8.ofNat (z % 4 * 64 + w) :: tail)

/-- The written form of a byte list. -/
def encode (bytes : List UInt8) : String := String.ofList (encodeChars bytes)

/-- The byte list that a text is the written form of. -/
def decode? (text : String) : Option (List UInt8) := decodeChars text.toList

end RegistryGate.Text.Base64Url
