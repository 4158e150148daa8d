/-
  Names and values in form encoding.

  A form is written as pairs with `&` between them, each a name and a value with `=` between them.
  A space is written as `+`, and every byte that is no letter, digit or one of `*-._` as a percent
  sign and two hexadecimal digits.  Reading is lenient: a percent sign without two digits stands for
  itself, and a pair without `=` has the empty value.
-/
import RegistryGate.Text.PercentEncoded

namespace RegistryGate.Text.FormEncoded

/-! ## Writing -/

/-- Holds of the bytes that are written as they are. -/
def isPlain (b : UInt8) : Bool :=
  let c := Char.ofNat b.toNat
  decide (b < 128) && (isLetter c || isDigit c || ['*', '-', '.', '_'].contains c)

/-- The written form of one byte. -/
def encodeByte (b : UInt8) : List Char :=
  if b = 32 then ['+']
  else if isPlain b then [Char.ofNat b.toNat]
  else PercentEncoded.escape b

/-- The written form of a name or a value. -/
def encodeText (s : String) : String := String.ofList ((Utf8.encode s).flatMap encodeByte)

/-- The written form of a form. -/
def encode (pairs : List (String × String)) : String :=
  "&".intercalate (pairs.map fun p => encodeText p.1 ++ "=" ++ encodeText p.2)

/-! ## Reading -/

/-- The value of the hexadecimal digit that a byte shows. -/
def byteValue? (b : UInt8) : Option Nat := hexValue? (Char.ofNat b.toNat)

/-- The bytes that a written name or value stands for. -/
def decodeBytes : List UInt8 → List UInt8
  | [] => []
  | 43 :: rest => 32 :: decodeBytes rest
  | 37 :: a :: b :: rest =>
    match byteValue? a, byteValue? b with
    | some x, some y => UInt8.ofNat (16 * x + y) :: decodeBytes rest
    | _, _ => 37 :: decodeBytes (a :: b :: rest)
  | c :: rest => c :: decodeBytes rest

/-- The name and the value of a written pair: what precedes and what follows the first `=`. -/
def decodePair (pair : List UInt8) : List UInt8 × List UInt8 :=
  let (name, rest) := pair.span (· != 61)
  (decodeBytes name, decodeBytes (rest.drop 1))

/-- The names and values of a written form, as bytes; empty pairs do not count. -/
def decode (text : List UInt8) : List (List UInt8 × List UInt8) :=
  ((text.splitOn 38).filter fun pair => !pair.isEmpty).map decodePair

end RegistryGate.Text.FormEncoded
