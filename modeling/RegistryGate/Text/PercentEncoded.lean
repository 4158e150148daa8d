/-
  Characters as percent signs and digits.

  Where an address cannot hold a character, it holds the bytes of the character in UTF-8, each as a
  percent sign and two hexadecimal digits.  Which characters these are depends on the place, so the
  class is a parameter of writing.  Reading is lenient: a percent sign without two digits stands for
  itself.
-/
import RegistryGate.Text.Ascii
import RegistryGate.Text.Utf8

namespace RegistryGate.Text.PercentEncoded

/-- The upper-case hexadecimal digit of a number below sixteen. -/
def upperDigit (n : Nat) : Char := (hexDigit n).toUpper

/-- A byte as a percent sign and two digits. -/
def escape (b : UInt8) : List Char := ['%', upperDigit (b.toNat / 16), upperDigit (b.toNat % 16)]

/-- The characters with those of a class escaped. -/
def encode (isEscaped : Char → Bool) (cs : List Char) : List Char :=
  cs.flatMap fun c =>
    if isEscaped c then (Utf8.encode (String.singleton c)).flatMap escape else [c]

/-- The bytes that a text stands for. -/
def decode : List Char → List UInt8
  | [] => []
  | '%' :: a :: b :: rest =>
    match hexValue? a, hexValue? b with
    | some a, some b => UInt8.ofNat (a * 16 + b) :: decode rest
    | _, _ => 37 :: decode (a :: b :: rest)
  | c :: rest => Utf8.encode (String.singleton c) ++ decode rest
termination_by cs => cs.length

end RegistryGate.Text.PercentEncoded
