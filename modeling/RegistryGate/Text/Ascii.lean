/-
  Classes of ASCII characters, and the ASCII case map.

  Header names, language tags and host names are compared without regard to the case of ASCII
  letters; all other characters are left as they are.
-/

namespace RegistryGate.Text

/-- The text with its ASCII capitals in lower case. -/
def lower (s : String) : String := String.ofList (s.toList.map Char.toLower)

/-- Holds of ASCII letters. -/
def isLetter (c : Char) : Bool :=
  (decide ('a' ≤ c) && decide (c ≤ 'z')) || (decide ('A' ≤ c) && decide (c ≤ 'Z'))

/-- Holds of ASCII digits. -/
def isDigit (c : Char) : Bool := decide ('0' ≤ c) && decide (c ≤ '9')

/-- The punctuation of an HTTP token. -/
def tokenPunctuation : List Char := "!#$%&'*+-.^_`|~".toList

/-- Holds of the characters of an HTTP token. -/
def isTokenChar (c : Char) : Bool := isLetter c || isDigit c || tokenPunctuation.contains c

/-- Holds of the bytes that a header value shows as text: visible ASCII, the space and the tab. -/
def isVisibleByte (b : UInt8) : Bool := (decide (32 ≤ b) && decide (b < 127)) || b == 9

/-- The text of bytes that are all visible ASCII, spaces or tabs. -/
def ofVisibleBytes? (bytes : List UInt8) : Option String :=
  if bytes.all isVisibleByte then some (String.ofList (bytes.map fun b => Char.ofNat b.toNat))
  else none

/-- Holds of the characters that a header value may have: all but the control characters of ASCII,
of which only the tab is left in. -/
def isHeaderChar (c : Char) : Bool := (decide (' ' ≤ c) && c != '\x7f') || c == '\t'

/-- The lower-case hexadecimal digit of a number below sixteen. -/
def hexDigit (n : Nat) : Char := if n < 10 then Char.ofNat (48 + n) else Char.ofNat (87 + n)

/-- The value of a hexadecimal digit of either case. -/
def hexValue? (c : Char) : Option Nat :=
  let n := c.toNat
  if 48 ≤ n ∧ n ≤ 57 then some (n - 48)
  else if 97 ≤ n ∧ n ≤ 102 then some (n - 87)
  else if 65 ≤ n ∧ n ≤ 70 then some (n - 55)
  else none

/-- The lower-case hexadecimal digits of a number, with zeros in front up to a width. -/
def hexPadded (width n : Nat) : String :=
  let digits := Nat.toDigits 16 n
  String.ofList (List.replicate (width - digits.length) '0' ++ digits)

end RegistryGate.Text
