/-
  Host names beyond ASCII, as they are written in ASCII.

  A label that starts with `xn--` stands for another one: its ASCII characters come first, and the
  rest says, in numbers of variable length, which other characters go where.  Only the way back from
  the written form is needed here, to tell which labels are well formed.
-/
import RegistryGate.Text.Split

namespace RegistryGate.Net.Punycode

/-- The value of a digit: letters of either case come before the decimal digits. -/
def digitValue? (c : Char) : Option Nat :=
  let n := c.toNat
  if 97 ≤ n ∧ n ≤ 122 then some (n - 97)
  else if 65 ≤ n ∧ n ≤ 90 then some (n - 65)
  else if 48 ≤ n ∧ n ≤ 57 then some (n - 48 + 26)
  else none

/-- The digit value below which a number ends, by the weight of the digit's place. -/
def threshold (place bias : Nat) : Nat :=
  if place ≤ bias then 1 else if bias + 26 ≤ place then 26 else place - bias

/-- The bias that follows from a number; the fuel bounds the divisions. -/
def settle : Nat → Nat → Nat → Nat
  | 0, _, place => place
  | fuel + 1, delta, place =>
    if 455 < delta then settle fuel (delta / 35) (place + 36)
    else place + 36 * delta / (delta + 38)

/-- The bias for the next number, after one that grew by `delta` to `count` characters. -/
def adapt (delta count : Nat) (first : Bool) : Nat :=
  let delta := if first then delta / 700 else delta / 2
  settle (delta + 1) (delta + delta / count) 0

/-- Numbers and the weights of their digits are below this bound. -/
def bound : Nat := Nat.pow 2 32

/-- The number at the front of the digits, added to `value`, and the rest. -/
def readNumber? (bias : Nat) : List Char → Nat → Nat → Nat → Option (Nat × List Char)
  | [], _, _, _ => none
  | c :: rest, place, weight, value =>
    match digitValue? c with
    | none => none
    | some digit =>
      let value := value + digit * weight
      let limit := threshold place bias
      if bound ≤ value then none
      else if digit < limit then some (value, rest)
      else if bound ≤ weight * (36 - limit) then none
      else readNumber? bias rest (place + 36) (weight * (36 - limit)) value

/-- Puts a character in front of the one at a place. -/
def insertAt (c : Char) (place : Nat) (cs : List Char) : List Char :=
  cs.take place ++ c :: cs.drop place

/-- Puts in the characters that the digits name; the fuel is the number of digits. -/
def readInsertions? : Nat → List Char → Nat → Nat → Nat → List Char → Option (List Char)
  | _, [], _, _, _, out => some out
  | 0, _ :: _, _, _, _, _ => none
  | fuel + 1, digits, point, value, bias, out =>
    match readNumber? bias digits 36 1 value with
    | none => none
    | some (next, rest) =>
      -- one number tells both how far the code moves on and where the character goes
      let count := out.length + 1
      let code := point + next / count
      let place := next % count
      if code < 0x110000 ∧ ¬ (0xD800 ≤ code ∧ code < 0xE000) then
        let bias := adapt (next - value) count (value == 0)
        readInsertions? fuel rest code (place + 1) bias (insertAt (Char.ofNat code) place out)
      else none

/-- The label that a written form, without its `xn--`, stands for.  A hyphen at the front has no
characters before it that it could set off. -/
def decode? (text : String) : Option (List Char) :=
  let (start, digits) := match Text.splitLast? '-' text with
    | some (start, digits) => if start.isEmpty then ([], text.toList) else (start.toList, digits.toList)
    | none => ([], text.toList)
  readInsertions? digits.length digits 128 0 72 start

end RegistryGate.Net.Punycode
