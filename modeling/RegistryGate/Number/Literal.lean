/-
  Reading the number literals of documents.

  Digits are collected into a 64-bit significand.  A literal without fraction and exponent that fits
  64 bits is an integer.  Any other literal becomes a double in two rounding steps: the significand
  is rounded to a double, then multiplied or divided by a power of ten and rounded again.  Digits
  that no longer fit the significand count as zeros before the point and are ignored behind it.  A
  literal whose double would be infinite is refused.
-/
import RegistryGate.Json.Basic

namespace RegistryGate.Number

/-- The largest significand. -/
def maxWord : Nat := Nat.pow 2 64 - 1

/-- Appends digits to a significand as long as it fits; also counts the digits left over. -/
def appendDigits : Nat → List Nat → Nat × Nat
  | significand, [] => (significand, 0)
  | significand, d :: ds =>
    if significand * 10 + d > maxWord then (significand, ds.length + 1)
    else appendDigits (significand * 10 + d) ds

/-- The power of ten as a double, if there is one. -/
def powerOfTen? (n : Nat) : Option Double := Double.ofRatio? false (Nat.pow 10 n) 1

/-- Divides by the largest power of ten until the exponent is within the doubles' reach; a number
that has become zero stays so, which ends the scaling after a few steps. -/
def scaleDown : Nat → Double → Nat → Option Double
  | 0, d, _ => some (Double.zero d.negative)
  | fuel + 1, d, e =>
    if e ≤ 308 then (powerOfTen? e).bind d.div?
    else if d.isZero then some d
    else ((powerOfTen? 308).bind d.div?).bind fun smaller => scaleDown fuel smaller (e - 308)

/-- The double `significand · 10^exponent`, rounded twice; `none` when it is too large. -/
def scaled? (negative : Bool) (significand : Nat) (exponent : Int) : Option Double :=
  (Double.ofRatio? negative significand 1).bind fun d =>
    match exponent with
    | .ofNat e =>
      if d.isZero then some d
      else if e ≤ 308 then (powerOfTen? e).bind d.mul? else none
    | .negSucc e => scaleDown 4 d (e + 1)

/-- The parts of a number literal. -/
structure Literal where
  /-- Set when it starts with a minus sign. -/
  negative : Bool
  /-- The digits before the point. -/
  whole : List Nat
  /-- The digits after the point, if there is one. -/
  fraction : Option (List Nat)
  /-- The exponent, if there is one. -/
  exponent : Option Int

/-- The number that a literal stands for. -/
def ofLiteral? (l : Literal) : Option Number :=
  let (significand, extra) := appendDigits 0 l.whole
  if l.fraction.isNone ∧ l.exponent.isNone ∧ extra = 0 then
    if l.negative then
      if significand = 0 then some (.real (Double.zero true))
      else if significand ≤ Nat.pow 2 63 then some (.integer (-(significand : Int)))
      else (scaled? true significand 0).map .real
    else some (.integer significand)
  else
    let digits := l.fraction.getD []
    let (significand, ignored) := appendDigits significand digits
    let shift : Int := (extra : Int) - ((digits.length - ignored : Nat) : Int)
    (scaled? l.negative significand (shift + l.exponent.getD 0)).map .real

/-! ## Scanning a literal -/

/-- The value of an ASCII digit. -/
def digitValue (c : Char) : Nat := c.toNat - '0'.toNat

/-- The digits at the front of the input. -/
def digitsOf (cs : List Char) : List Nat × List Char :=
  let (ds, rest) := cs.span Char.isDigit
  (ds.map digitValue, rest)

/-- The natural number of a digit list. -/
def ofDigits (ds : List Nat) : Nat := ds.foldl (fun n d => n * 10 + d) 0

/-- The exponent at the front of the input, if there is one; fails when it has no digit. -/
def exponentOf? (cs : List Char) : Option (Option Int × List Char) :=
  match cs with
  | c :: rest =>
    if c = 'e' ∨ c = 'E' then
      let (negative, rest) := match rest with
        | '-' :: r => (true, r)
        | '+' :: r => (false, r)
        | r => (false, r)
      let (ds, rest) := digitsOf rest
      if ds.isEmpty then none
      else
        let n : Int := ofDigits ds
        some (some (if negative then -n else n), rest)
    else some (none, cs)
  | [] => some (none, [])

/-- The fraction at the front of the input, if there is one; fails when it has no digit. -/
def fractionOf? (cs : List Char) : Option (Option (List Nat) × List Char) :=
  match cs with
  | '.' :: rest =>
    let (ds, rest) := digitsOf rest
    if ds.isEmpty then none else some (some ds, rest)
  | _ => some (none, cs)

/-- The number literal at the front of the input: no zero before another digit, at least one digit
on either side of the point. -/
def literal? (cs : List Char) : Option (Literal × List Char) := do
  let (negative, cs) := match cs with
    | '-' :: rest => (true, rest)
    | _ => (false, cs)
  let (whole, cs) := digitsOf cs
  let wellFormed := match whole with
    | [] => false
    | 0 :: _ :: _ => false
    | _ => true
  if !wellFormed then none
  else
    let (fraction, cs) ← fractionOf? cs
    let (exponent, cs) ← exponentOf? cs
    some (⟨negative, whole, fraction, exponent⟩, cs)

/-- The number of the literal at the front of the input. -/
def read? (cs : List Char) : Option (Number × List Char) := do
  let (literal, cs) ← literal? cs
  let n ← ofLiteral? literal
  some (n, cs)

end RegistryGate.Number
