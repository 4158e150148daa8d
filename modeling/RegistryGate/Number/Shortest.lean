/-
  The shortest decimal that reads back as a given double.

  The numbers that round to a double form an interval around it, which has its ends exactly when
  the significand is even.  For one, two, … seventeen digits the two neighbours of the double on
  that decimal grid are tested against the interval, in exact arithmetic; the first grid with a hit
  wins, of two hits the nearer one, and of two equally near ones the even one.

  `Decimal` holds the result; `DecimalStyle` says how such a number is written.
-/
import RegistryGate.Number.Double

namespace RegistryGate

/-- The number `digits · 10^exponent`. -/
structure Decimal where
  /-- The digits, read as one natural number. -/
  digits : Nat
  /-- The power of ten that scales the digits. -/
  exponent : Int
deriving DecidableEq

namespace Decimal

/-- Drops zeros at the end of the digits; the fuel bounds their number. -/
def dropZeros : Nat → Decimal → Decimal
  | 0, d => d
  | fuel + 1, d =>
    if d.digits ≠ 0 ∧ d.digits % 10 = 0 then dropZeros fuel ⟨d.digits / 10, d.exponent + 1⟩ else d

/-! ## Choosing the digits -/

/-- A double with the interval of numbers that round to it, over one common denominator. -/
structure Neighbourhood where
  /-- Numerator of the double itself. -/
  value : Nat
  /-- Numerator of the lower end. -/
  low : Nat
  /-- Numerator of the upper end. -/
  high : Nat
  /-- The common denominator. -/
  den : Nat
  /-- Set when the ends belong to the interval. -/
  closed : Bool

/-- The numbers that round to a double; below a power of two the gap is half as wide. -/
def neighbourhood (d : Double) : Neighbourhood :=
  let m := d.significand
  let low := if m = Nat.pow 2 52 ∧ d.exponent > Double.minExponent then 4 * m - 1 else 4 * m - 2
  let (v, den) := Double.scale (4 * m) 1 (d.exponent - 2)
  let (l, _) := Double.scale low 1 (d.exponent - 2)
  let (h, _) := Double.scale (4 * m + 2) 1 (d.exponent - 2)
  ⟨v, l, h, den, m % 2 = 0⟩

/-- `num / den` divided by `10^shift`, as a numerator and a denominator. -/
def scaleDown (num den : Nat) (shift : Int) : Nat × Nat :=
  match shift with
  | .ofNat k => (num, den * Nat.pow 10 k)
  | .negSucc k => (num * Nat.pow 10 (k + 1), den)

/-- The exponent of the leading decimal digit of `num / den`. -/
def leadingExponent (num den : Nat) : Int :=
  -- the lengths in bits give the exponent up to one
  let guess := ((Nat.log2 num : Int) - (Nat.log2 den : Int)) * 30103 / 100000
  let reaches (e : Int) : Bool := let (n, d) := scaleDown num den e; n ≥ d
  if reaches (guess + 1) then guess + 1 else if reaches guess then guess else guess - 1

/-- The neighbour on the grid of `10^unit` that lies in the interval, the nearer one if both do. -/
def onGrid? (near : Neighbourhood) (unit : Int) : Option Decimal :=
  let (v, den) := scaleDown near.value near.den unit
  let (low, _) := scaleDown near.low near.den unit
  let (high, _) := scaleDown near.high near.den unit
  let below := v / den
  let above := below + 1
  let belowFits := if near.closed then low ≤ below * den else low < below * den
  let aboveFits := if near.closed then above * den ≤ high else above * den < high
  let toBelow := v - below * den
  let toAbove := above * den - v
  -- of two neighbours at the same distance it is the even one
  if belowFits ∧ (¬ aboveFits ∨ toBelow < toAbove ∨ (toBelow = toAbove ∧ below % 2 = 0)) then
    some ⟨below, unit⟩
  else if aboveFits then some ⟨above, unit⟩
  else none

/-- The fewest digits that read back as the double. -/
def shortest (d : Double) : Decimal :=
  if d.significand = 0 then ⟨0, 0⟩
  else
    let near := neighbourhood d
    let lead := leadingExponent near.value near.den
    let found := (List.range 17).findSome? fun (n : Nat) => onGrid? near (lead - (n : Int))
    dropZeros 20 (found.getD ⟨0, 0⟩)

end Decimal

/-! ## Writing it down -/

/-- How a decimal number is written. -/
structure DecimalStyle where
  /-- The least leading exponent that is written without an exponent. -/
  plainFrom : Int
  /-- The least leading exponent above it that is written with one. -/
  plainBelow : Int
  /-- Written before an exponent that is not below zero. -/
  exponentSign : String

namespace Decimal

/-- `n` zeros. -/
def zeros (n : Nat) : String := String.ofList (List.replicate n '0')

/-- The number in positional notation, always with a digit on both sides of the point. -/
def plainText (d : Decimal) : String :=
  let digits := toString d.digits
  match d.exponent with
  | .ofNat k => digits ++ zeros k ++ ".0"
  | .negSucc k =>
    let places := k + 1
    if digits.length ≤ places then
      "0." ++ zeros (places - digits.length) ++ digits
    else
      let whole := digits.length - places
      String.ofList (digits.toList.take whole) ++ "." ++ String.ofList (digits.toList.drop whole)

/-- The number with one digit before the point and an exponent. -/
def scientificText (style : DecimalStyle) (d : Decimal) (lead : Int) : String :=
  let mantissa := match (toString d.digits).toList with
    | [] => ""
    | [c] => String.singleton c
    | c :: rest => String.singleton c ++ "." ++ String.ofList rest
  let exponent := if lead < 0 then toString lead else style.exponentSign ++ toString lead
  mantissa ++ "e" ++ exponent

/-- The number in the notation that the style chooses for its size. -/
def text (style : DecimalStyle) (d : Decimal) : String :=
  let lead : Int := d.exponent + ((toString d.digits).length - 1 : Nat)
  if style.plainFrom ≤ lead ∧ lead < style.plainBelow then d.plainText
  else d.scientificText style lead

end Decimal

end RegistryGate
