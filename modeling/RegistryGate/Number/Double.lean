/-
  Binary floating point with 53 bits, as exact integers.

  A finite double is a sign, a significand and a power of two.  The operations round the exact
  rational result to the nearest double, a tie to the even significand, and answer `none` where the
  result is beyond the largest one.  There is no floating-point hardware in this module, so each
  operation can be evaluated and reasoned about like any other function on integers.
-/

namespace RegistryGate

/-- A finite double: the number `±significand · 2^exponent`. -/
structure Double where
  /-- Set for numbers below zero, and for the zero that is written with a minus sign. -/
  negative : Bool
  /-- The 53-bit significand. -/
  significand : Nat
  /-- The power of two that scales the significand. -/
  exponent : Int
deriving DecidableEq

namespace Double

/-- The exponent of the smallest doubles. -/
def minExponent : Int := -1074

/-- The exponent of the largest doubles. -/
def maxExponent : Int := 971

/-- A zero of either sign. -/
def zero (negative : Bool) : Double := ⟨negative, 0, minExponent⟩

/-- Holds of both zeros. -/
def isZero (d : Double) : Bool := d.significand == 0

/-! ## Rounding an exact ratio -/

/-- The quotient to the nearest integer, a tie to the even one. -/
def divideNearestEven (num den : Nat) : Nat :=
  let q := num / den
  let r := num % den
  if 2 * r > den ∨ (2 * r = den ∧ q % 2 = 1) then q + 1 else q

/-- `num / den` scaled by `2^shift`, as a numerator and a denominator. -/
def scale (num den : Nat) (shift : Int) : Nat × Nat :=
  match shift with
  | .ofNat k => (num * Nat.pow 2 k, den)
  | .negSucc k => (num, den * Nat.pow 2 (k + 1))

/-- The double nearest to `num / den`, of the given sign; `none` beyond the largest one. -/
def ofRatio? (negative : Bool) (num den : Nat) : Option Double :=
  if num = 0 then some (zero negative)
  else
    let size : Int := (Nat.log2 num : Int) - (Nat.log2 den : Int)
    let (n, d) := scale num den (-size)
    let wanted := if n ≥ d then size - 52 else size - 53
    let exponent := max wanted minExponent
    let (n, d) := scale num den (-exponent)
    let significand := divideNearestEven n d
    let (significand, exponent) :=
      if significand = Nat.pow 2 53 then (Nat.pow 2 52, exponent + 1) else (significand, exponent)
    if exponent > maxExponent then none else some ⟨negative, significand, exponent⟩

/-- The absolute value as a numerator and a denominator. -/
def magnitude (d : Double) : Nat × Nat := scale d.significand 1 d.exponent

/-- The rounded product; `none` beyond the largest double. -/
def mul? (a b : Double) : Option Double :=
  let (n, d) := a.magnitude
  let (n', d') := b.magnitude
  ofRatio? (a.negative != b.negative) (n * n') (d * d')

/-- The rounded quotient by a number that is not zero; `none` beyond the largest double. -/
def div? (a b : Double) : Option Double :=
  let (n, d) := a.magnitude
  let (n', d') := b.magnitude
  if n' = 0 then none else ofRatio? (a.negative != b.negative) (n * d') (d * n')

/-- The natural number nearest to a double that is not below zero, a half going up. -/
def roundHalfUp (d : Double) : Nat :=
  let (n, den) := d.magnitude
  (2 * n + den) / (2 * den)

end Double

end RegistryGate
