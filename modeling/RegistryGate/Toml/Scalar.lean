/-
  Numbers, truth values and dates of TOML documents.

  A scalar is a word without quotes.  Whole numbers keep their value and have at most 128 bits; of
  fractions only the form and the size are checked, and of dates the form.
-/
import RegistryGate.Config.Document
import RegistryGate.Number.Literal
import RegistryGate.Text.Ascii
import RegistryGate.Text.Split

namespace RegistryGate.Toml

open Config (Document)

/-! ## Digits -/

/-- The digits of a number without the underscores between them, of which each stands between two
digits. -/
def digits? (isDigit : Char → Bool) : List Char → Option (List Char)
  | [] => none
  | [c] => if isDigit c then some [c] else none
  | c :: '_' :: rest => if isDigit c then (digits? isDigit rest).map (c :: ·) else none
  | c :: rest => if isDigit c then (digits? isDigit rest).map (c :: ·) else none

/-- The value of digits in a base. -/
def valueOf (base : Nat) (digits : List Char) : Nat :=
  digits.foldl (fun n c => n * base + (Text.hexValue? c).getD 0) 0

/-- Holds of the digits of a base of at most sixteen. -/
def isDigitIn (base : Nat) (c : Char) : Bool := (Text.hexValue? c).any fun n => n < base

/-- Decimal digits without a zero in front of others. -/
def wholeDigits? (cs : List Char) : Option (List Char) :=
  (digits? Text.isDigit cs).bind fun ds =>
    match ds with
    | '0' :: _ :: _ => none
    | _ => some ds

/-- A sign at the front of a number, and the rest. -/
def splitSign : List Char → Bool × List Char
  | '-' :: rest => (true, rest)
  | '+' :: rest => (false, rest)
  | cs => (false, cs)

/-! ## Numbers -/

/-- The sign at the front of a number, and its digits; an underscore may stand between the two. -/
def splitNumber : List Char → Bool × List Char
  | '-' :: '_' :: rest => (true, rest)
  | '+' :: '_' :: rest => (false, rest)
  | cs => splitSign cs

/-- A whole number: decimal with a sign, or in base 16, 8 or 2 without one. -/
def whole? (cs : List Char) : Option Int :=
  let inBase := fun (base : Nat) (rest : List Char) =>
    (digits? (isDigitIn base) rest).map fun ds => (valueOf base ds : Int)
  match cs with
  | '0' :: 'x' :: rest => inBase 16 rest
  | '0' :: 'o' :: rest => inBase 8 rest
  | '0' :: 'b' :: rest => inBase 2 rest
  | _ =>
    let (negative, rest) := splitNumber cs
    (wholeDigits? rest).map fun ds =>
      let n : Int := valueOf 10 ds
      if negative then -n else n

/-- Holds of the whole numbers that a document may hold. -/
def isHeld (n : Int) : Bool := decide (-(Nat.pow 2 127 : Int) ≤ n) && decide (n < (Nat.pow 2 128 : Int))

/-- An exponent behind its letter. -/
def exponent? (cs : List Char) : Option Int :=
  let (negative, rest) := splitSign cs
  (digits? Text.isDigit rest).map fun ds =>
    let n : Int := valueOf 10 ds
    if negative then -n else n

/-- Holds of the number of these digits, scaled by a power of ten, unless it is beyond the largest
double.  A number of at most 308 places is not, one of more than 309 is. -/
def isFinite (digits : List Char) (exponent : Int) : Bool :=
  let digits := digits.dropWhile (· == '0')
  let places := (digits.length : Int) + exponent
  if digits.isEmpty ∨ places ≤ 308 then true
  else if 309 < places then false
  else
    let (num, den) := match exponent with
      | .ofNat e => (valueOf 10 digits * Nat.pow 10 e, 1)
      | .negSucc e => (valueOf 10 digits, Nat.pow 10 (e + 1))
    (Double.ofRatio? false num den).isSome

/-- Holds of numbers with a fraction or an exponent that are not too large, and of the words for what
is no number. -/
def isFraction (cs : List Char) : Bool :=
  let word := (splitSign cs).2
  if word = ['i', 'n', 'f'] ∨ word = ['n', 'a', 'n'] then true
  else
    let rest := (splitNumber cs).2
    let mantissa := rest.takeWhile fun c => c != 'e' && c != 'E'
    let exponent := rest.drop mantissa.length
    let before := mantissa.takeWhile (· != '.')
    let after := mantissa.drop before.length
    let places := if after.isEmpty then some [] else digits? Text.isDigit (after.drop 1)
    let power := if exponent.isEmpty then some 0 else exponent? (exponent.drop 1)
    match wholeDigits? before, places, power with
    | some ds, some places, some power =>
      -- with neither a fraction nor an exponent it is a whole number
      !(after.isEmpty && exponent.isEmpty) && isFinite (ds ++ places) (power - places.length)
    | _, _, _ => false

/-! ## Dates and times -/

/-- The number of exactly so many digits. -/
def fixed? (count : Nat) (cs : List Char) : Option Nat :=
  if cs.length = count ∧ cs.all Text.isDigit then some (valueOf 10 cs) else none

/-- The days of a month. -/
def monthDays (year month : Nat) : Nat :=
  if month = 2 then
    if year % 4 = 0 ∧ (year % 100 ≠ 0 ∨ year % 400 = 0) then 29 else 28
  else if [4, 6, 9, 11].contains month then 30
  else 31

/-- Holds of dates: year, month and day with hyphens. -/
def isDate (cs : List Char) : Bool :=
  match cs.splitOn '-' with
  | [y, m, d] =>
    match fixed? 4 y, fixed? 2 m, fixed? 2 d with
    | some year, some month, some day =>
      decide (1 ≤ month) && decide (month ≤ 12) && decide (1 ≤ day)
        && decide (day ≤ monthDays year month)
    | _, _, _ => false
  | _ => false

/-- Holds of two digits of at most a bound. -/
def isPair (bound : Nat) (cs : List Char) : Bool := (fixed? 2 cs).any fun n => n ≤ bound

/-- Holds of seconds with or without a fraction. -/
def isSeconds (cs : List Char) : Bool :=
  match cs.splitOn '.' with
  | [whole] => isPair 60 whole
  | [whole, part] => isPair 60 whole && !part.isEmpty && part.all Text.isDigit
  | _ => false

/-- Holds of times: hours and minutes, possibly seconds. -/
def isTime (cs : List Char) : Bool :=
  match cs.splitOn ':' with
  | [h, m] => isPair 23 h && isPair 59 m
  | [h, m, s] => isPair 23 h && isPair 59 m && isSeconds s
  | _ => false

/-- Holds of a distance from universal time. -/
def isOffset (cs : List Char) : Bool :=
  match cs with
  | [c] => c == 'Z' || c == 'z'
  | sign :: rest =>
    (sign == '+' || sign == '-')
      && match rest.splitOn ':' with
        | [h, m] => isPair 23 h && isPair 59 m
        | _ => false
  | [] => false

/-- Holds of dates, times, and dates with times. -/
def isMoment (cs : List Char) : Bool :=
  let marks := fun (c : Char) => c == 'T' || c == 't' || c == ' '
  let date := cs.takeWhile fun c => !marks c
  let rest := cs.drop date.length
  if rest.isEmpty then isDate date || isTime date
  else
    let time := (rest.drop 1).takeWhile fun c => Text.isDigit c || c == ':' || c == '.'
    let offset := (rest.drop 1).drop time.length
    isDate date && isTime time && (offset.isEmpty || isOffset offset)

/-! ## Words -/

/-- Holds of the characters that end a word. -/
def endsWord (c : Char) : Bool :=
  [' ', '\t', '\n', '\r', ',', '#', '[', ']', '{', '}', '='].contains c

/-- The word at the front of a document, and the rest.  A date goes on behind a space, if a time
follows. -/
def readWord (cs : List Char) : List Char × List Char :=
  let word := cs.takeWhile fun c => !endsWord c
  match cs.drop word.length with
  | ' ' :: d :: rest =>
    if isDate word && Text.isDigit d then
      let time := (d :: rest).takeWhile fun c => !endsWord c
      (word ++ ' ' :: time, (d :: rest).drop time.length)
    else (word, ' ' :: d :: rest)
  | rest => (word, rest)

/-- The value of a word. -/
def scalar? (word : List Char) : Option Document :=
  if word = ['t', 'r', 'u', 'e'] then some (.flag true)
  else if word = ['f', 'a', 'l', 's', 'e'] then some (.flag false)
  else
    match whole? word with
    | some n => if isHeld n then some (.whole n) else none
    | none =>
      if isFraction word then some .fraction else if isMoment word then some .moment else none

end RegistryGate.Toml
