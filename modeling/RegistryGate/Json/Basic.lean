/-
  The document model: JSON values.

  A number keeps the difference between an integer literal and every other literal, because a
  request's `1` and `1.0` are different policy values.  Integers are those of 64-bit words, signed
  or unsigned (`Number.ofLiteral?` tells them apart); all other numbers are doubles.  The members of
  an object are kept in ascending order of their names, by `Members.insert`.

  The functions on values are structural recursions over a value, its items and its members.
-/
import RegistryGate.Ordered.Members
import RegistryGate.Number.Shortest

namespace RegistryGate

/-- A number of a document. -/
inductive Number where
  /-- Written as digits only, and within 64 bits. -/
  | integer (value : Int)
  /-- Written with a fraction or an exponent, or beyond 64 bits. -/
  | real (value : Double)
deriving DecidableEq

/-- A JSON value. -/
inductive Json where
  /-- The absent value. -/
  | null
  /-- A truth value. -/
  | bool (value : Bool)
  /-- A number. -/
  | number (value : Number)
  /-- A text. -/
  | string (text : String)
  /-- A list of values. -/
  | array (items : List Json)
  /-- Named values, in ascending order of their names. -/
  | object (members : List (String × Json))

/-- A request body: the members of a JSON object. -/
abbrev Payload := Members Json

namespace Number

/-- Numbers of documents are written plainly from 10⁻⁵ up to below 10¹⁶, and with a signed
exponent outside of that. -/
def style : DecimalStyle := ⟨-5, 16, "+"⟩

/-- The text of a number: digits for an integer, the shortest decimal for a double. -/
def text : Number → String
  | .integer n => toString n
  | .real d => (if d.negative then "-" else "") ++ (Decimal.shortest d).text style

/-- Holds of the zeros of both kinds. -/
def isZero : Number → Bool
  | .integer n => n == 0
  | .real d => d.isZero

end Number

namespace Json

instance : Inhabited Json := ⟨.null⟩

mutual

/-- Equality of values is decidable. -/
def decideEq : (a b : Json) → Decidable (a = b)
  | .null, .null => isTrue rfl
  | .bool a, .bool b => if h : a = b then isTrue (h ▸ rfl) else isFalse (by simp [h])
  | .number a, .number b => if h : a = b then isTrue (h ▸ rfl) else isFalse (by simp [h])
  | .string a, .string b => if h : a = b then isTrue (h ▸ rfl) else isFalse (by simp [h])
  | .array a, .array b => match decideEqItems a b with
    | isTrue h => isTrue (h ▸ rfl)
    | isFalse h => isFalse (by simp [h])
  | .object a, .object b => match decideEqMembers a b with
    | isTrue h => isTrue (h ▸ rfl)
    | isFalse h => isFalse (by simp [h])
  | .null, .bool _ | .null, .number _ | .null, .string _ | .null, .array _ | .null, .object _
  | .bool _, .null | .bool _, .number _ | .bool _, .string _ | .bool _, .array _
  | .bool _, .object _ | .number _, .null | .number _, .bool _ | .number _, .string _
  | .number _, .array _ | .number _, .object _ | .string _, .null | .string _, .bool _
  | .string _, .number _ | .string _, .array _ | .string _, .object _ | .array _, .null
  | .array _, .bool _ | .array _, .number _ | .array _, .string _ | .array _, .object _
  | .object _, .null | .object _, .bool _ | .object _, .number _ | .object _, .string _
  | .object _, .array _ => isFalse (by simp)

/-- Equality of item lists is decidable. -/
def decideEqItems : (xs ys : List Json) → Decidable (xs = ys)
  | [], [] => isTrue rfl
  | [], _ :: _ | _ :: _, [] => isFalse (by simp)
  | x :: xs, y :: ys => match decideEq x y, decideEqItems xs ys with
    | isTrue h, isTrue h' => isTrue (by rw [h, h'])
    | isFalse h, _ => isFalse (by simp [h])
    | _, isFalse h => isFalse (by simp [h])

/-- Equality of member lists is decidable. -/
def decideEqMembers : (xs ys : List (String × Json)) → Decidable (xs = ys)
  | [], [] => isTrue rfl
  | [], _ :: _ | _ :: _, [] => isFalse (by simp)
  | (j, x) :: xs, (k, y) :: ys =>
    if hk : j = k then
      match decideEq x y, decideEqMembers xs ys with
      | isTrue h, isTrue h' => isTrue (by rw [hk, h, h'])
      | isFalse h, _ => isFalse (by simp [h])
      | _, isFalse h => isFalse (by simp [h])
    else isFalse (by simp [hk])

end

instance : DecidableEq Json := decideEq

/-! ## Looking inside -/

/-- The member of an object; `none` for any other value. -/
def get? (name : String) : Json → Option Json
  | .object members => Members.get? name members
  | _ => none

/-- The text of a text value. -/
def asString? : Json → Option String
  | .string s => some s
  | _ => none

/-- The items of a list value. -/
def asArray? : Json → Option (List Json)
  | .array items => some items
  | _ => none

/-- The members of an object value. -/
def asObject? : Json → Option (Members Json)
  | .object members => some members
  | _ => none

/-- Holds of the absent value. -/
def isNull : Json → Bool
  | .null => true
  | _ => false

/-- An object with the given members, in whatever order they are listed. -/
def ofMembers (entries : List (String × Json)) : Json := .object (Members.ofList entries)

/-- A list of texts. -/
def ofStrings (texts : List String) : Json := .array (texts.map .string)

/-- A natural number. -/
def ofNat (n : Nat) : Json := .number (.integer n)

/-- A text or, where there is none, the absent value. -/
def ofString? (text : Option String) : Json := text.elim .null .string

end Json

end RegistryGate
