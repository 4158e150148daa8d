/-
  Hosts of addresses.

  A host is a domain name, an address of four numbers, or an address of eight groups in brackets.
  A domain name is first decoded and mapped to its canonical characters; what it then holds decides
  whether it is one at all.  A name whose last label is a number is an address of four numbers, and
  nothing else.
-/
import RegistryGate.Net.Label
import RegistryGate.Net.SocketAddress
import RegistryGate.Text.PercentEncoded

namespace RegistryGate.Net

/-- Why a text is no host. -/
inductive HostFault where
  /-- There is no host where one is needed. -/
  | empty
  /-- The address of four numbers is not well formed. -/
  | invalidFour
  /-- The address of eight groups is not well formed. -/
  | invalidSix
  /-- The name holds what no domain name may hold. -/
  | invalidDomain
  /-- The name holds a character that ends or separates hosts. -/
  | invalidCharacter
deriving DecidableEq

/-- The text of a host fault. -/
def HostFault.message : HostFault → String
  | empty => "empty host"
  | invalidFour => "invalid IPv4 address"
  | invalidSix => "invalid IPv6 address"
  | invalidDomain => "invalid international domain name"
  | invalidCharacter => "invalid domain character"

/-! ## Names -/

/-- Holds of the ASCII characters that no domain name may hold. -/
def isDenied (c : Char) : Bool :=
  decide (c.toNat ≤ 32) || c.toNat == 127 || "%#/:<>?@[\\]^|".toList.contains c

/-- The canonical form of a domain name. -/
def canonicalDomain? (text : String) : Option String := do
  let decoded ← Text.Utf8.decode? (Text.PercentEncoded.decode text.toList)
  let canonical ← Label.canonical? decoded.toList
  let labels ← (canonical.splitOn '.').mapM Label.ofCanonical?
  if canonical.any isDenied || !Label.areValid labels then none
  else some (String.ofList canonical)

/-! ## Addresses of four numbers -/

/-- The number of a label: hexadecimal behind `0x`, octal behind another zero; `none` when the label
is no number. -/
def labelNumber? (label : String) : Option Nat :=
  let number := fun (base : Nat) (digits : List Char) =>
    if digits.all (isDigitOf base) then some (digitsValue base digits) else none
  match label.toList with
  | [] => none
  | '0' :: 'x' :: digits | '0' :: 'X' :: digits => number 16 digits
  | '0' :: d :: digits => number 8 (d :: digits)
  | digits => number 10 digits

/-- The labels of a name, without the empty one behind a final dot. -/
def labels (domain : String) : List String :=
  let parts := Text.splitOn '.' domain
  if parts.getLast? = some "" then parts.dropLast else parts

/-- Holds of names that can only be addresses of four numbers. -/
def endsInNumber (domain : String) : Bool :=
  match (labels domain).getLast? with
  | none => false
  | some last =>
    (!last.isEmpty && last.toList.all (isDigitOf 10)) || (labelNumber? last).isSome

/-- Holds of addresses of at most four numbers of which the last one fills what the others leave. -/
def isFour (domain : String) : Bool :=
  let parts := labels domain
  match parts.mapM labelNumber? with
  | none => false
  | some numbers =>
    let count := numbers.length
    decide (count ≤ 4) && (numbers.dropLast.all fun n => decide (n ≤ 255))
      && decide (numbers.getLastD 0 < Nat.pow 256 (5 - count))

/-! ## Hosts -/

/-- Passes for addresses of eight groups. -/
def checkSix (text : String) : Except HostFault Unit :=
  match readSix? text.toList with
  | some (_, []) => .ok ()
  | _ => .error .invalidSix

/-- The text between brackets. -/
def bracketed? (text : String) : Option (Option String) :=
  (Text.stripPrefix? "[" text).map (Text.stripSuffix? "]")

/-- Passes for the hosts of web addresses. -/
def checkHost (text : String) : Except HostFault Unit :=
  match bracketed? text with
  | some (some inner) => checkSix inner
  | some none => .error .invalidSix
  | none =>
    match canonicalDomain? text with
    | none => .error .invalidDomain
    | some domain =>
      if domain.isEmpty then .error .empty
      else if endsInNumber domain && !isFour domain then .error .invalidFour
      else .ok ()

/-- Passes for the hosts of other addresses, which are taken as they are. -/
def checkOpaqueHost (text : String) : Except HostFault Unit :=
  match bracketed? text with
  | some (some inner) => checkSix inner
  | some none => .error .invalidSix
  | none =>
    let forbidden := Char.ofNat 0 :: "\t\n\r #/:<>?@[\\]^|".toList
    if text.toList.any forbidden.contains then .error .invalidCharacter else .ok ()

end RegistryGate.Net
