/-
  Absolute addresses.

  An address starts with a scheme.  Web schemes and the file scheme have rules of their own for what
  follows; of the rest only the part that names a host can be wrong.  `schemeOf` judges a whole
  address and yields its scheme, which is all that the settings need to know.
-/
import RegistryGate.Net.Domain

namespace RegistryGate.Net.Url

/-- Why a text is no absolute address. -/
inductive UrlFault where
  /-- It has no scheme. -/
  | relative
  /-- Its host is at fault. -/
  | host (fault : HostFault)
  /-- Its port is no number below 65536. -/
  | port
deriving DecidableEq

/-- The text of an address fault. -/
def UrlFault.message : UrlFault → String
  | relative => "relative URL without a base"
  | host fault => fault.message
  | port => "invalid port number"

/-- What a scheme means for the rest of an address. -/
inductive SchemeKind where
  /-- The rest starts with a host, whatever slashes precede it. -/
  | web
  /-- The rest is a path on this or another machine. -/
  | file
  /-- The rest has a host only behind two slashes. -/
  | other
deriving DecidableEq

/-- The kind of a scheme. -/
def SchemeKind.ofScheme (scheme : String) : SchemeKind :=
  if ["http", "https", "ws", "wss", "ftp"].contains scheme then .web
  else if scheme = "file" then .file
  else .other

/-- The characters that count: no line breaks and tabs, and no blanks or controls at the ends. -/
def significant (text : String) : List Char :=
  let low := fun (c : Char) => decide (c.toNat ≤ 32)
  let cs := ((text.toList.dropWhile low).reverse.dropWhile low).reverse
  cs.filter fun c => c != '\t' && c != '\n' && c != '\r'

/-- Holds of the characters of a scheme. -/
def isSchemeChar (c : Char) : Bool :=
  Text.isLetter c || Text.isDigit c || c == '+' || c == '-' || c == '.'

/-- The scheme, in lower case, and what follows its colon. -/
def splitScheme? (cs : List Char) : Option (String × List Char) :=
  let scheme := cs.takeWhile isSchemeChar
  match cs.drop scheme.length with
  | ':' :: rest =>
    if scheme.head?.any Text.isLetter then some (Text.lower (String.ofList scheme), rest) else none
  | _ => none

/-- Holds of the characters that end the part that names a host. -/
def endsAuthority (web : Bool) (c : Char) : Bool :=
  c == '/' || c == '?' || c == '#' || (web && c == '\\')

/-- The characters of a host: up to a colon outside of brackets. -/
def hostChars : Bool → List Char → List Char
  | _, [] => []
  | inside, c :: rest =>
    if c == ':' && !inside then []
    else c :: hostChars (if c == '[' then true else if c == ']' then false else inside) rest

/-- Passes for ports: decimal digits, possibly none.  A backslash ends a port of any scheme. -/
def checkPort (cs : List Char) : Except UrlFault Unit :=
  let digits := (cs.drop 1).takeWhile (· != '\\')
  if digits.all Text.isDigit && decide (digitsValue 10 digits < 65536) then .ok ()
  else .error .port

/-- A host verdict as a verdict on the address. -/
def ofHost (verdict : Except HostFault Unit) : Except UrlFault Unit :=
  match verdict with
  | .ok () => .ok ()
  | .error fault => .error (.host fault)

/-- The characters of a user, and what follows the last `@`. -/
def splitUser (authority : List Char) : Option (List Char) × List Char :=
  if authority.contains '@' then
    let after := authority.reverse.takeWhile (· != '@')
    (some (authority.take (authority.length - after.length - 1)), after.reverse)
  else (none, authority)

/-- Holds of the characters in front of an `@` that name a user or a password. -/
def namesUser (user : List Char) : Bool := !user.isEmpty && user != [':']

/-- Passes for the part that names a host, which may name a user before it and a port behind it.
Without a host there is neither. -/
def checkAuthority (web : Bool) (cs : List Char) : Except UrlFault Unit :=
  let authority := cs.takeWhile fun c => !endsAuthority web c
  let (user, hostAndPort) := splitUser authority
  if user = some [] ∧ hostAndPort.isEmpty ∧ authority.length < cs.length then .error (.host .empty)
  else
    let host := hostChars false hostAndPort
    let port := hostAndPort.drop host.length
    if host.isEmpty then
      if web || !port.isEmpty || user.any namesUser then .error (.host .empty) else .ok ()
    else
      let text := String.ofList host
      match ofHost (if web then checkHost text else checkOpaqueHost text) with
      | .error fault => .error fault
      | .ok () => checkPort port

/-- Holds of a letter with a colon or a bar, which names a drive. -/
def isDrive (cs : List Char) : Bool :=
  match cs with
  | [letter, mark] => Text.isLetter letter && (mark == ':' || mark == '|')
  | _ => false

/-- Passes for what follows the file scheme: a host stands only behind two slashes. -/
def checkFile (cs : List Char) : Except UrlFault Unit :=
  let slash := fun (c : Char) => c == '/' || c == '\\'
  match cs with
  | a :: b :: rest =>
    if slash a && slash b then
      let host := rest.takeWhile fun c => !endsAuthority true c
      if host.isEmpty || isDrive host then .ok () else ofHost (checkHost (String.ofList host))
    else .ok ()
  | _ => .ok ()

/-- Passes for what follows the colon of a scheme. -/
def checkRest (kind : SchemeKind) (rest : List Char) : Except UrlFault Unit :=
  match kind with
  | .web => checkAuthority true (rest.dropWhile fun c => c == '/' || c == '\\')
  | .file => checkFile rest
  | .other =>
    match rest with
    | '/' :: '/' :: rest => checkAuthority false rest
    | _ => .ok ()

/-- The scheme of an absolute address. -/
def schemeOf (text : String) : Except UrlFault String :=
  match splitScheme? (significant text) with
  | none => .error .relative
  | some (scheme, rest) =>
    match checkRest (.ofScheme scheme) rest with
    | .ok () => .ok scheme
    | .error fault => .error fault

end RegistryGate.Net.Url
