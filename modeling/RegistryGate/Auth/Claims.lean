/-
  Claims of a verified token.

  A claim of a kind that it may not have counts as absent, with one exception: a list or an object
  where a text belongs makes the claims unreadable, and so does one that is not empty where a number
  belongs, or a registered claim that stands there twice.  Issuer and audience are one text or a list
  of them.
-/
import RegistryGate.Auth.SignedToken
import RegistryGate.Ordered.SortedSet
import RegistryGate.Text.Blank

namespace RegistryGate.Auth

/-! ## Registered claims -/

/-- The claims that must not be repeated. -/
def registeredClaims : List String := ["exp", "nbf", "sub", "iss", "aud"]

/-- Holds of lists and objects. -/
def isContainer : Json → Bool
  | .array _ | .object _ => true
  | _ => false

/-- Holds of lists and objects that hold nothing. -/
def isHollow : Json → Bool
  | .array [] | .object [] => true
  | _ => false

/-- Holds of a claim that makes all claims unreadable: a container where a text belongs, or one that
is not empty where a number belongs. -/
def isUnreadable (name : String) (value : Json) : Bool :=
  isContainer value && (name == "sub" || (["exp", "nbf"].contains name && !isHollow value))

/-- The second that a number stands for: not below zero, below 2⁶⁴, fractions rounded. -/
def secondsOf? : Json → Option Nat
  | .number (.integer n) => if n < 0 then none else some n.toNat
  | .number (.real d) =>
    if d.negative && !d.isZero then none
    else
      let seconds := d.roundHalfUp
      if seconds < Nat.pow 2 64 then some seconds else none
  | _ => none

/-- The parties that an issuer or audience claim names. -/
def partiesOf? : Json → Option (List String)
  | .string party => some [party]
  | .array items => Json.asTexts? (.array items)
  | _ => none

/-- The claims of a token. -/
structure Claims where
  /-- All claims. -/
  members : Members Json

namespace Claims

/-- Reads the text of claims. -/
def parse? (text : String) : Option Claims := do
  let entries ← Json.parseEntries? Json.maxDepth text
  if Json.noneRepeated registeredClaims entries && entries.all fun e => !isUnreadable e.1 e.2 then
    some ⟨Members.ofList entries⟩
  else none

/-- The second after which the token is not valid any more. -/
def expiry? (claims : Claims) : Option Nat := (Members.get? "exp" claims.members).bind secondsOf?

/-- The parties that issued the token. -/
def issuers? (claims : Claims) : Option (List String) :=
  (Members.get? "iss" claims.members).bind partiesOf?

/-- The parties that the token is for. -/
def audiences? (claims : Claims) : Option (List String) :=
  (Members.get? "aud" claims.members).bind partiesOf?

/-! ## The caller -/

/-- A claim that names someone: a text that is not blank, trimmed. -/
def text? (claims : Claims) (claim : String) : Option String :=
  ((Members.get? claim claims.members).bind Json.asString?).bind fun value =>
    let value := Text.trim value
    if value.isEmpty then none else some value

/-- The claim that names the caller where the configured one does not. -/
def fallbackUserClaim : String := "sub"

/-- Who the caller is. -/
def user? (claims : Claims) (claim : String) : Option String :=
  (claims.text? claim).or (claims.text? fallbackUserClaim)

/-- Why a scope claim is refused. -/
inductive ScopeFault where
  /-- It is a list that holds something else than texts. -/
  | notTexts
  /-- It is neither a text nor a list. -/
  | wrongKind
deriving DecidableEq

/-- The scopes of a claim: the words of a text, or the texts of a list, trimmed; blank ones do not
count. -/
def scopes (claims : Claims) (claim : String) : Except ScopeFault NameSet :=
  match Members.get? claim claims.members with
  | none | some .null => .ok .empty
  | some (.string words) => .ok (SortedSet.ofList (Text.words words))
  | some (.array items) =>
    match Json.asTexts? (.array items) with
    | none => .error .notTexts
    | some texts =>
      .ok (SortedSet.ofList ((texts.map Text.trim).filter fun scope => !scope.isEmpty))
  | some _ => .error .wrongKind

end Claims

end RegistryGate.Auth
