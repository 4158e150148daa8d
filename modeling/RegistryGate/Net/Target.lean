/-
  Targets of requests.

  A request names what it is for by the path and the query of an address.  Segments of one dot and of
  two dots are resolved first: the former stands for nothing, the latter takes back the segment before
  it.  Characters that a request line cannot hold are escaped, and what stands behind a number sign
  is not sent.
-/
import RegistryGate.Net.Url
import RegistryGate.Text.PercentEncoded

namespace RegistryGate.Net.Target

open RegistryGate.Text

/-! ## Characters -/

/-- Holds of the characters that neither a path nor a query holds as they are: controls, the space,
quotes, angle brackets and all beyond ASCII. -/
def isEscaped (c : Char) : Bool :=
  decide (c.toNat ≤ 32) || decide (127 ≤ c.toNat) || "\"#<>".toList.contains c

/-- Holds of the characters that are escaped in a path. -/
def isEscapedInPath (c : Char) : Bool := isEscaped c || "?\x60\x7b\x7d".toList.contains c

/-- Holds of the characters that are escaped in a query. -/
def isEscapedInQuery (c : Char) : Bool := isEscaped c || c == '\''

/-! ## Paths -/

/-- The number of dots that a segment consists of; each may be escaped. -/
def dotCount? : List Char → Option Nat
  | [] => some 0
  | '.' :: cs | '%' :: '2' :: 'e' :: cs | '%' :: '2' :: 'E' :: cs => (dotCount? cs).map (· + 1)
  | _ => none

/-- The segments without those of dots, the last one first, behind those of `kept`.  A last segment
of dots leaves an empty one. -/
def resolve (kept : List (List Char)) : List (List Char) → List (List Char)
  | [] => kept
  | segment :: rest =>
    let dots := dotCount? segment
    let kept := if dots = some 2 then kept.drop 1 else kept
    if dots = some 1 ∨ dots = some 2 then
      if rest.isEmpty then [] :: kept else resolve kept rest
    else resolve (PercentEncoded.encode isEscapedInPath segment :: kept) rest

/-- The canonical form of a path, which starts with a slash unless it is empty. -/
def path (cs : List Char) : List Char :=
  let segments := (cs.drop 1).splitOnP fun c => c == '/' || c == '\\'
  (resolve [] segments).reverse.flatMap ('/' :: ·)

/-! ## Targets -/

/-- The target of a request to a web address, given what follows its authority. -/
def ofRest (cs : List Char) : List Char :=
  let sent := cs.takeWhile (· != '#')
  let before := sent.takeWhile (· != '?')
  let query := sent.drop before.length
  path before ++ PercentEncoded.encode isEscapedInQuery query

/-- The target of a request to an address, if requests can be sent to it. -/
def ofAddress? (address : String) : Option String :=
  match Url.schemeOf address with
  | .error _ => none
  | .ok scheme =>
    if scheme = "http" ∨ scheme = "https" then
      (Url.splitScheme? (Url.significant address)).map fun (_, rest) =>
        let authority := rest.dropWhile fun c => c == '/' || c == '\\'
        String.ofList (ofRest (authority.dropWhile fun c => !Url.endsAuthority true c))
    else none

end RegistryGate.Net.Target
