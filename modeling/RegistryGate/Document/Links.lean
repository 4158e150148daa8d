/-
  Links in answers.

  An answer of the register links to the register's own address.  In every `_links` section, at any
  depth, the address at the start of an `href` text is replaced by the gateway's; nothing else is
  touched.
-/
import RegistryGate.Json.Basic
import RegistryGate.Text.Split

namespace RegistryGate.Document

/-- The member that holds links. -/
def linksKey : String := "_links"

/-- The member of a link that holds its target. -/
def hrefKey : String := "href"

/-- A target with `target` at its start instead of `source`. -/
def redirect (source target href : String) : String :=
  match Text.stripPrefix? source href with
  | some rest => target ++ rest
  | none => href

mutual

/-- Redirects the targets in a value; `inLinks` is set inside a links section. -/
def redirectIn (source target : String) (inLinks : Bool) : Json → Json
  | .array items => .array (redirectItems source target inLinks items)
  | .object members => .object (redirectMembers source target inLinks members)
  | .null => .null
  | .bool b => .bool b
  | .number n => .number n
  | .string s => .string s

/-- Redirects the targets in a list of values. -/
def redirectItems (source target : String) (inLinks : Bool) : List Json → List Json
  | [] => []
  | item :: rest => redirectIn source target inLinks item :: redirectItems source target inLinks rest

/-- Redirects the targets in the members of an object. -/
def redirectMembers (source target : String) (inLinks : Bool) :
    List (String × Json) → List (String × Json)
  | [] => []
  | (name, .string text) :: rest =>
    (name, .string (if inLinks && name == hrefKey then redirect source target text else text))
      :: redirectMembers source target inLinks rest
  | (name, value) :: rest =>
    (name, redirectIn source target (inLinks || name == linksKey) value)
      :: redirectMembers source target inLinks rest

end

/-- Redirects the targets of all links; an empty `source` leaves the document as it is. -/
def redirectLinks (source target : String) (document : Json) : Json :=
  if source.isEmpty then document else redirectIn source target false document

end RegistryGate.Document
