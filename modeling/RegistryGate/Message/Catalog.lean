/-
  Texts for people, in two languages.

  A catalog holds templates under keys, per locale.  A template has places for values: a name
  between braces.  Values are put in one after the other, so a value may itself hold a place for one
  that follows.  A key that a locale lacks is looked up in the catalog's fallback locale; a key that
  is in neither stands for itself.
-/
import RegistryGate.Ordered.Members
import RegistryGate.Text.Ascii
import RegistryGate.Text.Blank
import RegistryGate.Text.Split

namespace RegistryGate

/-- The languages of texts for people. -/
inductive Locale where
  /-- Dutch. -/
  | nl
  /-- English. -/
  | en
deriving DecidableEq

namespace Locale

/-- The language tag of a locale. -/
def tag : Locale → String
  | nl => "nl"
  | en => "en"

/-- Reads a language tag of any case; what follows a hyphen or an underscore (a region) does not
count. -/
def parse? (text : String) : Option Locale :=
  let language := (Text.lower (Text.trim text)).toList.takeWhile fun c => c != '-' && c != '_'
  match String.ofList language with
  | "nl" => some nl
  | "en" => some en
  | _ => none

end Locale

/-- Templates under keys, per locale. -/
structure MessageCatalog where
  /-- The locale whose template stands in for a missing one. -/
  fallback : Locale
  /-- The templates of a locale, in the order of their declaration. -/
  entries : Locale → List (String × String)

namespace MessageCatalog

/-- The keys of a locale, in the order of their declaration. -/
def keys (catalog : MessageCatalog) (locale : Locale) : List String :=
  (catalog.entries locale).map Prod.fst

/-- The template under a key. -/
def template (catalog : MessageCatalog) (locale : Locale) (key : String) : String :=
  ((Members.get? key (catalog.entries locale)).or
    (Members.get? key (catalog.entries catalog.fallback))).getD key

/-- The place of a named value in a template. -/
def place (name : String) : String := "\x7b" ++ name ++ "\x7d"

/-- Puts one value into a template. -/
def fill (template : String) (arg : String × String) : String :=
  Text.replace (place arg.1) arg.2 template

/-- The text under a key, with its values put in, in order. -/
def textFor (catalog : MessageCatalog) (locale : Locale) (key : String)
    (args : List (String × String)) : String :=
  args.foldl fill (catalog.template locale key)

end MessageCatalog

end RegistryGate
