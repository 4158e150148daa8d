/-
  When stripping leaves the caller what the caller asked for.

  What is stripped from the records of an answer are the identifying fields that were inserted
  because the caller had not named them.  Names are compared as texts, whereas a field grants what
  its names lead to, and stripping takes it away: whole parts of a record.  A field `houder` asks for
  the number of the holder as well, but does not name it, so that the number is inserted and then
  taken out.

  Between asked and inserted fields nothing else matters than whether the names of one begin with
  those of the other (`Nested`).  If they do, there is a record that loses a part that was asked for:
  one that has just the longer of both.  If they do not, no path begins with the names of both, for
  of two beginnings of one list one begins the other (`keepsAsked_iff`).
-/
import RegistryGate.Proofs.Document.Stripping
import RegistryGate.Proofs.Proxy.InsertedIdentifiers

namespace RegistryGate

/-! ## Records with a single part -/

namespace Json

/-- An object with a single member, and in it another one, along a list of names. -/
def nestedIn (names : List String) (value : Json) : Json :=
  names.foldr (fun name inner => .object [(name, inner)]) value

/-- Along its names the value is found. -/
theorem nested?_nestedIn (names : List String) (value : Json) :
    (nestedIn names value).nested? (names.map Step.member) = some value := by
  -- on the names, each of which leads into the only member there is
  induction names with
  | nil => rfl
  | cons name rest ih =>
    have hstep : (nestedIn (name :: rest) value).step? (.member name)
        = some (nestedIn rest value) := if_pos rfl
    rw [List.map_cons, nested?_cons, hstep, Option.bind_some, ih]

end Json

namespace Proxy

open Token (Cipher)

variable {endpoint : Endpoint} {cipher : Cipher} {request : Request} {prepared : Prepared}
variable {key : String} {asked inserted : List String}

/-! ## Asked and inserted fields -/

/-- Where a path leads to in one of the records of a document. -/
def placeOf (key : String) (index : Nat) (path : String) : Position :=
  .member key :: .item index :: (Field.segments path).map Step.member

/-- Holds when no document loses by stripping what one of its records has at a path that an asked
field covers. -/
def KeepsAsked (key : String) (asked inserted : List String) : Prop :=
  ∀ (document : Json) (index : Nat) (path : String),
    (∃ field ∈ asked, Field.covers field path = true) →
    (document.nested? (placeOf key index path)).isSome = true →
    ((Document.stripFields key inserted document).nested? (placeOf key index path)).isSome = true

/-- Holds of an identifying field and an asked one of which one lies inside of the other, or which
are the same but for a wildcard. -/
def Nested (identifier field : String) : Prop :=
  Field.segments identifier <+: Field.segments (Field.wildcardBase field) ∨
    Field.segments (Field.wildcardBase field) <+: Field.segments identifier

instance (identifier field : String) : Decidable (Nested identifier field) :=
  inferInstanceAs (Decidable (_ ∨ _))

/-- What is at a path of a record is taken away when an inserted field leads to it or around it. -/
theorem stripped_placeOf_iff {index : Nat} {path : String} :
    Document.Stripped key inserted (placeOf key index path) ↔
      ∃ identifier ∈ inserted, Field.segments identifier <+: Field.segments path := by
  constructor
  · -- the first two steps lead to the record, and the rest of both names are compared step by step
    rintro ⟨_, rest, hplace, identifier, hidentifier, hprefix⟩
    obtain ⟨-, htail⟩ := List.cons.inj hplace
    obtain ⟨-, rfl⟩ := List.cons.inj htail
    obtain ⟨names, hnames, hsame⟩ := List.prefix_map_iff.mp hprefix
    have hinjective : ∀ x y : String, Step.member x = Step.member y → x = y :=
      fun _ _ => Step.member.inj
    obtain rfl := (List.map_inj_right hinjective).mp hsame
    exact ⟨identifier, hidentifier, hnames⟩
  · rintro ⟨identifier, hidentifier, hprefix⟩
    exact ⟨index, _, rfl, identifier, hidentifier, hprefix.map Step.member⟩

/-- The names of a path begin with those of the path without its wildcard. -/
theorem wildcardBase_prefix_segments (path : String) :
    Field.segments (Field.wildcardBase path) <+: Field.segments path := by
  rcases Field.eq_wildcardBase_or path with hplain | hwild
  · have hsame : Field.segments (Field.wildcardBase path) = Field.segments path :=
      congrArg Field.segments hplain.symm
    exact hsame ▸ List.prefix_rfl
  · have hnames : Field.segments (Field.wildcardBase path ++ "." ++ "*")
        = Field.segments (Field.wildcardBase path) ++ Field.segments "*" :=
      Field.segments_append_dot _ _
    have hpath : path = Field.wildcardBase path ++ "." ++ "*" := by
      rw [String.append_assoc]
      exact hwild
    rw [← hpath] at hnames
    rw [hnames]
    exact List.prefix_append _ _

/-- A path that ends in a letter has no wildcard. -/
theorem wildcardBase_append_x (start : String) :
    Field.wildcardBase (start ++ "." ++ "x") = start ++ "." ++ "x" := by
  refine Field.wildcardBase_eq_self fun parent hwild => ?_
  have hlast := congrArg (fun text : String => text.toList.getLast?) hwild
  simp at hlast

/-- Where an inserted field and an asked one are nested, a record with just one more part inside of
the longer one loses it. -/
theorem not_keepsAsked_of_nested {identifier field : String} (hidentifier : identifier ∈ inserted)
    (hfield : field ∈ asked) (hnested : Nested identifier field) :
    ¬ KeepsAsked key asked inserted := by
  -- the names of the longer field begin with those of both
  obtain ⟨longer, hinserted, hasked⟩ : ∃ longer,
      Field.segments identifier <+: Field.segments longer ∧
        Field.segments (Field.wildcardBase field) <+: Field.segments longer := by
    rcases hnested with hprefix | hprefix
    · exact ⟨Field.wildcardBase field, hprefix, List.prefix_rfl⟩
    · exact ⟨identifier, List.prefix_rfl, hprefix⟩
  -- one name more, so that the path lies inside of both
  let path := longer ++ "." ++ "x"
  have hinside : Field.segments longer <+: Field.segments path := by
    rw [Field.segments_append_dot]
    exact List.prefix_append _ _
  have hcovers : Field.covers field path = true := by
    rw [Field.covers_iff_segments, wildcardBase_append_x]
    exact hasked.trans hinside
  -- the record has nothing but what the path leads to
  let document : Json := .object [(key, .array [Json.nestedIn (Field.segments path) .null])]
  have hfound : document.nested? (placeOf key 0 path) = some .null := by
    have hrecords : document.step? (.member key)
        = some (.array [Json.nestedIn (Field.segments path) .null]) := if_pos rfl
    rw [placeOf, Json.nested?_cons, hrecords]
    exact Json.nested?_nestedIn (Field.segments path) .null
  have hlost : Document.Stripped key inserted (placeOf key 0 path) :=
    stripped_placeOf_iff.mpr ⟨identifier, hidentifier, hinserted.trans hinside⟩
  intro hkeeps
  have hkept := hkeeps document 0 path ⟨field, hfield, hcovers⟩ (by rw [hfound]; rfl)
  rw [(Document.loses_stripFields key inserted document).gone _ hlost] at hkept
  cases hkept

/-- **Stripping keeps what was asked for exactly when no inserted field is nested with an asked
one.** -/
theorem keepsAsked_iff :
    KeepsAsked key asked inserted ↔
      ∀ identifier ∈ inserted, ∀ field ∈ asked, ¬ Nested identifier field := by
  constructor
  · intro hkeeps identifier hidentifier field hfield hnested
    exact not_keepsAsked_of_nested hidentifier hfield hnested hkeeps
  · rintro hapart document index path ⟨field, hfield, hcovers⟩ hthere
    have hnot : ¬ Document.Stripped key inserted (placeOf key index path) := by
      -- two beginnings of one path are nested
      intro hlost
      obtain ⟨identifier, hidentifier, hinserted⟩ := stripped_placeOf_iff.mp hlost
      have hasked : Field.segments (Field.wildcardBase field) <+: Field.segments path :=
        (Field.covers_iff_segments.mp hcovers).trans (wildcardBase_prefix_segments path)
      exact hapart identifier hidentifier field hfield
        (List.prefix_or_prefix_of_prefix hinserted hasked)
    obtain ⟨found, hfound⟩ := Option.isSome_iff_exists.mp hthere
    obtain ⟨left, hleft, -⟩ :=
      (Document.loses_stripFields key inserted document).exists_kept hnot hfound
    rw [hleft]
    rfl

/-! ## Accepted requests -/

/-- **A caller gets all of what was asked for exactly when no identifying field that was inserted is
nested with an asked one.**  Inserted are the identifying fields of the variant that are not among
the caller's by name: nothing is compared but the texts.  So a request for something around an
identifying field, for something inside of it or for all of it by a wildcard loses it. -/
theorem asked_fields_kept_iff (hprepared : prepare endpoint cipher request = .ok prepared)
    (hfields : prepared.variant.fields.isSome = true) (key : String) :
    (KeepsAsked key prepared.callerFields prepared.inserted ↔
      ∀ identifier ∈ prepared.inserted, ∀ field ∈ prepared.callerFields,
        ¬ Nested identifier field) ∧
    ((∀ rule, endpoint.tokenization = some rule → fieldsParameter ∉ rule.parameters) →
      ∀ identifier, identifier ∈ prepared.inserted ↔
        identifier ∈ prepared.variant.insertedIdentifiers ∧
          identifier ∉ prepared.callerFields) := by
  refine ⟨keepsAsked_iff, ?_⟩
  intro htokens identifier
  have hadmitted := admission_of_prepare hprepared
  obtain ⟨hinserted, -⟩ := hadmitted.names hfields htokens
  have hcaller : prepared.callerFields
      = askedFields prepared.variant request.principal.scopes request.payload :=
    hadmitted.callerFields
  rw [hinserted, hcaller, unaskedIdentifiers, List.mem_filter, Bool.not_eq_true',
    List.contains_eq_mem, decide_eq_false_iff_not]

/-- Travel documents, with their numbers and their holders. -/
def passportCatalog : FieldCatalog where
  groups := Table.ofList
    [("dataset-documents", ⟨SortedSet.ofList ["houder", "reisdocumentnummer"], by decide⟩)]

/-- The shape of its records. -/
def passportShape : ResponseShape where
  fields := Shape.ofMembers
    [("houder", .object [("burgerservicenummer", .string "999990019")]),
      ("reisdocumentnummer", .string "NE3663258")]

/-- Its only variant; the register is always asked for the number of the holder, too. -/
def passportVariant : Variant :=
  ((Variant.ofRuleset "Zoek"
    (Ruleset.empty.insert "type" (ParameterPolicy.empty.allowValue "Zoek"))).withFields
      passportCatalog none passportShape).withInsertedIdentifiers ["houder.burgerservicenummer"]

/-- Its endpoint. -/
def passportEndpoint : Endpoint :=
  { Endpoint.ofService "paspoorten" "https://register.example/paspoorten" "/paspoorten" .empty with
      recordsKey := some "reisdocumenten" }.withVariant passportVariant

/-- A caller who holds all of it asks for fields. -/
def passportRequest (fields : List String) : Request where
  payload := [("fields", .ofStrings fields), ("type", .string "Zoek")]
  principal := ⟨"caller", SortedSet.singleton "dataset-documents"⟩
  correlationId := none
  taskDescription := none
  fullResult := false

/-- The number of the holder is inserted for a caller who asks for the number of the document, which
lies apart from it: nothing is lost. -/
theorem asked_fields_kept_of_document_number :
    ∃ prepared, prepare passportEndpoint ⟨Digest.hmacSha256, []⟩
        (passportRequest ["reisdocumentnummer"]) = .ok prepared ∧
      prepared.variant.fields.isSome = true ∧
      prepared.inserted = ["houder.burgerservicenummer"] ∧
      KeepsAsked "reisdocumenten" prepared.callerFields prepared.inserted := by
  have hevaluated : (prepare passportEndpoint ⟨Digest.hmacSha256, []⟩
      (passportRequest ["reisdocumentnummer"])).toOption.map
        (fun prepared => (prepared.variant.fields.isSome, prepared.callerFields, prepared.inserted))
      = some (true, ["reisdocumentnummer"], ["houder.burgerservicenummer"]) := by decide +kernel
  obtain ⟨prepared, hprepared, hparts⟩ := Fallible.exists_of_toOption_map hevaluated
  obtain ⟨hfields, hlists⟩ := Prod.mk.inj hparts
  obtain ⟨hcaller, hinserted⟩ := Prod.mk.inj hlists
  obtain ⟨hkeeps, -⟩ := asked_fields_kept_iff hprepared hfields "reisdocumenten"
  refine ⟨prepared, hprepared, hfields, hinserted, hkeeps.mpr ?_⟩
  rw [hcaller, hinserted]
  intro identifier hidentifier field hfield
  obtain rfl := List.mem_singleton.mp hidentifier
  obtain rfl := List.mem_singleton.mp hfield
  decide +kernel

/-- The register has one document, with its holder. -/
def passportBody : Json :=
  .object [("reisdocumenten", .array
    [.object [("houder", .object [("burgerservicenummer", .string "999990019"),
      ("geslachtsnaam", .string "Jansen")])]])]

/-- What is left of it for the caller. -/
def passportShown : Json :=
  .object [("reisdocumenten", .array
    [.object [("houder", .object [("geslachtsnaam", .string "Jansen")])]])]

/-- A caller who asks for the holder asks for the holder's number as well.  The register answers with
it, and it is taken out of the answer. -/
theorem holder_number_taken_out :
    ∃ prepared, prepare passportEndpoint ⟨Digest.hmacSha256, []⟩ (passportRequest ["houder"])
        = .ok prepared ∧
      prepared.variant.fields.isSome = true ∧
      (∃ field ∈ prepared.callerFields,
        Field.covers field "houder.burgerservicenummer" = true) ∧
      (passportBody.nested? (placeOf "reisdocumenten" 0 "houder.burgerservicenummer")).isSome
        = true ∧
      (Document.stripFields "reisdocumenten" prepared.inserted passportBody).nested?
        (placeOf "reisdocumenten" 0 "houder.burgerservicenummer") = none ∧
      (run passportEndpoint ⟨Digest.hmacSha256, []⟩ (fun _ => .ok ⟨200, none, passportBody⟩)
        (passportRequest ["houder"])).result = .ok ⟨200, none, passportShown⟩ := by
  have hevaluated : (prepare passportEndpoint ⟨Digest.hmacSha256, []⟩
      (passportRequest ["houder"])).toOption.map
        (fun prepared => (prepared.variant.fields.isSome, prepared.callerFields, prepared.inserted))
      = some (true, ["houder"], ["houder.burgerservicenummer"]) := by decide +kernel
  obtain ⟨prepared, hprepared, hparts⟩ := Fallible.exists_of_toOption_map hevaluated
  obtain ⟨hfields, hlists⟩ := Prod.mk.inj hparts
  obtain ⟨hcaller, hinserted⟩ := Prod.mk.inj hlists
  refine ⟨prepared, hprepared, hfields, ⟨"houder", ?_, by decide +kernel⟩, by decide +kernel, ?_,
    Fallible.eq_ok_of_toOption (by decide +kernel)⟩
  · rw [hcaller]
    exact List.mem_cons_self
  · rw [hinserted]
    decide +kernel

end Proxy

end RegistryGate
