/-
  Where the texts and numbers of a document come from.

  Completing records adds values that are blank, and stripping them takes values out: neither step
  makes up a text or a number, nor moves one (`NoNewTexts`).  So what an answer has at a place is
  what the document had there before.  The walk that replaces texts moves none either: what it leaves
  at a place was made of the text there, or was there as it is (`exists_sent_of_replaceTexts`).
-/
import RegistryGate.Proofs.Document.Stripping
import RegistryGate.Proofs.Document.Tokens

namespace RegistryGate.Document

/-- Every text and every number of a document stood at the same place before. -/
def NoNewTexts (before after : Json) : Prop :=
  ∀ place value text, after.nested? place = some value → identifierText? value = some text →
    before.nested? place = some value

namespace NoNewTexts

variable {before after : Json}

theorem refl (value : Json) : NoNewTexts value value := fun _ _ _ h _ => h

theorem trans {middle : Json} (h : NoNewTexts before middle) (h' : NoNewTexts middle after) :
    NoNewTexts before after :=
  fun place value text hvalue htext => h place value text (h' place value text hvalue htext) htext

/-- Growing adds blank values only. -/
theorem of_grows {Allowed : List String → Prop} (h : Grows Allowed before after) :
    NoNewTexts before after := by
  intro place value text hvalue htext
  -- a text that is new would not be blank
  cases hbefore : before.nested? place with
  | none =>
    obtain ⟨hblank, -⟩ := h.added place value hbefore hvalue
    cases value with
    | number | string => exact hblank.elim
    | null | bool | array | object => cases htext
  | some sent =>
    obtain ⟨found, hfound, hkept⟩ := h.kept place sent hbefore
    obtain rfl := Option.some.inj (hfound.symm.trans hvalue)
    rw [hkept.eq_of_text htext]

/-- Losing places adds nothing. -/
theorem of_loses {Lost : Position → Prop} (h : Loses Lost before after) :
    NoNewTexts before after := by
  intro place value text hvalue htext
  have hnot : ¬ Lost place := by
    intro hlost
    rw [h.gone place hlost] at hvalue
    cases hvalue
  have hrel := h.kept place hnot
  rw [hvalue] at hrel
  generalize before.nested? place = sent at hrel ⊢
  cases hrel with
  | some hkept => rw [hkept.eq_of_text htext]

/-! ## Stripping and completing -/

theorem stripFields (key : String) (fields : List String) (document : Json) :
    NoNewTexts document (Document.stripFields key fields document) :=
  of_loses (loses_stripFields key fields document)

theorem completeRecords (key : String) (requested : FieldTree) (shape : Shape) (document : Json) :
    NoNewTexts document (Document.completeRecords key requested shape document) :=
  of_grows (grows_completeRecords key requested shape document)

end NoNewTexts

/-! ## Replacing -/

section

variable {ε : Type} {fields : List String} {replacement : String → Except ε String}

/-- Holds where the walk replaces a value: a text that is the value of a named member. -/
def Replaces (fields : List String) (place : Position) (value : Json) : Prop :=
  ∃ name text, place.getLast? = some (.member name) ∧ name ∈ fields ∧ value = .string text

/-- Anywhere else the walk only goes on inside. -/
theorem replaceBehind_of_not_replaces {place : Position} {value : Json}
    (h : ¬ Replaces fields place value) :
    replaceBehind fields replacement place.getLast? value
      = replaceTexts fields replacement value := by
  cases hlast : place.getLast? with
  | none => rfl
  | some step =>
    cases step with
    | item index => rfl
    | member name =>
      cases value with
      | null | bool | number | array | object => rfl
      | string text =>
        rw [replaceBehind, replaceMember, if_neg]
        · rfl
        · exact fun hname => h ⟨name, text, hlast, List.contains_iff_mem.mp hname, rfl⟩

/-- **A text or a number that the walk leaves behind** was made of a text that is replaced, or was
there as it is. -/
theorem exists_sent_of_replaceTexts {document out value : Json} {place : Position} {text : String}
    (h : replaceTexts fields replacement document = .ok out)
    (hvalue : out.nested? place = some value) (htext : identifierText? value = some text) :
    ∃ sent, document.nested? place = some sent ∧
      (Replaces fields place sent ∧ (∃ plain token, sent = .string plain ∧
          value = .string token ∧ replacement plain = .ok token) ∨
        ¬ Replaces fields place sent ∧ value = sent) := by
  obtain ⟨sent, hsent, hreplaced⟩ := exists_nested?_of_replaceTexts h hvalue
  refine ⟨sent, hsent, ?_⟩
  by_cases hreplaces : Replaces fields place sent
  · obtain ⟨name, plain, hlast, hname, rfl⟩ := hreplaces
    rw [hlast, replaceBehind, replaceMember, if_pos (List.contains_iff_mem.mpr hname)] at hreplaced
    obtain ⟨token, htoken, rfl⟩ := Fallible.map_eq_ok_iff.mp hreplaced
    exact Or.inl ⟨⟨name, plain, hlast, hname, rfl⟩, plain, token, rfl, rfl, htoken⟩
  · -- lists and objects have no text, so what was not replaced is a scalar, which the walk leaves
    refine Or.inr ⟨hreplaces, ?_⟩
    rw [replaceBehind_of_not_replaces hreplaces] at hreplaced
    cases sent with
    | null | bool | number | string => exact (Except.ok.inj hreplaced).symm
    | array items =>
      obtain ⟨shown, -, rfl⟩ := replaceTexts_array.mp hreplaced
      cases htext
    | object members =>
      obtain ⟨shown, -, rfl⟩ := replaceTexts_object.mp hreplaced
      cases htext

/-- Of one text, one list and one number under the same name only the text is replaced. -/
example :
    replaceTexts ["bsn"] (fun _ => (.ok "token" : Except String String))
        (.array [.object [("bsn", .string "1")], .object [("bsn", .array [.string "1"])],
          .object [("bsn", .number (.integer 1))]])
      = .ok (.array [.object [("bsn", .string "token")], .object [("bsn", .array [.string "1"])],
          .object [("bsn", .number (.integer 1))]]) := rfl

end

end RegistryGate.Document
