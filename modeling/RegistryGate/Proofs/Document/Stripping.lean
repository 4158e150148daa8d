/-
  What stripping takes away, and what it leaves.

  A document *loses* places (`Loses`) when nothing is found there any more and everything else is
  found where it was.  Losing can be followed along the code: dropping a member loses what stands
  behind its name (`Loses.erase`), an object or a list loses what is lost inside of it
  (`Loses.insert`, `Loses.array`), and two losses one after the other lose what either loses
  (`Loses.trans`).  So removing one field loses the places that begin with the field's names
  (`loses_removeSegments`), removing several loses the places of each, whether they lie inside of
  each other or apart (`loses_stripRecord`), and stripping a document loses those places in its
  records (`loses_stripFields`).

  Of an ordered document, what is lost determines what is left (`Loses.unique`).  That stripping
  depends neither on the order nor on the repetition of the fields, and that it settles at once, is
  therefore read off the places that are lost (`stripFields_exact`).
-/
import RegistryGate.Document.Records
import RegistryGate.Proofs.Document.Comparison
import RegistryGate.Proofs.Field.Order

namespace RegistryGate.Document

/-! ## Losing places -/

/-- A document has lost places: nothing is found there any more, and at any other place there is
what was there before. -/
structure Loses (Lost : Position → Prop) (before after : Json) : Prop where
  /-- Nothing is found at a lost place. -/
  gone : ∀ place, Lost place → after.nested? place = none
  /-- Everything else is found where it was. -/
  kept : ∀ place, ¬ Lost place → Option.Rel Kept (before.nested? place) (after.nested? place)

/-- Nothing cannot be kept as something. -/
theorem eq_none_of_relKept {found : Option Json} (h : Option.Rel Kept none found) :
    found = none := by
  cases h
  rfl

namespace Loses

variable {Lost Lost' : Position → Prop} {before middle after value found : Json} {name : String}
  {members : Members Json}

theorem congr (h : Loses Lost before after) (hiff : ∀ place, Lost' place ↔ Lost place) :
    Loses Lost' before after where
  gone place hlost := h.gone place ((hiff place).mp hlost)
  kept place hnot := h.kept place fun hlost => hnot ((hiff place).mpr hlost)

/-- A value that has nothing at the places to be lost stays as it is. -/
theorem of_absent (h : ∀ place, Lost place → value.nested? place = none) :
    Loses Lost value value where
  gone := h
  kept _ _ := relKept_refl _

/-- What is lost in two stages is what is lost in either. -/
theorem trans (h : Loses Lost before middle) (h' : Loses Lost' middle after) :
    Loses (fun place => Lost place ∨ Lost' place) before after where
  gone := by
    intro place hlost
    -- what the second stage loses is gone after it, whatever the first one has done
    by_cases hlater : Lost' place
    · exact h'.gone place hlater
    · -- what is lost at first does not come back
      have hmiddle : middle.nested? place = none := h.gone place (hlost.resolve_right hlater)
      have hkept := h'.kept place hlater
      rw [hmiddle] at hkept
      exact eq_none_of_relKept hkept
  kept := by
    intro place hnot
    obtain ⟨hfirst, hsecond⟩ := not_or.mp hnot
    exact relKept_trans (h.kept place hfirst) (h'.kept place hsecond)

/-- Dropping a member loses the member and everything inside of it. -/
theorem erase (name : String) (members : Members Json) :
    Loses (fun place => [.member name] <+: place) (.object members)
      (.object (Members.erase name members)) where
  gone := by
    rintro place ⟨rest, rfl⟩
    exact Json.nested?_erase_self name members rest
  kept := by
    intro place hnot
    cases place with
    | nil => exact .some trivial
    | cons step rest =>
      have hstep : step ≠ .member name := by
        rintro rfl
        exact hnot ⟨rest, rfl⟩
      rw [Json.nested?_erase_of_ne hstep]
      exact relKept_refl _

/-- An object loses what the value of a member loses. -/
theorem insert (hfound : Members.get? name members = some found) (h : Loses Lost found value) :
    Loses (fun place => ∃ rest, place = .member name :: rest ∧ Lost rest) (.object members)
      (.object (Members.insert name value members)) where
  gone := by
    rintro place ⟨rest, rfl, hlost⟩
    rw [Json.nested?_insert_self]
    exact h.gone rest hlost
  kept := by
    intro place hnot
    cases place with
    | nil => exact .some trivial
    | cons step rest =>
      by_cases hstep : step = .member name
      · subst hstep
        rw [Json.nested?_of_get? hfound, Json.nested?_insert_self]
        exact h.kept rest fun hlost => hnot ⟨rest, rfl, hlost⟩
      · rw [Json.nested?_insert_of_ne hstep]
        exact relKept_refl _

/-- A list loses what its items lose. -/
theorem array {change : Json → Json} {items : List Json}
    (h : ∀ item ∈ items, Loses Lost item (change item)) :
    Loses (fun place => ∃ index rest, place = .item index :: rest ∧ Lost rest) (.array items)
      (.array (items.map change)) where
  gone := by
    rintro place ⟨index, rest, rfl, hlost⟩
    rw [Json.nested?_map]
    cases hitem : items[index]? with
    | none => rfl
    | some item => exact (h item (List.mem_of_getElem? hitem)).gone rest hlost
  kept := by
    intro place hnot
    cases place with
    | nil => exact .some (List.length_map change).symm
    | cons step rest =>
      cases step with
      | member name => exact .none
      | item index =>
        rw [Json.nested?_map, Json.nested?_array_item]
        cases hitem : items[index]? with
        | none => exact .none
        | some item =>
          exact (h item (List.mem_of_getElem? hitem)).kept rest fun hlost =>
            hnot ⟨index, rest, rfl, hlost⟩

/-- What is not lost is found. -/
theorem exists_kept {place : Position} (h : Loses Lost before after) (hnot : ¬ Lost place)
    (hfound : before.nested? place = some found) :
    ∃ left, after.nested? place = some left ∧ Kept found left := by
  have hkept := h.kept place hnot
  rw [hfound] at hkept
  generalize after.nested? place = left at hkept ⊢
  cases hkept with
  | some hkept => exact ⟨_, rfl, hkept⟩

/-- Nothing is found that was not there. -/
theorem nested?_eq_none {place : Position} (h : Loses Lost before after)
    (hnone : before.nested? place = none) : after.nested? place = none := by
  by_cases hlost : Lost place
  · exact h.gone place hlost
  · have hkept := h.kept place hlost
    rw [hnone] at hkept
    exact eq_none_of_relKept hkept

/-- **What is lost determines what is left**, of ordered documents. -/
theorem unique {other : Json} (h : Loses Lost before after) (h' : Loses Lost before other)
    (hafter : after.Ordered) (hother : other.Ordered) : after = other := by
  -- at each place both have nothing, or what they have is kept from the same
  refine eq_of_alike hafter hother fun place => ?_
  by_cases hlost : Lost place
  · rw [h.gone place hlost, h'.gone place hlost]
    exact .none
  · exact relKept_trans (relKept_symm (h.kept place hlost)) (h'.kept place hlost)

/-- A value of which nothing is lost stays as it is, wherever it stands. -/
theorem nested?_eq (h : Loses Lost before after) (hbefore : before.Ordered)
    (hafter : after.Ordered) {place : Position} (hnot : ∀ rest, ¬ Lost (place ++ rest)) :
    after.nested? place = before.nested? place := by
  have hplace : ¬ Lost place := by
    have hhere := hnot []
    rwa [List.append_nil] at hhere
  refine eq_of_rel (relKept_symm (h.kept place hplace)) ?_
  intro left found hleft hfound _
  refine eq_of_alike (hafter.nested? hleft) (hbefore.nested? hfound) fun rest => ?_
  have hkept := h.kept (place ++ rest) (hnot rest)
  rw [Json.nested?_append, Json.nested?_append, hfound, hleft] at hkept
  exact relKept_symm hkept

end Loses

/-! ## Stripped records -/

/-- Holds of a place inside of a record that a field leads to, or leads to something around it. -/
def RemovedBy (fields : List String) (place : Position) : Prop :=
  ∃ field ∈ fields, (Field.segments field).map Step.member <+: place

/-- Holds of a place inside of a document that is taken away by stripping the records. -/
def Stripped (key : String) (fields : List String) (place : Position) : Prop :=
  ∃ index rest, place = .member key :: .item index :: rest ∧ RemovedBy fields rest

theorem removedBy_cons (field : String) (rest : List String) (place : Position) :
    RemovedBy (field :: rest) place ↔
      (Field.segments field).map Step.member <+: place ∨ RemovedBy rest place := by
  unfold RemovedBy
  simp only [List.mem_cons, exists_eq_or_imp]

/-- Inside of a value that is no object nothing has a name. -/
theorem nested?_member_of_not_object {value : Json} (h : ∀ members, value ≠ .object members)
    (name : String) (rest : Position) : value.nested? (.member name :: rest) = none := by
  cases value with
  | null | bool | number | string | array => rfl
  | object members => exact absurd rfl (h members)

/-- Removing a field loses what its names lead to, with everything inside of it. -/
theorem loses_removeSegments {names : List String} (hnames : names ≠ [])
    (members : Members Json) :
    Loses (fun place => names.map Step.member <+: place) (.object members)
      (.object (removeSegments names members)) := by
  -- along the names, from the record into the objects of its members
  induction names generalizing members with
  | nil => exact absurd rfl hnames
  | cons name rest ih =>
    -- the last name drops a member; before that the next object is entered, if there is one
    rcases removeSegments_cases name rest members with
      ⟨rfl, heq⟩ | ⟨hrest, inner, hinner, heq⟩ | ⟨hrest, hnone, heq⟩
    · rw [heq]
      exact Loses.erase name members
    · rw [heq]
      refine (Loses.insert hinner (ih hrest inner)).congr fun place => ?_
      rw [List.map_cons, List.cons_prefix_iff]
    · rw [heq]
      refine Loses.of_absent fun place hplace => ?_
      rw [List.map_cons, List.cons_prefix_iff] at hplace
      obtain ⟨inside, rfl, hinside⟩ := hplace
      obtain ⟨next, others, rfl⟩ := List.exists_cons_of_ne_nil hrest
      rw [List.map_cons, List.cons_prefix_iff] at hinside
      obtain ⟨deeper, rfl, -⟩ := hinside
      show (Members.get? name members).bind _ = none
      cases hget : Members.get? name members with
      | none => rfl
      | some value =>
        have hvalue : ∀ inner, value ≠ .object inner := fun inner heq =>
          hnone inner (heq ▸ hget)
        exact nested?_member_of_not_object hvalue next deeper

/-- Removing fields loses what each of them leads to. -/
theorem loses_foldl_removeSegments (fields : List String) (members : Members Json) :
    Loses (RemovedBy fields) (.object members)
      (.object (fields.foldl (fun ms field => removeSegments (Field.segments field) ms)
        members)) := by
  -- each field loses its own places, and those of the rest are lost after that
  induction fields generalizing members with
  | nil =>
    refine Loses.of_absent fun place hplace => ?_
    obtain ⟨field, hfield, -⟩ := hplace
    exact absurd hfield List.not_mem_nil
  | cons field rest ih =>
    have hfirst := loses_removeSegments (Field.segments_ne_nil field) members
    exact (hfirst.trans (ih _)).congr fun place => removedBy_cons field rest place

theorem loses_stripRecord (fields : List String) (record : Json) :
    Loses (RemovedBy fields) record (stripRecord fields record) := by
  cases record with
  | object members => exact loses_foldl_removeSegments fields members
  -- a record that is no object has no members, and every field starts with a name
  | null | bool | number | string | array =>
    refine Loses.of_absent fun place hplace => ?_
    obtain ⟨field, -, hprefix⟩ := hplace
    obtain ⟨name, rest, hsegments⟩ := List.exists_cons_of_ne_nil (Field.segments_ne_nil field)
    rw [hsegments, List.map_cons, List.cons_prefix_iff] at hprefix
    obtain ⟨inside, rfl, -⟩ := hprefix
    rfl

/-! ## Stripped documents -/

/-- **Stripping a document loses what the listed fields lead to in its records.** -/
theorem loses_stripFields (key : String) (fields : List String) (document : Json) :
    Loses (Stripped key fields) document (stripFields key fields document) := by
  unfold stripFields
  split
  · rename_i hempty
    refine Loses.of_absent fun place hplace => ?_
    obtain ⟨_, _, _, field, hfield, _⟩ := hplace
    rw [List.isEmpty_iff.mp hempty] at hfield
    exact absurd hfield List.not_mem_nil
  · rcases modifyRecords_cases key document with
      ⟨members, records, rfl, hrecords, hchanged⟩ | ⟨hnone, hsame⟩
    · rw [mapRecords, hchanged]
      refine (Loses.insert hrecords
        (Loses.array fun record _ => loses_stripRecord fields record)).congr fun place => ?_
      constructor
      · rintro ⟨index, rest, rfl, hremoved⟩
        exact ⟨_, rfl, index, rest, rfl, hremoved⟩
      · rintro ⟨_, rfl, index, rest, rfl, hremoved⟩
        exact ⟨index, rest, rfl, hremoved⟩
    · rw [mapRecords, hsame]
      refine Loses.of_absent fun place hplace => ?_
      obtain ⟨index, rest, rfl, -⟩ := hplace
      show (document.get? key).bind _ = none
      cases hget : document.get? key with
      | none => rfl
      | some value =>
        cases value with
        | array records => exact absurd hget (hnone records)
        | null | bool | number | string | object => rfl

/-- Removing a field keeps the members in order. -/
theorem ordered_removeSegments {names : List String} {members : Members Json}
    (h : (Json.object members).Ordered) :
    (Json.object (removeSegments names members)).Ordered := by
  induction names generalizing members with
  | nil => exact h
  | cons name rest ih =>
    -- dropping a member, changing one and leaving all as it is keep the order alike
    rcases removeSegments_cases name rest members with
      ⟨-, heq⟩ | ⟨-, inner, hinner, heq⟩ | ⟨-, -, heq⟩
    · rw [heq]
      exact h.erase name
    · rw [heq]
      exact h.insert (ih (h.get? hinner))
    · rw [heq]
      exact h

theorem ordered_stripRecord (fields : List String) {record : Json} (h : record.Ordered) :
    (stripRecord fields record).Ordered := by
  cases record with
  | null | bool | number | string | array => exact h
  | object members =>
    show (Json.object (fields.foldl _ members)).Ordered
    induction fields generalizing members with
    | nil => exact h
    | cons field rest ih => exact ih _ (ordered_removeSegments h)

theorem ordered_stripFields (key : String) (fields : List String) {document : Json}
    (h : document.Ordered) : (stripFields key fields document).Ordered := by
  unfold stripFields
  split
  · exact h
  · rcases modifyRecords_cases key document with
      ⟨members, records, rfl, hrecords, hchanged⟩ | ⟨-, hsame⟩
    · rw [mapRecords, hchanged]
      exact h.insert (Json.Ordered.map fun record hrecord =>
        ordered_stripRecord fields ((h.get? hrecords).of_item record hrecord))
    · rw [mapRecords, hsame]
      exact h

/-- The places that are taken away do not depend on the order of the fields. -/
theorem stripped_congr {key : String} {fields other : List String}
    (h : ∀ field, field ∈ other ↔ field ∈ fields) (place : Position) :
    Stripped key other place ↔ Stripped key fields place := by
  unfold Stripped RemovedBy
  simp only [h]

/-- A document without a record list stays as it is. -/
theorem stripFields_of_no_records {key : String} {document : Json} (fields : List String)
    (h : ∀ records, document.get? key ≠ some (.array records)) :
    stripFields key fields document = document := by
  unfold stripFields
  split
  · rfl
  · rcases modifyRecords_cases key document with
      ⟨members, records, rfl, hrecords, -⟩ | ⟨-, hsame⟩
    · exact absurd hrecords (h records)
    · exact hsame _

/-- A record that is no object stays as it is. -/
theorem nested?_stripFields_of_not_object {key : String} {document record : Json} {index : Nat}
    (fields : List String)
    (hrecord : document.nested? [.member key, .item index] = some record)
    (h : ∀ members, record ≠ .object members) :
    (stripFields key fields document).nested? [.member key, .item index] = some record := by
  obtain ⟨value, hvalue, hitem⟩ := Option.bind_eq_some_iff.mp hrecord
  cases value with
  | null | bool | number | string | object => cases hitem
  | array records =>
    rw [Json.nested?_array_item] at hitem
    obtain ⟨item, hat, hsame⟩ := Option.bind_eq_some_iff.mp hitem
    obtain rfl := Option.some.inj hsame
    have hkept : stripRecord fields item = item := by
      cases item with
      | null | bool | number | string | array => rfl
      | object members => exact absurd rfl (h members)
    show ((stripFields key fields document).get? key).bind _ = _
    rw [get?_stripFields_self fields hvalue, Option.bind_some, Json.nested?_map, hat,
      Option.bind_some, hkept]
    rfl

/-- **Stripping takes away the listed fields, and nothing else.**  What the document has at a place
is gone if names of a listed field, in a record, lead to the place or to something around it;
otherwise it is still there, a list with as many items, an object as an object even if it has lost
all its members.  Nothing is added.  A document without a record list, the members beside that list
and the records that are no objects stay as they are.  In an ordered document, as every one is that
was read, anything that no listed field leads into is the same as a whole; neither the order nor the
repetition of the fields matters; and stripping for a second time changes nothing. -/
theorem stripFields_exact (key : String) (fields : List String) (document : Json) :
    (∀ place found, document.nested? place = some found →
      (Stripped key fields place ∧ (stripFields key fields document).nested? place = none) ∨
      ¬ Stripped key fields place ∧
        ∃ left, (stripFields key fields document).nested? place = some left ∧ Kept found left) ∧
    (∀ place, document.nested? place = none →
      (stripFields key fields document).nested? place = none) ∧
    ((∀ records, document.get? key ≠ some (.array records)) →
      stripFields key fields document = document) ∧
    (∀ name, name ≠ key → (stripFields key fields document).get? name = document.get? name) ∧
    (∀ index record, document.nested? [.member key, .item index] = some record →
      (∀ members, record ≠ .object members) →
      (stripFields key fields document).nested? [.member key, .item index] = some record) ∧
    (document.Ordered →
      (∀ place, (∀ rest, ¬ Stripped key fields (place ++ rest)) →
        (stripFields key fields document).nested? place = document.nested? place) ∧
      (∀ other, (∀ field, field ∈ other ↔ field ∈ fields) →
        stripFields key other document = stripFields key fields document) ∧
      stripFields key fields (stripFields key fields document)
        = stripFields key fields document) := by
  have hloses := loses_stripFields key fields document
  refine ⟨?_, ?_, ?_, ?_, ?_, ?_⟩
  · intro place found hfound
    by_cases hlost : Stripped key fields place
    · exact Or.inl ⟨hlost, hloses.gone place hlost⟩
    · exact Or.inr ⟨hlost, hloses.exists_kept hlost hfound⟩
  · intro place hnone
    exact hloses.nested?_eq_none hnone
  · intro hnone
    exact stripFields_of_no_records fields hnone
  · intro name hname
    exact get?_stripFields_of_ne fields hname document
  · intro index record hrecord hother
    exact nested?_stripFields_of_not_object fields hrecord hother
  · -- in an ordered document the places that are lost say what is left
    intro hordered
    have hstripped := ordered_stripFields key fields hordered
    refine ⟨?_, ?_, ?_⟩
    · intro place hnot
      exact hloses.nested?_eq hordered hstripped hnot
    · intro other hsame
      have hother : Loses (Stripped key fields) document (stripFields key other document) :=
        (loses_stripFields key other document).congr fun place =>
          (stripped_congr hsame place).symm
      exact hother.unique hloses (ordered_stripFields key other hordered) hstripped
    · -- what is lost twice is lost once
      have htwice : Loses (Stripped key fields) document
          (stripFields key fields (stripFields key fields document)) :=
        (hloses.trans (loses_stripFields key fields _)).congr fun place => or_self_iff.symm
      exact htwice.unique hloses (ordered_stripFields key fields hstripped) hstripped

/-- An answer with two records, of which one has a name and a number and the other is a text. -/
def mixedDocument : Json :=
  .object [("personen", .array
    [.object [("naam", .object [("voornamen", .string "Jan")]), ("nummer", .string "1")],
      .string "geheim"]),
    ("type", .string "RaadpleegMetNummer")]

theorem ordered_mixedDocument : mixedDocument.Ordered := by
  have hname : (Json.object [("voornamen", .string "Jan")]).Ordered :=
    .object (by decide) (List.forall_mem_singleton.mpr (.string _))
  have hperson : (Json.object
      [("naam", .object [("voornamen", .string "Jan")]), ("nummer", .string "1")]).Ordered :=
    .object (by decide) (List.forall_mem_cons.mpr
      ⟨hname, List.forall_mem_singleton.mpr (.string _)⟩)
  exact .object (by decide) (List.forall_mem_cons.mpr
    ⟨.array (List.forall_mem_cons.mpr ⟨hperson, List.forall_mem_singleton.mpr (.string _)⟩),
      List.forall_mem_singleton.mpr (.string _)⟩)

/-- Of the first record the only member of its name is taken away, and the name stays; the type of
the answer stays as well, though a field of its name is taken from the records. -/
theorem stripFields_exact_of_mixed :
    mixedDocument.Ordered ∧
      (stripFields "personen" ["naam.voornamen", "type"] mixedDocument).nested?
        [.member "personen", .item 0, .member "naam", .member "voornamen"] = none ∧
      (∃ left, (stripFields "personen" ["naam.voornamen", "type"] mixedDocument).nested?
        [.member "personen", .item 0, .member "naam"] = some left ∧
          Kept (.object [("voornamen", .string "Jan")]) left) ∧
      (stripFields "personen" ["naam.voornamen", "type"] mixedDocument).get? "type"
        = some (.string "RaadpleegMetNummer") ∧
      stripFields "personen" ["type", "naam.voornamen", "type"] mixedDocument
        = stripFields "personen" ["naam.voornamen", "type"] mixedDocument := by
  obtain ⟨hplaces, -, -, hbeside, -, hordered⟩ :=
    stripFields_exact "personen" ["naam.voornamen", "type"] mixedDocument
  obtain ⟨-, hrepeated, -⟩ := hordered ordered_mixedDocument
  have hnames : Field.segments "naam.voornamen" = ["naam", "voornamen"] := by decide +kernel
  have htype : Field.segments "type" = ["type"] := by decide +kernel
  refine ⟨ordered_mixedDocument, ?_, ?_, ?_, ?_⟩
  · rcases hplaces [.member "personen", .item 0, .member "naam", .member "voornamen"]
      (.string "Jan") (by decide +kernel) with ⟨-, hgone⟩ | ⟨hnot, -⟩
    · exact hgone
    · refine (hnot ⟨0, _, rfl, "naam.voornamen", List.mem_cons_self, ?_⟩).elim
      rw [hnames]
      exact List.prefix_rfl
  · rcases hplaces [.member "personen", .item 0, .member "naam"]
      (.object [("voornamen", .string "Jan")]) (by decide +kernel) with ⟨hlost, -⟩ | ⟨-, hkept⟩
    · obtain ⟨index, rest, hplace, field, hfield, hprefix⟩ := hlost
      cases hplace
      rcases List.mem_cons.mp hfield with rfl | hfield
      · rw [hnames] at hprefix
        exact absurd hprefix (by decide)
      · obtain rfl := List.mem_singleton.mp hfield
        rw [htype] at hprefix
        exact absurd hprefix (by decide)
    · exact hkept
  · rw [hbeside "type" (by decide)]
    decide +kernel
  · refine hrepeated _ fun field => ?_
    simp only [List.mem_cons, List.not_mem_nil, or_false]
    constructor
    · rintro (hfield | hfield | hfield)
      · exact Or.inr hfield
      · exact Or.inl hfield
      · exact Or.inr hfield
    · rintro (hfield | hfield)
      · exact Or.inr (Or.inl hfield)
      · exact Or.inl hfield

end RegistryGate.Document
