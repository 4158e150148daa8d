/-
  What happens to the members of a document, name by name.

  Redirecting links treats each member by its name alone (`get?_redirectLinks`), and inside a list
  of records it treats each record as a document of its own (`redirectLinks_array`).  Changing the
  record list changes that list (`get?_modifyRecords_self`) and nothing beside it
  (`get?_modifyRecords_of_ne`).

  Completing an object treats its listed fields one after the other (`completeFields_cons`), each by
  what is requested inside of it and by its outline (`completeField`).

  No step touches a marker: what makes a record confidential is the same before and after its
  links are redirected (`isConfidential_redirectLinks`), and before and after it is completed
  (`isConfidential_completeRecord`), for a field that completion adds is never set.
-/
import RegistryGate.Document.Completion
import RegistryGate.Document.Links
import RegistryGate.Proofs.Ordered.Lookup

namespace RegistryGate.Document

/-! ## Redirected links -/

/-- What redirecting links makes of a member of a document. -/
def redirectMember (source target name : String) (value : Json) : Json :=
  if source.isEmpty then value else redirectIn source target (name == linksKey) value

/-- Outside of a links section a member is treated as its name and its value say.  Below such a name
the walk raises its flag; everywhere else the flag stays down. -/
theorem redirectMembers_eq_map (source target : String) (members : List (String × Json)) :
    redirectMembers source target false members
      = members.map fun e => (e.1, redirectIn source target (e.1 == linksKey) e.2) := by
  induction members with
  | nil => rfl
  | cons member rest ih =>
    obtain ⟨name, value⟩ := member
    rw [List.map_cons, ← ih]
    cases value with
    | string text => rfl
    | null | bool | number | array | object => rfl

/-- What is found under a name was treated as that name says. -/
theorem get?_redirectLinks (source target name : String) (document : Json) :
    (redirectLinks source target document).get? name
      = (document.get? name).map (redirectMember source target name) := by
  unfold redirectLinks redirectMember
  by_cases hsource : source.isEmpty = true
  · simp only [if_pos hsource, Option.map_id']
  · simp only [if_neg hsource]
    cases document with
    | object members =>
      rw [redirectIn, redirectMembers_eq_map]
      exact Members.get?_map (fun name => redirectIn source target (name == linksKey)) name members
    | null | bool | number | string | array => rfl

/-- A document with a single member shows what becomes of that member anywhere. -/
theorem redirectLinks_single (source target name : String) (value : Json) :
    redirectLinks source target (.object [(name, value)])
      = .object [(name, redirectMember source target name value)] := by
  unfold redirectLinks redirectMember
  by_cases hsource : source.isEmpty = true
  · simp only [if_pos hsource]
  · simp only [if_neg hsource]
    rw [redirectIn, redirectMembers_eq_map]
    rfl

/-- A member other than the links is treated as a document of its own. -/
theorem redirectMember_of_ne {name : String} (h : name ≠ linksKey) (source target : String) :
    redirectMember source target name = redirectLinks source target := by
  funext value
  rw [redirectMember, redirectLinks, beq_false_of_ne h]

/-- The items of a list are treated as documents of their own.  The items do not see one another. -/
theorem redirectLinks_array (source target : String) (items : List Json) :
    redirectLinks source target (.array items)
      = .array (items.map (redirectLinks source target)) := by
  unfold redirectLinks
  by_cases hsource : source.isEmpty = true
  · simp only [if_pos hsource, List.map_id']
  · simp only [if_neg hsource]
    rw [redirectIn]
    congr 1
    induction items with
    | nil => rfl
    | cons item rest ih => rw [redirectItems, ih, List.map_cons]

/-! ## The record list -/

/-- A document has a record list, which is all that is changed, or it has none and stays as it is. -/
theorem modifyRecords_cases (key : String) (document : Json) :
    (∃ members records, document = .object members ∧
      Members.get? key members = some (.array records) ∧
      ∀ change, modifyRecords key change document
        = .object (Members.insert key (.array (change records)) members)) ∨
    (∀ records, document.get? key ≠ some (.array records)) ∧
      ∀ change, modifyRecords key change document = document := by
  cases document with
  | null | bool | number | string | array =>
    exact Or.inr ⟨fun _ h => (nomatch h), fun _ => rfl⟩
  | object members =>
    show _ ∨ (∀ records, Members.get? key members ≠ some (.array records)) ∧ _
    cases hget : Members.get? key members with
    | none => exact Or.inr ⟨fun _ h => (nomatch h), fun _ => by rw [modifyRecords, hget]⟩
    | some value =>
      cases value with
      | array records =>
        exact Or.inl ⟨members, records, rfl, hget, fun _ => by rw [modifyRecords, hget]⟩
      | null | bool | number | string | object =>
        exact Or.inr ⟨fun _ h => (nomatch h), fun _ => by rw [modifyRecords, hget]⟩

/-- Two changes of the record list are one. -/
theorem modifyRecords_modifyRecords (key : String) (first second : List Json → List Json)
    (document : Json) :
    modifyRecords key second (modifyRecords key first document)
      = modifyRecords key (second ∘ first) document := by
  rcases modifyRecords_cases key document with ⟨members, records, rfl, -, hchanged⟩ | ⟨-, hsame⟩
  · rw [hchanged, hchanged, modifyRecords, Members.get?_insert_self]
    dsimp only
    rw [Members.insert_insert]
    rfl
  · rw [hsame, hsame, hsame]

/-- Records are dropped before the others are changed, or after, where changing a record makes no
difference to whether it is dropped. -/
theorem filter_mapRecords {keep : Json → Bool} {change : Json → Json}
    (h : ∀ record, keep (change record) = keep record) (key : String) (document : Json) :
    modifyRecords key (List.filter keep) (mapRecords key change document)
      = mapRecords key change (modifyRecords key (List.filter keep) document) := by
  have hkeep : keep ∘ change = keep := funext h
  -- what is dropped is the same on both sides, record by record
  have hchanges : List.filter keep ∘ List.map change = List.map change ∘ List.filter keep := by
    funext records
    show (records.map change).filter keep = (records.filter keep).map change
    rw [List.filter_map, hkeep]
  rw [mapRecords, mapRecords, modifyRecords_modifyRecords, modifyRecords_modifyRecords, hchanges]

/-- The record list is changed. -/
theorem get?_modifyRecords_self {key : String} {records : List Json} {document : Json}
    (h : document.get? key = some (.array records)) (change : List Json → List Json) :
    (modifyRecords key change document).get? key = some (.array (change records)) := by
  cases document with
  | object members =>
    have hmembers : Members.get? key members = some (.array records) := h
    simp only [modifyRecords, hmembers]
    exact Members.get?_insert_self key _ members
  | null | bool | number | string | array => cases h

/-- What stands beside the record list stays as it is. -/
theorem get?_modifyRecords_of_ne {key name : String} (h : name ≠ key)
    (change : List Json → List Json) (document : Json) :
    (modifyRecords key change document).get? name = document.get? name := by
  unfold modifyRecords
  split
  · split
    · exact Members.get?_insert_of_ne h _ _
    · rfl
  · rfl

/-- **The count of confidential records is that of the records that are gone.** -/
theorem length_records_filterConfidential (key marker : String) (document : Json) :
    (records key (filterConfidential key marker document).1).length
        + (filterConfidential key marker document).2
      = (records key document).length := by
  show (records key (hideConfidential key marker document)).length
    + (records key document).countP (isConfidential marker) = _
  rcases modifyRecords_cases key document with ⟨members, found, rfl, hfound, hchanged⟩ | ⟨hno, hsame⟩
  · -- with a record list, those that are kept and those that are counted are all of them
    have hbefore : records key (.object members) = found := by
      rw [records, Json.get?, hfound]
      rfl
    have hafter : records key (hideConfidential key marker (.object members))
        = found.filter fun record => !isConfidential marker record := by
      rw [hideConfidential, hchanged, records, Json.get?, Members.get?_insert_self]
      rfl
    have hothers : (fun record => decide ¬isConfidential marker record = true)
        = fun record => !isConfidential marker record := by
      funext record
      cases isConfidential marker record <;> rfl
    rw [hbefore, hafter, ← List.countP_eq_length_filter, Nat.add_comm,
      List.length_eq_countP_add_countP (isConfidential marker), hothers]
  · have hnone : records key document = [] := by
      rw [records]
      cases hget : document.get? key with
      | none => rfl
      | some value =>
        cases value with
        | array found => exact absurd hget (hno found)
        | null | bool | number | string | object => rfl
    rw [hideConfidential, hsame, hnone]
    rfl

/-- Removing a field drops a member, or it changes what is inside of one; where the way ends before
the names do, there is nothing to remove. -/
theorem removeSegments_cases (name : String) (rest : List String) (members : Members Json) :
    (rest = [] ∧ removeSegments (name :: rest) members = Members.erase name members) ∨
    (rest ≠ [] ∧ ∃ inner, Members.get? name members = some (.object inner) ∧
      removeSegments (name :: rest) members
        = Members.insert name (.object (removeSegments rest inner)) members) ∨
    (rest ≠ [] ∧ (∀ inner, Members.get? name members ≠ some (.object inner)) ∧
      removeSegments (name :: rest) members = members) := by
  cases rest with
  | nil => exact Or.inl ⟨rfl, rfl⟩
  | cons next others =>
    have hne : next :: others ≠ [] := List.cons_ne_nil next others
    rw [removeSegments]
    · cases Members.get? name members with
      | none => exact Or.inr (Or.inr ⟨hne, nofun, rfl⟩)
      | some value =>
        cases value with
        | object inner => exact Or.inr (Or.inl ⟨hne, inner, rfl, rfl⟩)
        | null | bool | number | string | array => exact Or.inr (Or.inr ⟨hne, nofun, rfl⟩)
    · exact hne

/-- Nothing is stripped from a record when no field is to be stripped. -/
theorem stripRecord_nil (record : Json) : stripRecord [] record = record := by
  cases record <;> rfl

/-- Stripping treats every record by itself. -/
theorem get?_stripFields_self {key : String} {records : List Json} {document : Json}
    (fields : List String) (h : document.get? key = some (.array records)) :
    (stripFields key fields document).get? key
      = some (.array (records.map (stripRecord fields))) := by
  unfold stripFields
  split
  · rename_i hempty
    have hnone : stripRecord fields = id := by
      funext record
      rw [List.isEmpty_iff.mp hempty, stripRecord_nil, id]
    rw [h, hnone, List.map_id]
  · exact get?_modifyRecords_self h _

theorem get?_stripFields_of_ne {key name : String} (fields : List String) (h : name ≠ key)
    (document : Json) : (stripFields key fields document).get? name = document.get? name := by
  unfold stripFields
  split
  · rfl
  · exact get?_modifyRecords_of_ne h _ _

/-! ## Completed fields -/

section

variable {requested inner : FieldTree} {name other : String}

/-- What becomes of a requested field: an absent one is put in, a present one is completed inside. -/
def completedField (inner : FieldTree) (shape : Shape) : Option Json → Json
  | none => absentField inner shape
  | some value => mapObjects (completeMembers (insideOf inner) shape) value

/-- Completes one field of an object. -/
def completeField (requested : FieldTree) (name : String) (shape : Shape) (members : Members Json) :
    Members Json :=
  match requestedIn? requested name with
  | none => members
  | some inner => Members.insert name (completedField inner shape (Members.get? name members)) members

theorem completeFields_cons (requested : FieldTree) (name : String) (shape : Shape)
    (rest : List (String × Shape)) (members : Members Json) :
    completeFields requested ((name, shape) :: rest) members
      = completeFields requested rest (completeField requested name shape members) := by
  rw [completeFields, completeField]
  cases requestedIn? requested name with
  | none => rfl
  | some inner => cases Members.get? name members <;> rfl

theorem completeField_of_none (h : requestedIn? requested name = none) (shape : Shape)
    (members : Members Json) : completeField requested name shape members = members := by
  rw [completeField, h]

theorem completeField_of_some (h : requestedIn? requested name = some inner) (shape : Shape)
    (members : Members Json) :
    completeField requested name shape members
      = Members.insert name (completedField inner shape (Members.get? name members)) members := by
  rw [completeField, h]

theorem get?_completeField_self (h : requestedIn? requested name = some inner) (shape : Shape)
    (members : Members Json) :
    Members.get? name (completeField requested name shape members)
      = some (completedField inner shape (Members.get? name members)) := by
  rw [completeField_of_some h, Members.get?_insert_self]

theorem get?_completeField_of_ne (h : other ≠ name) (requested : FieldTree) (shape : Shape)
    (members : Members Json) :
    Members.get? other (completeField requested name shape members)
      = Members.get? other members := by
  cases hinner : requestedIn? requested name with
  | none => rw [completeField_of_none hinner]
  | some inner => rw [completeField_of_some hinner, Members.get?_insert_of_ne h]

end

/-! ## Markers -/

/-- Redirecting keeps markers as they are, for only the targets of links change. -/
theorem isSet_redirectMember (source target name : String) (value : Json) :
    isSet (redirectMember source target name value) = isSet value := by
  unfold redirectMember
  split
  · rfl
  · cases value <;> rfl

/-- **A record is as confidential as before its links were redirected.** -/
theorem isConfidential_redirectLinks (source target marker : String) (record : Json) :
    isConfidential marker (redirectLinks source target record) = isConfidential marker record := by
  rw [isConfidential, isConfidential, get?_redirectLinks, Option.any_map]
  congr 1
  funext value
  exact isSet_redirectMember source target marker value

/-- A field that was absent is added without being set. -/
theorem isSet_absentField (inner : FieldTree) (shape : Shape) :
    isSet (absentField inner shape) = false := by
  cases shape with
  | object fields =>
    rw [absentField]
    split <;> rfl
  | scalar | list => rfl

/-- Completing what is inside of a value does not set it. -/
theorem isSet_mapObjects (change : Members Json → Members Json) (value : Json) :
    isSet (mapObjects change value) = isSet value := by
  cases value <;> rfl

/-- What becomes of a field is set exactly when the field was there and was set. -/
theorem isSet_completedField (inner : FieldTree) (shape : Shape) (found : Option Json) :
    isSet (completedField inner shape found) = found.any isSet := by
  cases found with
  | none => exact isSet_absentField inner shape
  | some value => exact isSet_mapObjects _ value

/-- Completing one field of an object sets none and clears none. -/
theorem any_isSet_completeField (requested : FieldTree) (marker name : String) (shape : Shape)
    (members : Members Json) :
    (Members.get? marker (completeField requested name shape members)).any isSet
      = (Members.get? marker members).any isSet := by
  by_cases hmarker : marker = name
  · subst hmarker
    cases hinner : requestedIn? requested marker with
    | none => rw [completeField_of_none hinner]
    | some inner => rw [get?_completeField_self hinner, Option.any_some, isSet_completedField]
  · rw [get?_completeField_of_ne hmarker]

/-- Completing the listed fields of an object, one after the other, sets none and clears none. -/
theorem any_isSet_completeFields (requested : FieldTree) (marker : String)
    (fields : List (String × Shape)) (members : Members Json) :
    (Members.get? marker (completeFields requested fields members)).any isSet
      = (Members.get? marker members).any isSet := by
  -- each field keeps the marker, whatever was done to those before
  induction fields generalizing members with
  | nil => rw [completeFields]
  | cons field rest ih =>
    obtain ⟨name, shape⟩ := field
    rw [completeFields_cons, ih, any_isSet_completeField]

/-- Completing an object sets no field and clears none. -/
theorem any_isSet_completeMembers (requested : FieldTree) (marker : String) (shape : Shape)
    (members : Members Json) :
    (Members.get? marker (completeMembers requested shape members)).any isSet
      = (Members.get? marker members).any isSet := by
  match shape with
  | .scalar => rw [completeMembers]
  | .list item =>
    rw [completeMembers]
    exact any_isSet_completeMembers requested marker item members
  | .object fields =>
    rw [completeMembers]
    exact any_isSet_completeFields requested marker fields members

/-- **A record is as confidential as before it was completed.** -/
theorem isConfidential_completeRecord (requested : FieldTree) (shape : Shape) (marker : String)
    (record : Json) :
    isConfidential marker (completeRecord requested shape record)
      = isConfidential marker record := by
  cases record with
  | object members => exact any_isSet_completeMembers requested marker shape members
  | null | bool | number | string | array => rfl

end RegistryGate.Document
