/-
  A completed record is complete, and stays as it is.

  Completing an object treats its listed fields one after the other (`completeField`), each by what is
  requested inside of it and by its outline.  Fields of different names do not meet
  (`completeField_comm`), so every listed field is treated as if it stood alone
  (`get?_completeMembers`), and treating all of them twice is treating each of them twice.

  Two things follow.  A walk down a requested path finds its way through a completed record
  (`Leads`): by induction on the path, for every record.  And completing once is enough
  (`settles_of_ordered`): by induction on the shape, for a field that was put in is
  itself complete.  The statement on records and documents is `completion_complete`.
-/
import RegistryGate.Proofs.Document.Completion

namespace RegistryGate

namespace Document

variable {requested inner : FieldTree} {shape : Shape} {name other : String}

/-! ## Fields beside each other -/

/-- Of two fields of different names it does not matter which one is completed first. -/
theorem completeField_comm (h : name ≠ other) (requested : FieldTree) (shape outline : Shape)
    (members : Members Json) :
    completeField requested name shape (completeField requested other outline members)
      = completeField requested other outline (completeField requested name shape members) := by
  have hname := get?_completeField_of_ne h requested outline members
  have hother := get?_completeField_of_ne h.symm requested shape members
  -- a field that is not requested is not treated, so only two requested ones can meet
  cases hinner : requestedIn? requested name with
  | none => rw [completeField_of_none hinner, completeField_of_none hinner]
  | some inner =>
    cases houter : requestedIn? requested other with
    | none => rw [completeField_of_none houter, completeField_of_none houter]
    | some outer =>
      rw [completeField_of_some hinner _ (completeField _ _ _ _), hname,
        completeField_of_some houter _ (completeField _ _ _ _), hother,
        completeField_of_some hinner, completeField_of_some houter, Members.insert_comm h]

/-! ## All fields of an object -/

/-- A field that is not listed stays as it is. -/
theorem get?_completeFields_of_none {fields : List (String × Shape)}
    (h : Members.get? name fields = none) (requested : FieldTree) (members : Members Json) :
    Members.get? name (completeFields requested fields members) = Members.get? name members := by
  -- the fields before it have other names, and none of them touches it
  induction fields generalizing members with
  | nil => rw [completeFields]
  | cons field rest ih =>
    obtain ⟨first, outline⟩ := field
    rw [Members.get?] at h
    split at h
    · cases h
    · rename_i hne
      rw [completeFields_cons, ih h, get?_completeField_of_ne (Ne.symm hne)]

/-- A listed field is treated as if it stood alone.  Fields have different names, so only one turn
changes what stands under this one: the turns before it leave the name as it was, and so do those
behind it. -/
theorem get?_completeFields {fields : List (String × Shape)} (hsorted : Members.Sorted fields)
    (hinner : requestedIn? requested name = some inner)
    (hshape : Members.get? name fields = some shape) (members : Members Json) :
    Members.get? name (completeFields requested fields members)
      = some (completedField inner shape (Members.get? name members)) := by
  induction fields generalizing members with
  | nil => cases hshape
  | cons field rest ih =>
    obtain ⟨first, outline⟩ := field
    rw [completeFields_cons]
    by_cases hname : first = name
    · subst hname
      rw [Members.get?, if_pos rfl] at hshape
      obtain rfl := Option.some.inj hshape
      rw [get?_completeFields_of_none (Members.get?_eq_none_of_sorted hsorted),
        get?_completeField_self hinner]
    · rw [Members.get?, if_neg hname] at hshape
      rw [ih (List.pairwise_cons.1 hsorted).2 hshape, get?_completeField_of_ne (Ne.symm hname)]

/-- A requested field that the shape knows is treated as if it stood alone. -/
theorem get?_completeMembers (hordered : shape.Ordered)
    (hinner : requestedIn? requested name = some inner) {child : Shape}
    (hchild : shape.field? name = some child) (members : Members Json) :
    Members.get? name (completeMembers requested shape members)
      = some (completedField inner child (Members.get? name members)) := by
  -- a shape that lists fields is an object, or a list of what has them
  induction hordered with
  | scalar => cases hchild
  | list hitem ih =>
    rw [completeMembers]
    exact ih hchild
  | object hsorted hfields ih =>
    rw [completeMembers]
    exact get?_completeFields hsorted hinner hchild members

/-! ## Walks through a record -/

/-- Holds of a value that nothing is inside of. -/
def Scalar : Json → Prop
  | .array _ | .object _ => False
  | .null | .bool _ | .number _ | .string _ => True

/-- Holds of a walk down the names of a path that never meets an object without the next name.  It
comes to the end of the path, or stops before it at a scalar or at a list without items. -/
inductive Leads : List String → Json → Prop where
  /-- The walk is at the end of the path. -/
  | ends (value : Json) : Leads [] value
  /-- It stops at the absent value or at another scalar. -/
  | stops {value : Json} (hscalar : Scalar value) (path : List String) : Leads path value
  /-- It goes on through every item of a list, if there is one. -/
  | items {path : List String} {items : List Json} (h : ∀ item ∈ items, Leads path item) :
    Leads path (.array items)
  /-- It goes on to the member of the next name, which the object has. -/
  | member {name : String} {rest : List String} {value : Json} {members : Members Json}
    (hfound : Members.get? name members = some value) (h : Leads rest value) :
    Leads (name :: rest) (.object members)

/-- A walk goes through a value when it goes through the objects that the value is or lists. -/
theorem leads_mapObjects {change : Members Json → Members Json} {path : List String}
    (h : ∀ members, Leads path (.object (change members))) (value : Json) :
    Leads path (mapObjects change value) := by
  -- an item that is a list leads on into its items, so the induction is on the value
  induction value with
  | null | bool | number | string => exact .stops (by trivial) path
  | object members => exact h members
  | array items ih =>
    rw [mapObjects, mapObjectsOf_eq_map]
    refine .items fun item hitem => ?_
    obtain ⟨sent, hsent, rfl⟩ := List.mem_map.mp hitem
    exact ih sent hsent

/-- Only the empty path leads into a leaf. -/
theorem eq_nil_of_subtree?_leaf {tree sub : FieldTree} {path : List String}
    (hleaf : tree.isLeaf = true) (h : tree.subtree? path = some sub) : path = [] := by
  obtain rfl := FieldTree.isLeaf_iff.mp hleaf
  cases path with
  | nil => rfl
  | cons name rest => cases h

/-- Where a walk goes on in every completed object, it goes on in the value of a completed field. -/
theorem leads_completedField {path : List String} {sub : FieldTree}
    (hsub : inner.subtree? path = some sub)
    (h : ∀ members, Leads path (.object (completeMembers inner shape members)))
    (found : Option Json) : Leads path (completedField inner shape found) := by
  cases hleaf : inner.isLeaf with
  | true =>
    obtain rfl := eq_nil_of_subtree?_leaf hleaf hsub
    exact .ends _
  | false =>
    have hnot : ¬ inner.isLeaf = true := by rw [hleaf]; exact Bool.false_ne_true
    cases found with
    | some value =>
      rw [completedField, insideOf, if_neg hnot]
      exact leads_mapObjects h value
    | none =>
      rw [completedField]
      cases shape with
      | scalar => exact .stops (by trivial) path
      | list item => exact .items fun _ hitem => absurd hitem List.not_mem_nil
      | object fields =>
        rw [absentField, if_neg hnot]
        have hempty := h []
        rw [completeMembers] at hempty
        exact hempty

/-- **A completed object has what was asked for.**  The member is there because its field was
completed, and its value is where the walk goes on, one name shorter and with what was requested
below that name. -/
theorem leads_completeMembers {path : List String} {sub : FieldTree} (hordered : shape.Ordered)
    (hsub : requested.subtree? path = some sub) (hplain : everyField ∉ path)
    (hknown : (shape.resolveSegments path).isSome = true) (members : Members Json) :
    Leads path (.object (completeMembers requested shape members)) := by
  -- by induction on the path, for the subtree and the outline that are left of it
  induction path generalizing requested shape members with
  | nil => exact .ends _
  | cons name rest ih =>
    obtain ⟨inner, hget, hrest⟩ := Option.bind_eq_some_iff.mp hsub
    obtain ⟨hname, hplain⟩ := List.ne_and_not_mem_of_not_mem_cons hplain
    have hinner : requestedIn? requested name = some inner := by
      rw [requestedIn?, if_neg hname.symm, hget]
    obtain ⟨last, hlast⟩ := Option.isSome_iff_exists.mp hknown
    obtain ⟨child, hchild, hresolved⟩ := Option.bind_eq_some_iff.mp hlast
    refine .member (get?_completeMembers hordered hinner hchild members) ?_
    exact leads_completedField hrest (fun members => ih (hordered.of_field? hchild) hrest hplain
      (Option.isSome_iff_exists.mpr ⟨last, hresolved⟩) members) _

/-! ## Completing twice -/

/-- Changing the objects inside of a value twice changes nothing more, where changing an object
twice does not. -/
theorem mapObjects_mapObjects {change : Members Json → Members Json}
    (h : ∀ members, change (change members) = change members) (value : Json) :
    mapObjects change (mapObjects change value) = mapObjects change value := by
  induction value with
  | null | bool | number | string => rfl
  | object members => exact congrArg Json.object (h members)
  | array items ih =>
    rw [mapObjects, mapObjects, mapObjectsOf_eq_map, mapObjectsOf_eq_map, List.map_map]
    exact congrArg Json.array (List.map_congr_left ih)

/-- Holds of a shape when an object that was completed along it is complete, whatever the request. -/
def Settles (shape : Shape) : Prop :=
  ∀ requested members, completeMembers requested shape (completeMembers requested shape members)
    = completeMembers requested shape members

/-- The value of a completed field is complete. -/
theorem completedField_completedField (h : Settles shape)
    (inner : FieldTree) (found : Option Json) :
    completedField inner shape (some (completedField inner shape found))
      = completedField inner shape found := by
  cases found with
  | some value => exact mapObjects_mapObjects (h (insideOf inner)) value
  | none =>
    show mapObjects (completeMembers (insideOf inner) shape) (absentField inner shape)
      = absentField inner shape
    cases shape with
    | scalar | list => rfl
    | object fields =>
      rw [absentField]
      split
      · rfl
      · rename_i hleaf
        -- the object is made from nothing, and completing it again changes nothing
        have hempty := h inner []
        rw [completeMembers, completeMembers] at hempty
        rw [insideOf, if_neg hleaf]
        exact congrArg Json.object hempty

/-- Completing one field twice changes nothing more. -/
theorem completeField_completeField (h : Settles shape)
    (requested : FieldTree) (name : String) (members : Members Json) :
    completeField requested name shape (completeField requested name shape members)
      = completeField requested name shape members := by
  cases hinner : requestedIn? requested name with
  | none => rw [completeField_of_none hinner, completeField_of_none hinner]
  | some inner =>
    rw [completeField_of_some hinner _ (completeField _ _ _ _), get?_completeField_self hinner,
      completedField_completedField h, completeField_of_some hinner, Members.insert_insert]

/-- A field may be completed before fields of other names, or after them. -/
theorem completeField_completeFields {fields : List (String × Shape)}
    (h : ∀ field ∈ fields, name ≠ field.1) (requested : FieldTree) (shape : Shape)
    (members : Members Json) :
    completeField requested name shape (completeFields requested fields members)
      = completeFields requested fields (completeField requested name shape members) := by
  -- one swap for each of the fields
  induction fields generalizing members with
  | nil => rw [completeFields, completeFields]
  | cons field rest ih =>
    obtain ⟨first, outline⟩ := field
    obtain ⟨hfirst, hrest⟩ := List.forall_mem_cons.mp h
    rw [completeFields_cons, completeFields_cons, ih hrest, completeField_comm hfirst]

/-- Completing the listed fields twice changes nothing more. -/
theorem completeFields_completeFields {fields : List (String × Shape)}
    (hsorted : Members.Sorted fields)
    (h : ∀ field ∈ fields, Settles field.2) (requested : FieldTree) (members : Members Json) :
    completeFields requested fields (completeFields requested fields members)
      = completeFields requested fields members := by
  induction fields generalizing members with
  | nil => rw [completeFields, completeFields]
  | cons field rest ih =>
    obtain ⟨name, shape⟩ := field
    obtain ⟨hshape, hrest⟩ := List.forall_mem_cons.mp h
    obtain ⟨hbehind, hsorted⟩ := List.pairwise_cons.1 hsorted
    have hnames : ∀ field ∈ rest, name ≠ field.1 := by
      rintro field hfield rfl
      exact absurd (hbehind field.1 (List.mem_map_of_mem hfield)) (by simp)
    -- the second pass over a field is moved up to the first one, and the two of them are one
    calc completeFields requested ((name, shape) :: rest)
          (completeFields requested ((name, shape) :: rest) members)
        = completeFields requested rest (completeField requested name shape
            (completeFields requested rest (completeField requested name shape members))) := by
          rw [completeFields_cons, completeFields_cons]
      _ = completeFields requested rest (completeFields requested rest
            (completeField requested name shape (completeField requested name shape members))) := by
          rw [completeField_completeFields hnames]
      _ = completeFields requested rest (completeField requested name shape members) := by
          rw [completeField_completeField hshape, ih hsorted hrest]
      _ = completeFields requested ((name, shape) :: rest) members := by
          rw [completeFields_cons]

/-- **Completing an object twice changes nothing more.**  A value that was there is completed
inside, where the same holds; one that was not there was made from nothing, and completing it again
changes nothing either. -/
theorem settles_of_ordered (hordered : shape.Ordered) : Settles shape := by
  -- by induction on the shape, for every request and every object
  induction hordered with
  | scalar =>
    intro requested members
    rw [completeMembers, completeMembers]
  | list hitem ih =>
    intro requested members
    rw [completeMembers, completeMembers]
    exact ih requested members
  | object hsorted hfields ih =>
    intro requested members
    rw [completeMembers, completeMembers]
    exact completeFields_completeFields hsorted ih requested members

/-- Completing a record twice changes nothing more. -/
theorem completeRecord_completeRecord (hordered : shape.Ordered) (requested : FieldTree)
    (record : Json) :
    completeRecord requested shape (completeRecord requested shape record)
      = completeRecord requested shape record := by
  cases record with
  | object members =>
    exact congrArg Json.object (settles_of_ordered hordered requested members)
  | null | bool | number | string | array => rfl

/-- **Completion is complete and settles at once.**  Take a path without a star that is requested,
and that the shape knows.  A walk down this path through a completed record, through every item of
any list on the way, never meets an object without the next name: it comes to the end of the path,
or stops at a scalar or at a list without items.  A completed record is left as it is when it is
completed again, and so is a document of which the records are completed. -/
theorem completion_complete {shape : Shape} (hordered : shape.Ordered) (requested : FieldTree) :
    (∀ members path, (requested.subtree? path).isSome = true → everyField ∉ path →
      (shape.resolveSegments path).isSome = true →
      Leads path (completeRecord requested shape (.object members))) ∧
    (∀ record, completeRecord requested shape (completeRecord requested shape record)
      = completeRecord requested shape record) ∧
    ∀ key document, completeRecords key requested shape (completeRecords key requested shape document)
      = completeRecords key requested shape document := by
  refine ⟨fun members path hrequested hplain hknown => ?_,
    completeRecord_completeRecord hordered requested, fun key document => ?_⟩
  · obtain ⟨sub, hsub⟩ := Option.isSome_iff_exists.mp hrequested
    exact leads_completeMembers hordered hsub hplain hknown members
  · have hmap : List.map (completeRecord requested shape) ∘ List.map (completeRecord requested shape)
        = List.map (completeRecord requested shape) := by
      funext records
      show (records.map _).map _ = _
      rw [List.map_map]
      exact List.map_congr_left fun record _ => completeRecord_completeRecord hordered requested record
    rw [completeRecords, mapRecords, completeRecords, mapRecords, modifyRecords_modifyRecords, hmap]

/-- A record of which the second child is unknown. -/
def familyRecord : Members Json :=
  [("kinderen", .array [.object [("burgerservicenummer", .string "2")], .null])]

/-- The names of children are asked for: each child that is an object has one in the end, and the
document of one such record changes when it is completed, but only once. -/
theorem completion_complete_of_child :
    familyShape.Ordered ∧
      Leads ["kinderen", "naam"] (completeRecord familyRequest familyShape (.object familyRecord)) ∧
      completeRecords "personen" familyRequest familyShape familyDocument ≠ familyDocument ∧
      completeRecords "personen" familyRequest familyShape
          (completeRecords "personen" familyRequest familyShape familyDocument)
        = completeRecords "personen" familyRequest familyShape familyDocument := by
  obtain ⟨hleads, -, hdocument⟩ := completion_complete ordered_familyShape familyRequest
  refine ⟨ordered_familyShape, ?_, by decide +kernel, hdocument "personen" familyDocument⟩
  exact hleads familyRecord ["kinderen", "naam"] (by decide) (by decide) (by decide)

end Document

end RegistryGate
