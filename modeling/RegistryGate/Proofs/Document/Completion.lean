/-
  Completion only adds, and only what was asked for.

  A document grows (`Grows`) when whatever was at a position is still there, and whatever is new is
  blank: the absent value, an empty list, or an object of which every member is new in turn.
  Growing is transitive, so that completion may be followed field by field, and one field is a
  member that is put in (`grows_insert_new`) or one inside of which the document grows
  (`grows_insert`).

  Where completion may add a field is said by `Addable`, which walks down the requested names and
  the shape together.  An addable path is known to the shape (`Addable.known`) and belongs to a
  request (`Addable.exists_request`); the statement on documents is
  `completeRecords_adds_only_requested`.
-/
import RegistryGate.Proofs.Document.Records
import RegistryGate.Proofs.Json.Induction
import RegistryGate.Proofs.Json.Position

namespace RegistryGate

/-! ## Shapes -/

namespace Shape

/-- Induction over a shape, the items of its lists and the fields of its objects. -/
@[elab_as_elim]
theorem nestedInduction {motive : Shape → Prop} (scalar : motive .scalar)
    (list : ∀ item, motive item → motive (.list item))
    (object : ∀ fields, (∀ field ∈ fields, motive field.2) → motive (.object fields))
    (shape : Shape) : motive shape :=
  match shape with
  | .scalar => scalar
  | .list item => list item (nestedInduction scalar list object item)
  | .object fields => object fields fun field hfield =>
    have hchild : sizeOf field.2 < sizeOf fields := by
      have hlist := List.sizeOf_lt_of_mem hfield
      obtain ⟨name, child⟩ := field
      rw [Prod.mk.sizeOf_spec] at hlist
      dsimp only
      omega
    nestedInduction scalar list object field.2
termination_by sizeOf shape

/-- A field is listed by an object, or by the items of a list. -/
def HasField (shape : Shape) (name : String) (child : Shape) : Prop :=
  ∃ fields, shape.fields? = some fields ∧ (name, child) ∈ fields

/-- The fields of every object in a shape come in ascending order of their names, each name once. -/
inductive Ordered : Shape → Prop where
  /-- A scalar has no fields. -/
  | scalar : Ordered .scalar
  /-- The fields of a list are those of its items. -/
  | list {item : Shape} (hitem : Ordered item) : Ordered (.list item)
  /-- The fields of an object come in order, and so do those inside of each. -/
  | object {fields : List (String × Shape)} (hsorted : Members.Sorted fields)
    (hfields : ∀ field ∈ fields, Ordered field.2) : Ordered (.object fields)

/-- In an ordered shape a listed field is the one that is found under its name. -/
theorem Ordered.field? {shape : Shape} (h : shape.Ordered) {name : String} {child : Shape}
    (hfield : shape.HasField name child) : shape.field? name = some child ∧ child.Ordered := by
  obtain ⟨fields, hfields, hmem⟩ := hfield
  induction h with
  | scalar => cases hfields
  | list _ ih => exact ih hfields
  | object hsorted hordered =>
    cases hfields
    exact ⟨Members.get?_of_mem hsorted hmem, hordered _ hmem⟩

/-- The outline of a field of an ordered shape is ordered. -/
theorem Ordered.of_field? {shape child : Shape} {name : String} (h : shape.Ordered)
    (hchild : shape.field? name = some child) : child.Ordered := by
  obtain ⟨fields, hfields, hget⟩ := Option.bind_eq_some_iff.mp hchild
  exact (h.field? ⟨fields, hfields, Members.mem_of_get? hget⟩).2

end Shape

/-! ## Requests -/

namespace FieldTree

/-- The subtree at a path, given by the names along it. -/
def subtree? (tree : FieldTree) : List String → Option FieldTree
  | [] => some tree
  | name :: rest => (tree.get? name).bind fun child => child.subtree? rest

/-- Holds of the paths that a tree requests: those that end where it ends. -/
def Requests (tree : FieldTree) (path : List String) : Prop :=
  path ≠ [] ∧ tree.subtree? path = some leaf

theorem isLeaf_iff {tree : FieldTree} : tree.isLeaf = true ↔ tree = leaf := by
  obtain ⟨children⟩ := tree
  cases children with
  | nil => exact iff_of_true rfl rfl
  | cons child rest => exact iff_of_false (fun h => nomatch h) (fun h => nomatch h)

/-- The path that goes to the first child as long as there is one. -/
def firstPath : FieldTree → List String
  | .node [] => []
  | .node ((name, child) :: _) => name :: firstPath child

/-- Every tree ends somewhere. -/
theorem subtree?_firstPath (tree : FieldTree) : tree.subtree? tree.firstPath = some leaf := by
  -- trees are finite, so the way down the first children ends
  match tree with
  | .node [] => rfl
  | .node ((name, child) :: rest) =>
    have hget : (FieldTree.node ((name, child) :: rest)).get? name = some child := if_pos rfl
    rw [firstPath, subtree?, hget]
    exact subtree?_firstPath child

/-- A request inside of a child is a request. -/
theorem requests_cons {tree child : FieldTree} {name : String} {path : List String}
    (hchild : tree.get? name = some child) (h : child.subtree? path = some leaf) :
    tree.Requests (name :: path) := by
  refine ⟨List.cons_ne_nil name path, ?_⟩
  rw [subtree?, hchild]
  exact h

end FieldTree

namespace Document

/-- What precedes the star in a requested path. -/
def beforeStar (path : List String) : List String := path.takeWhile (· != everyField)

/-! ## Growing documents -/

/-- Holds of a value and what has become of it: a list is as long as before, an object is still an
object, and anything else is the same. -/
def Kept : Json → Json → Prop
  | .array before, .array after => before.length = after.length
  | .object _, .object _ => True
  | before, after => before = after

/-- Holds of the values that stand for what is absent: the absent value, the empty list, and
objects. -/
def Blank : Json → Prop
  | .null | .object _ => True
  | .array items => items = []
  | .bool _ | .number _ | .string _ => False

theorem Kept.refl (value : Json) : Kept value value := by
  cases value <;> first | rfl | trivial

theorem Kept.trans {a b c : Json} (h : Kept a b) (h' : Kept b c) : Kept a c := by
  cases a with
  | null | bool | number | string =>
    obtain rfl : _ = b := h
    exact h'
  | object members =>
    cases b with
    | object =>
      cases c with
      | object => trivial
      | null | bool | number | string | array => cases h'
    | null | bool | number | string | array => cases h
  | array items =>
    cases b with
    | array =>
      cases c with
      | array => exact Eq.trans h h'
      | null | bool | number | string | object => cases h'
    | null | bool | number | string | object => cases h

theorem Blank.of_kept {a b : Json} (ha : Blank a) (h : Kept a b) : Blank b := by
  cases a with
  | null | bool | number | string =>
    obtain rfl : _ = b := h
    exact ha
  | object members =>
    cases b with
    | object => trivial
    | null | bool | number | string | array => cases h
  | array items =>
    cases b with
    | array found =>
      obtain rfl : items = [] := ha
      exact List.length_eq_zero_iff.mp h.symm
    | null | bool | number | string | object => cases h

/-- A document has grown: what was at a position is still there, and what is new is blank and at an
allowed path. -/
structure Grows (Allowed : List String → Prop) (before after : Json) : Prop where
  /-- Nothing is lost and nothing is moved. -/
  kept : ∀ position value, before.nested? position = some value →
    ∃ found, after.nested? position = some found ∧ Kept value found
  /-- Only blank values are added, and only where it is allowed. -/
  added : ∀ position value, before.nested? position = none →
    after.nested? position = some value → Blank value ∧ Allowed (Position.names position)

namespace Grows

variable {Allowed : List String → Prop} {before after : Json}

theorem refl (Allowed : List String → Prop) (value : Json) : Grows Allowed value value where
  kept := fun _ found hfound => ⟨found, hfound, Kept.refl found⟩
  added := fun _ _ hnone hsome => absurd (hnone.symm.trans hsome) (fun h => nomatch h)

theorem mono {Allowed' : List String → Prop} (h : Grows Allowed before after)
    (himp : ∀ path, Allowed path → Allowed' path) : Grows Allowed' before after where
  kept := h.kept
  added := fun position value hnone hsome =>
    (h.added position value hnone hsome).imp_right (himp _)

/-- Growing twice is growing. -/
theorem trans {middle : Json} (h : Grows Allowed before middle) (h' : Grows Allowed middle after) :
    Grows Allowed before after where
  kept := by
    intro position value hvalue
    obtain ⟨between, hbetween, hkept⟩ := h.kept position value hvalue
    obtain ⟨found, hfound, hkept'⟩ := h'.kept position between hbetween
    exact ⟨found, hfound, hkept.trans hkept'⟩
  added := by
    intro position value hnone hsome
    cases hmiddle : middle.nested? position with
    | none => exact h'.added position value hmiddle hsome
    | some between =>
      -- it was added at first, and then it was kept
      obtain ⟨hblank, hallowed⟩ := h.added position between hnone hmiddle
      obtain ⟨found, hfound, hkept⟩ := h'.kept position between hmiddle
      obtain rfl := Option.some.inj (hfound.symm.trans hsome)
      exact ⟨hblank.of_kept hkept, hallowed⟩

/-- A list grows when every item does. -/
theorem array {change : Json → Json} {items : List Json}
    (h : ∀ item ∈ items, Grows Allowed item (change item)) :
    Grows Allowed (.array items) (.array (items.map change)) where
  kept := by
    intro position value hvalue
    match position with
    | [] =>
      obtain rfl := Option.some.inj hvalue
      exact ⟨.array (items.map change), rfl, (List.length_map change).symm⟩
    | .member name :: rest => cases hvalue
    | .item index :: rest =>
      obtain ⟨item, hitem, hinner⟩ := Option.bind_eq_some_iff.mp hvalue
      obtain ⟨found, hfound, hkept⟩ :=
        (h item (List.mem_of_getElem? hitem)).kept rest value hinner
      refine ⟨found, ?_, hkept⟩
      rw [Json.nested?_map]
      exact Option.bind_eq_some_iff.mpr ⟨item, hitem, hfound⟩
  added := by
    intro position value hnone hsome
    match position with
    | [] => cases hnone
    | .member name :: rest => cases hsome
    | .item index :: rest =>
      rw [Json.nested?_map] at hsome
      obtain ⟨item, hitem, hinner⟩ := Option.bind_eq_some_iff.mp hsome
      have hbefore : item.nested? rest = none := by
        rw [Json.nested?_array_item, hitem] at hnone
        exact hnone
      exact (h item (List.mem_of_getElem? hitem)).added rest value hbefore hinner

end Grows

section

variable {Allowed : List String → Prop} {name : String} {value : Json} {members : Members Json}

/-- An object grows when the value of one member does. -/
theorem grows_insert {found : Json} (hfound : Members.get? name members = some found)
    (h : Grows (fun path => Allowed (name :: path)) found value) :
    Grows Allowed (.object members) (.object (Members.insert name value members)) where
  kept := by
    intro position inner hinner
    match position with
    | [] =>
      obtain rfl := Option.some.inj hinner
      exact ⟨_, rfl, trivial⟩
    | step :: rest =>
      by_cases hstep : step = .member name
      · subst hstep
        rw [Json.nested?_insert_self]
        refine h.kept rest inner ?_
        rw [← hinner, Json.nested?_of_get? hfound]
      · rw [Json.nested?_insert_of_ne hstep]
        exact ⟨inner, hinner, Kept.refl inner⟩
  added := by
    intro position inner hnone hsome
    match position with
    | [] => cases hnone
    | step :: rest =>
      by_cases hstep : step = .member name
      · subst hstep
        rw [Json.nested?_insert_self] at hsome
        refine h.added rest inner ?_ hsome
        rw [← hnone, Json.nested?_of_get? hfound]
      · rw [Json.nested?_insert_of_ne hstep] at hsome
        cases hnone.symm.trans hsome

/-- An object grows when a member is put in that it did not have, of which everything is blank. -/
theorem grows_insert_new (hnone : Members.get? name members = none)
    (h : ∀ position inner, value.nested? position = some inner →
      Blank inner ∧ Allowed (name :: Position.names position)) :
    Grows Allowed (.object members) (.object (Members.insert name value members)) where
  kept := by
    intro position inner hinner
    match position with
    | [] =>
      obtain rfl := Option.some.inj hinner
      exact ⟨_, rfl, trivial⟩
    | step :: rest =>
      have hstep : step ≠ .member name := by
        rintro rfl
        rw [Json.nested?_cons] at hinner
        change (Members.get? name members).bind _ = _ at hinner
        rw [hnone] at hinner
        cases hinner
      rw [Json.nested?_insert_of_ne hstep]
      exact ⟨inner, hinner, Kept.refl inner⟩
  added := by
    intro position inner hbefore hsome
    match position with
    | [] => cases hbefore
    | step :: rest =>
      by_cases hstep : step = .member name
      · subst hstep
        rw [Json.nested?_insert_self] at hsome
        exact h rest inner hsome
      · rw [Json.nested?_insert_of_ne hstep] at hsome
        cases hbefore.symm.trans hsome

end

/-- Changing the items of a list is changing each of them. -/
theorem mapObjectsOf_eq_map (change : Members Json → Members Json) (items : List Json) :
    mapObjectsOf change items = items.map (mapObjects change) := by
  induction items with
  | nil => rfl
  | cons item rest ih => rw [mapObjectsOf, ih, List.map_cons]

/-- A value grows when the objects that it is or lists do. -/
theorem grows_mapObjects {Allowed : List String → Prop} {change : Members Json → Members Json}
    (h : ∀ members, Grows Allowed (.object members) (.object (change members))) (value : Json) :
    Grows Allowed value (mapObjects change value) := by
  induction value with
  | null | bool | number | string => exact Grows.refl Allowed _
  | object members => exact h members
  | array items ih =>
    rw [mapObjects, mapObjectsOf_eq_map]
    exact Grows.array ih

/-! ## What may be added -/

/-- Holds of the paths at which completion may add a field: every name along the path is requested,
and a field of the shape. -/
def Addable : FieldTree → Shape → List String → Prop
  | _, _, [] => False
  | requested, shape, name :: rest =>
    ∃ inner child, requestedIn? requested name = some inner ∧ shape.HasField name child ∧
      (rest = [] ∨ Addable (insideOf inner) child rest)

namespace Addable

/-- What may be added is known to the shape. -/
theorem known {requested : FieldTree} {shape : Shape} {path : List String}
    (h : Addable requested shape path) (hshape : shape.Ordered) :
    (shape.resolveSegments path).isSome = true := by
  -- along the path, each name is a field of the outline that is left
  induction path generalizing requested shape with
  | nil => exact h.elim
  | cons name rest ih =>
    obtain ⟨inner, child, -, hfield, hrest⟩ := h
    obtain ⟨hchild, hordered⟩ := hshape.field? hfield
    rw [Shape.resolveSegments, hchild, Option.bind_some]
    rcases hrest with rfl | hinside
    · rfl
    · exact ih hinside hordered

/-- A field is requested by its own name, or by the star beside it. -/
theorem requestedIn?_cases {requested inner : FieldTree} {name : String}
    (h : requestedIn? requested name = some inner) :
    name ≠ everyField ∧ (requested.get? name = some inner ∨
      ∃ star, requested.get? everyField = some star) := by
  unfold requestedIn? at h
  split at h
  · cases h
  · rename_i hname
    refine ⟨hname, ?_⟩
    split at h
    · rename_i found hfound
      exact Or.inl (hfound.trans h)
    · split at h
      · rename_i hstar
        exact Or.inr (Option.isSome_iff_exists.mp hstar)
      · cases h

/-- **What may be added was asked for.**  Up to its first star, some requested path leads to the
field, passes through it, or ends above it. -/
theorem exists_request {requested : FieldTree} {shape : Shape} {path : List String}
    (h : Addable requested shape path) :
    ∃ request, requested.Requests request ∧
      (path <+: beforeStar request ∨ beforeStar request <+: path) := by
  -- by induction on the path, for the subtree of requests that is left of it
  induction path generalizing requested shape with
  | nil => exact h.elim
  | cons name rest ih =>
    obtain ⟨inner, child, hinner, -, hrest⟩ := h
    obtain ⟨hname, hown | ⟨star, hstar⟩⟩ := requestedIn?_cases hinner
    · -- a request by the field's own name goes on with a request inside of it
      have hbefore : ∀ tail, beforeStar (name :: tail) = name :: beforeStar tail := fun tail =>
        List.takeWhile_cons_of_pos (by simpa using hname)
      rcases hrest with rfl | hinside
      · refine ⟨name :: inner.firstPath,
          FieldTree.requests_cons hown inner.subtree?_firstPath, Or.inl ?_⟩
        rw [hbefore]
        exact List.prefix_cons_inj name |>.mpr (List.nil_prefix)
      · cases hleaf : inner.isLeaf with
        | true =>
          obtain rfl := FieldTree.isLeaf_iff.mp hleaf
          refine ⟨[name], FieldTree.requests_cons hown rfl, Or.inr ?_⟩
          rw [hbefore]
          exact List.prefix_cons_inj name |>.mpr (List.nil_prefix)
        | false =>
          rw [insideOf, if_neg (by rw [hleaf]; exact Bool.false_ne_true)] at hinside
          obtain ⟨request, ⟨-, hrequest⟩, hrelated⟩ := ih hinside
          refine ⟨name :: request, FieldTree.requests_cons hown hrequest, ?_⟩
          rw [hbefore, List.prefix_cons_inj, List.prefix_cons_inj]
          exact hrelated
    · -- nothing precedes the star, so it asks for whatever is below
      refine ⟨everyField :: star.firstPath,
        FieldTree.requests_cons hstar star.subtree?_firstPath, Or.inr ?_⟩
      have hnothing : beforeStar (everyField :: star.firstPath) = [] :=
        List.takeWhile_cons_of_neg (by simp)
      rw [hnothing]
      exact List.nil_prefix

end Addable

/-! ## Completed records -/

section

variable {requested : FieldTree} {shape outer : Shape}

/-- The value of an absent field is blank all through, and what it has inside was asked for. -/
theorem blank_absentField {inner : FieldTree}
    (ih : ∀ requested members, Grows (Addable requested shape) (.object members)
      (.object (completeMembers requested shape members)))
    {position : Position} {value : Json}
    (h : (absentField inner shape).nested? position = some value) :
    Blank value ∧
      (Position.names position = [] ∨ Addable (insideOf inner) shape (Position.names position)) := by
  match position with
  | [] =>
    obtain rfl := Option.some.inj h
    refine ⟨?_, Or.inl rfl⟩
    cases shape with
    | scalar => trivial
    | list item => rfl
    | object fields =>
      rw [absentField]
      split <;> trivial
  | step :: rest =>
    cases shape with
    | scalar => cases step <;> cases h
    | list item => cases step <;> cases h
    | object fields =>
      rw [absentField] at h
      split at h
      · cases step <;> cases h
      · rename_i hleaf
        have hgrows := ih inner []
        rw [completeMembers] at hgrows
        have hnone : (Json.object []).nested? (step :: rest) = none := by cases step <;> rfl
        obtain ⟨hblank, haddable⟩ := hgrows.added _ value hnone h
        rw [insideOf, if_neg hleaf]
        exact ⟨hblank, Or.inr haddable⟩

/-- Completing one field, an object grows. -/
theorem grows_completeField {name : String} (hfield : outer.HasField name shape)
    (ih : ∀ requested members, Grows (Addable requested shape) (.object members)
      (.object (completeMembers requested shape members)))
    (members : Members Json) :
    Grows (Addable requested outer) (.object members)
      (.object (completeField requested name shape members)) := by
  cases hinner : requestedIn? requested name with
  | none =>
    rw [completeField_of_none hinner]
    exact Grows.refl _ _
  | some inner =>
    rw [completeField_of_some hinner]
    cases hmember : Members.get? name members with
    | none =>
      refine grows_insert_new hmember fun position value hvalue => ?_
      obtain ⟨hblank, hinside⟩ := blank_absentField ih hvalue
      exact ⟨hblank, inner, shape, hinner, hfield, hinside⟩
    | some value =>
      have hgrows := grows_mapObjects (ih (insideOf inner)) value
      exact grows_insert hmember (hgrows.mono fun path hpath =>
        ⟨inner, shape, hinner, hfield, Or.inr hpath⟩)

/-- **Completing an object, it grows**, by what was asked for. -/
theorem grows_completeMembers (requested : FieldTree) (shape : Shape) (members : Members Json) :
    Grows (Addable requested shape) (.object members)
      (.object (completeMembers requested shape members)) := by
  induction shape using Shape.nestedInduction generalizing requested members with
  | scalar =>
    rw [completeMembers]
    exact Grows.refl _ _
  | list item ih =>
    rw [completeMembers]
    refine (ih requested members).mono fun path hpath => ?_
    cases path with
    | nil => exact hpath
    | cons name rest => exact hpath
  | object fields ih =>
    rw [completeMembers]
    -- fields are completed one after the other, and growing is transitive; the list of those that
    -- are left is generalized, for the names must still be fields of the whole object
    suffices hlisted : ∀ listed : List (String × Shape), (∀ field ∈ listed, field ∈ fields) →
        ∀ members, Grows (Addable requested (.object fields)) (.object members)
          (.object (completeFields requested listed members)) from
      hlisted fields (fun _ h => h) members
    intro listed
    induction listed with
    | nil =>
      intro _ members
      rw [completeFields]
      exact Grows.refl _ _
    | cons field rest ihrest =>
      obtain ⟨name, child⟩ := field
      intro hsub members
      obtain ⟨hmem, hrest⟩ := List.forall_mem_cons.mp hsub
      have hfield : (Shape.object fields).HasField name child := ⟨fields, rfl, hmem⟩
      rw [completeFields_cons]
      exact (grows_completeField hfield (fun requested members => ih _ hmem requested members)
        members).trans (ihrest hrest _)

/-- Completing a record, it grows. -/
theorem grows_completeRecord (requested : FieldTree) (shape : Shape) (record : Json) :
    Grows (Addable requested shape) record (completeRecord requested shape record) := by
  cases record with
  | object members => exact grows_completeMembers requested shape members
  | null | bool | number | string | array => exact Grows.refl _ _

end

/-! ## Completed documents -/

/-- Holds of the paths behind a record list at which completion may add a field of a record. -/
def AddableBehind (key : String) (requested : FieldTree) (shape : Shape) : List String → Prop
  | [] => False
  | name :: path => name = key ∧ Addable requested shape path

/-- Completing its records, a document grows. -/
theorem grows_completeRecords (key : String) (requested : FieldTree) (shape : Shape)
    (document : Json) :
    Grows (AddableBehind key requested shape) document
      (completeRecords key requested shape document) := by
  rcases modifyRecords_cases key document with
    ⟨members, records, rfl, hrecords, hchanged⟩ | ⟨-, hsame⟩
  · rw [completeRecords, mapRecords, hchanged]
    have hgrows : Grows (Addable requested shape) (.array records)
        (.array (records.map (completeRecord requested shape))) :=
      Grows.array fun record _ => grows_completeRecord requested shape record
    exact grows_insert hrecords (hgrows.mono fun path hpath => ⟨rfl, hpath⟩)
  · rw [completeRecords, mapRecords, hsame]
    exact Grows.refl _ _

/-- A new position of a completed document is one in a record. -/
theorem exists_of_new_position {key : String} {requested : FieldTree} {shape : Shape}
    {document : Json} {position : Position} {value : Json}
    (hnone : document.nested? position = none)
    (hsome : (completeRecords key requested shape document).nested? position = some value) :
    ∃ index inner, position = .member key :: .item index :: inner := by
  rw [completeRecords, mapRecords] at hsome
  rcases modifyRecords_cases key document with
    ⟨members, records, rfl, hrecords, hchanged⟩ | ⟨-, hsame⟩
  · rw [hchanged] at hsome
    -- a new place is not that of the document, of the record list or of a member beside it
    cases position with
    | nil => cases hnone
    | cons step rest =>
      by_cases hstep : step = .member key
      · subst hstep
        rw [Json.nested?_insert_self] at hsome
        cases rest with
        | nil =>
          rw [Json.nested?_cons] at hnone
          change (Members.get? key members).bind _ = _ at hnone
          rw [hrecords] at hnone
          cases hnone
        | cons step inner =>
          cases step with
          | member name => cases hsome
          | item index => exact ⟨index, inner, rfl⟩
      · rw [Json.nested?_insert_of_ne hstep] at hsome
        cases hnone.symm.trans hsome
  · rw [hsame] at hsome
    cases hnone.symm.trans hsome

/-- **Completion only adds, and only what was asked for.**  Whatever a document has at a position
is still there after its records are completed: scalars are the same, lists have their items in
order, objects have their members, and beside the records nothing changes.  Whatever is new is in a
record, and it is the absent value, an empty list, or an object, of which the members are new in
turn.  The path of a new field is known to the shape; and up to its first star some requested path
leads to the field, passes through it, or ends above it. -/
theorem completeRecords_adds_only_requested {shape : Shape} (hshape : shape.Ordered) (key : String)
    (requested : FieldTree) (document : Json) :
    (∀ position value, document.nested? position = some value →
      ∃ found, (completeRecords key requested shape document).nested? position = some found ∧
        Kept value found) ∧
    (∀ name, name ≠ key →
      (completeRecords key requested shape document).get? name = document.get? name) ∧
    ((∀ records, document.get? key ≠ some (.array records)) →
      completeRecords key requested shape document = document) ∧
    ∀ position value, document.nested? position = none →
      (completeRecords key requested shape document).nested? position = some value →
      Blank value ∧ ∃ index inner, position = .member key :: .item index :: inner ∧
        (shape.resolveSegments (Position.names inner)).isSome = true ∧
        ∃ request, requested.Requests request ∧
          (Position.names inner <+: beforeStar request ∨
            beforeStar request <+: Position.names inner) := by
  have hgrows := grows_completeRecords key requested shape document
  refine ⟨hgrows.kept, fun name hname => ?_, fun hlist => ?_, fun position value hnone hsome => ?_⟩
  · exact get?_modifyRecords_of_ne hname _ document
  · rcases modifyRecords_cases key document with
      ⟨members, records, rfl, hrecords, -⟩ | ⟨-, hsame⟩
    · exact absurd hrecords (hlist records)
    · exact hsame _
  · obtain ⟨hblank, hallowed⟩ := hgrows.added position value hnone hsome
    obtain ⟨index, inner, rfl⟩ := exists_of_new_position hnone hsome
    have haddable : Addable requested shape (Position.names inner) := hallowed.2
    exact ⟨hblank, index, inner, rfl, haddable.known hshape, haddable.exists_request⟩

/-- A record with names, and children that have names as well. -/
def familyShape : Shape :=
  .object [("kinderen", .list (.object [("naam", .object [("voornamen", .scalar)])])),
    ("naam", .object [("voornamen", .scalar)])]

theorem ordered_familyShape : familyShape.Ordered := by
  have hname : (Shape.object [("voornamen", .scalar)]).Ordered :=
    .object (by decide) (List.forall_mem_singleton.mpr .scalar)
  exact .object (by decide) (List.forall_mem_cons.mpr
    ⟨.list (.object (by decide) (List.forall_mem_singleton.mpr hname)),
      List.forall_mem_singleton.mpr hname⟩)

/-- A request for what the names of children have, and for one name more. -/
def familyRequest : FieldTree := FieldTree.ofPaths ["kinderen.naam.*", "naam.voornamen"]

/-- A person of whom there is one child, without a name. -/
def familyDocument : Json :=
  .object [("personen", .array
    [.object [("kinderen", .array [.object [("burgerservicenummer", .string "2")]])]])]

/-- Where the child is. -/
def childPosition : Position := [.member "personen", .item 0, .member "kinderen", .item 0]

/-- The child keeps its number, and gets a name without a text, which the request for everything in
its name asks for. -/
theorem completeRecords_adds_only_requested_of_child :
    familyShape.Ordered ∧
      familyDocument.nested? (childPosition ++ [.member "naam"]) = none ∧
      (completeRecords "personen" familyRequest familyShape familyDocument).nested?
        (childPosition ++ [.member "naam", .member "voornamen"]) = some .null ∧
      (∃ found, (completeRecords "personen" familyRequest familyShape familyDocument).nested?
        (childPosition ++ [.member "burgerservicenummer"]) = some found ∧
          Kept (.string "2") found) ∧
      (familyShape.resolveSegments ["kinderen", "naam", "voornamen"]).isSome = true ∧
      ∃ request, familyRequest.Requests request ∧
        (["kinderen", "naam", "voornamen"] <+: beforeStar request ∨
          beforeStar request <+: ["kinderen", "naam", "voornamen"]) := by
  have hnone : familyDocument.nested? (childPosition ++ [.member "naam"]) = none := by decide
  have hsome : (completeRecords "personen" familyRequest familyShape familyDocument).nested?
      (childPosition ++ [.member "naam", .member "voornamen"]) = some .null := by
    decide +kernel
  obtain ⟨hkept, -, -, hadded⟩ :=
    completeRecords_adds_only_requested ordered_familyShape "personen" familyRequest
      familyDocument
  obtain ⟨-, index, inner, hposition, hknown, hrequest⟩ := hadded _ _ (by decide) hsome
  cases hposition
  exact ⟨ordered_familyShape, hnone, hsome, hkept _ _ (by decide), hknown, hrequest⟩

end Document

end RegistryGate
