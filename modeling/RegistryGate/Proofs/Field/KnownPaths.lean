/-
  The listed paths of a shape are those that it resolves.

  Paths are listed by walking down the fields of a shape with the path so far, and resolved by
  cutting a path at its dots and walking down the names.  Both go down the same ways, where a way is
  the list of the names along it, with a star as the last name of a wildcard (`Shape.ways`).  Which
  ways there are is told by resolution (`mem_ways_iff`), and each of them is listed once
  (`nodup_ways`).

  As long as the names are plain ones, a way and its path are as good as each other: joined with dots
  the names can be cut apart again, and a star is never the name of a field.  What a shape reads off
  an example is plain where the example is (`Shape.plainlyNamed_ofJson`), so that the statement can be
  made for examples: `knownPaths_exact`.
-/
import RegistryGate.Proofs.Document.Completion
import RegistryGate.Proofs.Field.Defaults
import RegistryGate.Proofs.Field.Order
import RegistryGate.Proofs.Json.Order

namespace RegistryGate

/-! ## Plain names -/

/-- The names of the members that a shape takes from an example are plain.  Of a list it takes the
first item, and what the other items are does not matter. -/
inductive Json.PlainlyNamed : Json → Prop where
  /-- The absent value has no members. -/
  | null : PlainlyNamed .null
  /-- A truth value has no members. -/
  | bool (b : Bool) : PlainlyNamed (.bool b)
  /-- A number has no members. -/
  | number (n : Number) : PlainlyNamed (.number n)
  /-- A text has no members. -/
  | string (text : String) : PlainlyNamed (.string text)
  /-- An empty list has no first item. -/
  | emptyArray : PlainlyNamed (.array [])
  /-- The members of a list are those of its first item. -/
  | array {item : Json} (hitem : PlainlyNamed item) (rest : List Json) :
    PlainlyNamed (.array (item :: rest))
  /-- The names of the members are plain, and so are those inside of each. -/
  | object {members : Members Json} (hnames : ∀ member ∈ members, Field.IsPlain member.1)
    (hmembers : ∀ member ∈ members, PlainlyNamed member.2) : PlainlyNamed (.object members)

namespace Shape

variable {shape node : Shape} {name : String} {way names : List String}

/-- The names of all fields are plain. -/
inductive PlainlyNamed : Shape → Prop where
  /-- A scalar has no fields. -/
  | scalar : PlainlyNamed .scalar
  /-- The fields of a list are those of its items. -/
  | list {item : Shape} (hitem : PlainlyNamed item) : PlainlyNamed (.list item)
  /-- The names of the fields are plain, and so are those inside of each. -/
  | object {fields : List (String × Shape)} (hnames : ∀ field ∈ fields, Field.IsPlain field.1)
    (hfields : ∀ field ∈ fields, PlainlyNamed field.2) : PlainlyNamed (.object fields)

/-- An object, or a list that leads to one. -/
inductive LeadsToObject : Shape → Prop where
  /-- An object is one. -/
  | object (fields : List (String × Shape)) : LeadsToObject (.object fields)
  /-- A list leads where its items lead. -/
  | list {item : Shape} (hitem : LeadsToObject item) : LeadsToObject (.list item)

/-- Such shapes have fields to look for, if only an empty list of them, and no other shape has any. -/
theorem isSome_fields?_iff : shape.fields?.isSome = true ↔ shape.LeadsToObject := by
  -- lists are looked through, down to what their innermost items are
  induction shape using nestedInduction with
  | scalar => exact iff_of_false (fun h => nomatch h) (fun h => nomatch h)
  | object fields _ => exact iff_of_true rfl (.object fields)
  | list item ih =>
    constructor
    · intro h
      exact .list (ih.mp h)
    · rintro (_ | hitem)
      exact ih.mpr hitem

/-- A field of a plainly named shape has a plain name, and plain names inside. -/
theorem PlainlyNamed.of_field? {child : Shape} (h : shape.PlainlyNamed)
    (hchild : shape.field? name = some child) : Field.IsPlain name ∧ child.PlainlyNamed := by
  induction h with
  | scalar => cases hchild
  | list _ ih => exact ih hchild
  | object hnames hfields =>
    have hmem := Members.mem_of_get? hchild
    exact ⟨hnames _ hmem, hfields _ hmem⟩

/-- Every name that leads to a field is plain. -/
theorem PlainlyNamed.of_resolveSegments (h : shape.PlainlyNamed)
    (hnode : shape.resolveSegments names = some node) : ∀ name ∈ names, Field.IsPlain name := by
  induction names generalizing shape with
  | nil => exact fun _ hmem => absurd hmem List.not_mem_nil
  | cons first rest ih =>
    obtain ⟨child, hchild, hrest⟩ := Option.bind_eq_some_iff.mp hnode
    obtain ⟨hfirst, hinside⟩ := h.of_field? hchild
    exact List.forall_mem_cons.mpr ⟨hfirst, ih hinside hrest⟩

/-! ## What is read off an example -/

theorem ofMembers_eq_map (members : Members Json) :
    ofMembers members = members.map fun member => (member.1, ofJson member.2) := by
  induction members with
  | nil => rfl
  | cons member rest ih => rw [ofMembers, ih, List.map_cons]

/-- What is read off an ordered example is ordered.  Of a list only the first item counts, of an
object every member. -/
theorem ordered_ofJson {value : Json} (h : value.Ordered) : (ofJson value).Ordered := by
  induction h with
  | null | bool | number | string => exact .scalar
  | @array items _ ih =>
    cases items with
    | nil => exact .list .scalar
    | cons item rest => exact .list (ih item List.mem_cons_self)
  | @object members hsorted _ ih =>
    rw [ofJson, ofMembers_eq_map]
    refine .object ?_ (List.forall_mem_map.mpr ih)
    rw [Members.Sorted, Members.names, List.map_map]
    exact hsorted

/-- What is read off a plainly named example is plainly named. -/
theorem plainlyNamed_ofJson {value : Json} (h : value.PlainlyNamed) :
    (ofJson value).PlainlyNamed := by
  induction h with
  | null | bool | number | string => exact .scalar
  | emptyArray => exact .list .scalar
  | array _ _ ih => exact .list ih
  | @object members hnames _ ih =>
    rw [ofJson, ofMembers_eq_map]
    exact .object (List.forall_mem_map.mpr hnames) (List.forall_mem_map.mpr ih)

/-! ## The listed ways -/

mutual

/-- The ways to all fields, each with its wildcard before it if there is something to look for below
it. -/
def ways : Shape → List (List String)
  | scalar => []
  | list item => ways item
  | object fields => waysOf fields

/-- The ways to the listed fields and to all fields below them. -/
def waysOf : List (String × Shape) → List (List String)
  | [] => []
  | (name, child) :: rest =>
    ((if child.fields?.isSome then [["*"]] else []) ++ [] :: ways child).map (name :: ·)
      ++ waysOf rest

end

/-- What may follow the name of a field along a way: nothing, a star, or a way below the field. -/
def endings (child : Shape) : List (List String) :=
  (if child.fields?.isSome then [["*"]] else []) ++ [] :: child.ways

theorem ways_object (fields : List (String × Shape)) :
    (Shape.object fields).ways
      = fields.flatMap fun field => (endings field.2).map (field.1 :: ·) := by
  rw [ways]
  induction fields with
  | nil => rw [waysOf, List.flatMap_nil]
  | cons field rest ih => rw [waysOf, List.flatMap_cons, ih, endings]

theorem mem_endings_iff {child : Shape} {rest : List String} : rest ∈ child.endings ↔
    rest = [] ∨ (child.LeadsToObject ∧ rest = ["*"]) ∨ rest ∈ child.ways := by
  have hstar : rest ∈ (if child.fields?.isSome then [["*"]] else []) ↔
      child.LeadsToObject ∧ rest = ["*"] := by
    rw [← isSome_fields?_iff]
    split <;> simp_all
  rw [endings, List.mem_append, List.mem_cons, hstar, or_left_comm]

/-- Below a field the star is a name like others. -/
theorem below_star (hname : name ≠ "") (parent : String) :
    Field.below (Field.below parent name) "*" = Field.below parent name ++ ".*" := by
  have hne : (Field.below parent name).isEmpty = false := by
    unfold Field.below
    split
    · exact Bool.eq_false_iff.mpr fun h => hname (String.isEmpty_iff.mp h)
    · exact Bool.eq_false_iff.mpr fun h => by simpa using String.isEmpty_iff.mp h
  rw [Field.below, hne, if_neg Bool.false_ne_true, String.append_assoc]
  rfl

/-- The listed paths are those along the ways.  Each listed field gives its own way, the way of its
star if there is something below it, and the ways below it with its name in front. -/
theorem pathsBelow_eq_map (h : shape.PlainlyNamed) (parent : String) :
    pathsBelow parent shape = shape.ways.map fun way => way.foldl Field.below parent := by
  -- by induction on the shape, for the path that leads to it
  induction h generalizing parent with
  | scalar => rfl
  | list _ ih => exact ih parent
  | @object fields hnames hfields ih =>
    rw [pathsBelow, ways]
    induction fields with
    | nil => rw [pathsOfFields, waysOf, List.map_nil]
    | cons field rest ihrest =>
      obtain ⟨name, child⟩ := field
      obtain ⟨hname, hnames'⟩ := List.forall_mem_cons.mp hnames
      obtain ⟨-, hfields'⟩ := List.forall_mem_cons.mp hfields
      obtain ⟨hchild, ih'⟩ := List.forall_mem_cons.mp ih
      have hwildcard : (if child.fields?.isSome then [Field.below parent name ++ ".*"] else [])
          = (if child.fields?.isSome then [["*"]] else []).map fun way =>
            (name :: way).foldl Field.below parent := by
        split
        · rw [← below_star hname.1]
          rfl
        · rfl
      rw [pathsOfFields, waysOf, hwildcard, hchild, ihrest hnames' hfields' ih', List.map_append,
        List.map_map, List.map_append, List.map_cons]
      rfl

/-- No way is empty. -/
theorem nil_not_mem_ways (shape : Shape) : [] ∉ shape.ways := by
  induction shape using nestedInduction with
  | scalar => exact List.not_mem_nil
  | list item ih => exact ih
  | object fields _ =>
    intro hmem
    rw [ways_object] at hmem
    obtain ⟨field, -, hway⟩ := List.mem_flatMap.mp hmem
    obtain ⟨rest, -, heq⟩ := List.mem_map.mp hway
    cases heq

/-- The ways of an ordered shape go through the fields that are found in it. -/
theorem cons_mem_ways_iff {rest : List String} (h : shape.Ordered) :
    name :: rest ∈ shape.ways ↔ ∃ child, shape.field? name = some child ∧ rest ∈ child.endings := by
  induction h with
  | scalar => exact iff_of_false List.not_mem_nil fun ⟨_, h, _⟩ => nomatch h
  | list _ ih => exact ih
  | @object fields hsorted _ _ =>
    rw [ways_object, List.mem_flatMap]
    constructor
    · rintro ⟨⟨_, child⟩, hmem, hway⟩
      obtain ⟨_, hrest, ⟨rfl, rfl⟩⟩ := List.mem_map.mp hway
      exact ⟨child, Members.get?_of_mem hsorted hmem, hrest⟩
    · rintro ⟨child, hget, hrest⟩
      exact ⟨(name, child), Members.mem_of_get? hget, List.mem_map.mpr ⟨rest, hrest, rfl⟩⟩

/-- **The ways lead to what is resolved**, and those with a star to what has something below it. -/
theorem mem_ways_iff (h : shape.Ordered) :
    way ∈ shape.ways ↔ ∃ names node, names ≠ [] ∧ shape.resolveSegments names = some node ∧
      (way = names ∨ node.LeadsToObject ∧ way = names ++ ["*"]) := by
  -- by induction on the way, one field further down
  induction way generalizing shape with
  | nil =>
    refine iff_of_false (nil_not_mem_ways shape) ?_
    rintro ⟨names, node, hne, -, rfl | ⟨-, hway⟩⟩
    · exact hne rfl
    · exact List.append_ne_nil_of_right_ne_nil names (List.cons_ne_nil "*" []) hway.symm
  | cons name rest ih =>
    rw [cons_mem_ways_iff h]
    constructor
    · rintro ⟨child, hchild, hrest⟩
      have hthrough : ∀ names, shape.resolveSegments (name :: names) = child.resolveSegments names :=
        fun names => by rw [resolveSegments, hchild, Option.bind_some]
      rcases mem_endings_iff.mp hrest with rfl | ⟨hleads, rfl⟩ | hrest
      · -- the way ends at the field
        exact ⟨[name], child, List.cons_ne_nil name [], hthrough [], Or.inl rfl⟩
      · -- it ends at the star below
        exact ⟨[name], child, List.cons_ne_nil name [], hthrough [], Or.inr ⟨hleads, rfl⟩⟩
      · -- it goes on below, and what it leads to is the same from there
        obtain ⟨names, node, -, hnode, hway⟩ := (ih (h.of_field? hchild)).mp hrest
        refine ⟨name :: names, node, List.cons_ne_nil name names, (hthrough names).trans hnode, ?_⟩
        rcases hway with rfl | ⟨hleads, rfl⟩
        · exact Or.inl rfl
        · exact Or.inr ⟨hleads, rfl⟩
    · rintro ⟨_ | ⟨first, more⟩, node, hne, hnode, hway⟩
      · exact absurd rfl hne
      · obtain ⟨child, hchild, hmore⟩ := Option.bind_eq_some_iff.mp hnode
        have hbelow := ih (h.of_field? hchild)
        rcases hway with heq | ⟨hleads, heq⟩
        · obtain ⟨rfl, rfl⟩ := List.cons.inj heq
          refine ⟨child, hchild, mem_endings_iff.mpr ?_⟩
          by_cases hend : rest = []
          · exact Or.inl hend
          · exact Or.inr (Or.inr (hbelow.mpr ⟨rest, node, hend, hmore, Or.inl rfl⟩))
        · obtain ⟨rfl, rfl⟩ := List.cons.inj heq
          refine ⟨child, hchild, mem_endings_iff.mpr (Or.inr ?_)⟩
          by_cases hend : more = []
          · subst hend
            obtain rfl := Option.some.inj hmore
            exact Or.inl ⟨hleads, rfl⟩
          · exact Or.inr (hbelow.mpr ⟨more, node, hend, hmore, Or.inr ⟨hleads, rfl⟩⟩)

/-- What may follow the name of a field is listed once, for no field below it is named by a star. -/
theorem nodup_endings {child : Shape} (h : child.Ordered) (hplain : child.PlainlyNamed)
    (hways : child.ways.Nodup) : child.endings.Nodup := by
  -- a way to a star would go through a field named by one, and no plain name is
  have hstar : ["*"] ∉ child.ways := by
    rw [cons_mem_ways_iff h]
    rintro ⟨_, hfield, -⟩
    exact absurd (hplain.of_field? hfield).1 (by decide)
  have hothers : ([] :: child.ways).Nodup :=
    List.nodup_cons.mpr ⟨nil_not_mem_ways child, hways⟩
  unfold endings
  split
  · refine List.nodup_cons.mpr ⟨fun hmem => ?_, hothers⟩
    rcases List.mem_cons.mp hmem with heq | hway
    · cases heq
    · exact hstar hway
  · exact hothers

/-- **Each way is listed once.**  Ways along different fields begin with different names, and below
one field a way goes on once.  A plain name is not a star, so the way of a star is none of those
below. -/
theorem nodup_ways (h : shape.Ordered) (hplain : shape.PlainlyNamed) : shape.ways.Nodup := by
  induction h with
  | scalar => exact List.nodup_nil
  | list _ ih =>
    cases hplain with
    | list hitem => exact ih hitem
  | @object fields hsorted hordered ih =>
    cases hplain with
    | object _ hfields =>
    rw [ways_object, List.Nodup, List.pairwise_flatMap]
    constructor
    · intro field hfield
      have hinside := hfields field hfield
      exact List.pairwise_map.mpr ((nodup_endings (hordered field hfield) hinside
        (ih field hfield hinside)).imp fun hne heq => hne (List.cons.inj heq).2)
    · -- the ways along different fields begin with different names
      refine (Members.pairwise_ne_of_sorted hsorted).imp fun hne way hway other hother heq => ?_
      obtain ⟨below, -, rfl⟩ := List.mem_map.mp hway
      obtain ⟨below', -, rfl⟩ := List.mem_map.mp hother
      exact hne (List.cons.inj heq).1

/-! ## Known paths -/

/-- The names along a way are neither empty nor cut apart by dots. -/
theorem of_mem_ways (h : shape.Ordered) (hplain : shape.PlainlyNamed) (hway : way ∈ shape.ways) :
    ∀ name ∈ way, name ≠ "" ∧ '.' ∉ name.toList := by
  obtain ⟨names, node, -, hnode, hway⟩ := (mem_ways_iff h).mp hway
  have hnames : ∀ name ∈ names, name ≠ "" ∧ '.' ∉ name.toList := by
    intro name hname
    obtain ⟨hempty, hdot, -⟩ := hplain.of_resolveSegments hnode name hname
    exact ⟨hempty, hdot⟩
  rcases hway with rfl | ⟨-, rfl⟩
  · exact hnames
  · exact List.forall_mem_append.mpr ⟨hnames, List.forall_mem_singleton.mpr (by decide)⟩

end Shape

namespace ResponseShape

variable {shape : ResponseShape} {listed path : String}

/-- The known paths are those along the ways. -/
theorem knownPaths_eq_map (h : shape.root.Ordered) (hplain : shape.root.PlainlyNamed) :
    shape.knownPaths = shape.root.ways.map (Text.joinWith ".") := by
  rw [knownPaths, Shape.pathsBelow_eq_map hplain]
  refine List.map_congr_left fun way hway => ?_
  cases way with
  | nil => exact absurd hway (Shape.nil_not_mem_ways _)
  | cons name rest =>
    exact Field.foldl_below_root (Shape.of_mem_ways h hplain hway name List.mem_cons_self).1 rest

/-- Each path is listed once. -/
theorem nodup_knownPaths (h : shape.root.Ordered) (hplain : shape.root.PlainlyNamed) :
    shape.knownPaths.Nodup := by
  rw [knownPaths_eq_map h hplain]
  -- a way can be told from its path
  have hsegments : ∀ way ∈ shape.root.ways, Field.segments (Text.joinWith "." way) = way := by
    intro way hway
    refine Field.segments_joinWith ?_ fun name hname => (Shape.of_mem_ways h hplain hway name hname).2
    rintro rfl
    exact Shape.nil_not_mem_ways _ hway
  refine List.pairwise_map.mpr ((Shape.nodup_ways h hplain).imp_of_mem ?_)
  intro way other hway hother hne heq
  refine hne ?_
  rw [← hsegments way hway, heq, hsegments other hother]

/-- **The listed paths are those that are resolved**, and the wildcards of those below which there is
something to look for. -/
theorem mem_knownPaths_iff (h : shape.root.Ordered) (hplain : shape.root.PlainlyNamed) :
    listed ∈ shape.knownPaths ↔ ∃ path node, shape.resolve? path = some node ∧
      (listed = path ∨ node.LeadsToObject ∧ listed = path ++ ".*") := by
  rw [knownPaths_eq_map h hplain, List.mem_map]
  constructor
  · rintro ⟨way, hway, rfl⟩
    obtain ⟨names, node, hne, hnode, hway⟩ := (Shape.mem_ways_iff h).mp hway
    have hresolve : shape.resolve? (Text.joinWith "." names) = some node := by
      rw [resolve?, Shape.resolve?, Field.segments_joinWith hne fun name hname =>
        (hplain.of_resolveSegments hnode name hname).2.1]
      exact hnode
    refine ⟨_, node, hresolve, ?_⟩
    rcases hway with rfl | ⟨hleads, rfl⟩
    · exact Or.inl rfl
    · refine Or.inr ⟨hleads, ?_⟩
      rw [Field.joinWith_append_singleton hne, String.append_assoc]
      rfl
  · rintro ⟨path, node, hnode, hlisted⟩
    have hne := Field.segments_ne_nil path
    rcases hlisted with rfl | ⟨hleads, rfl⟩
    · exact ⟨_, (Shape.mem_ways_iff h).mpr ⟨_, node, hne, hnode, Or.inl rfl⟩,
        Field.joinWith_segments listed⟩
    · refine ⟨_, (Shape.mem_ways_iff h).mpr ⟨_, node, hne, hnode, Or.inr ⟨hleads, rfl⟩⟩, ?_⟩
      rw [Field.joinWith_append_singleton hne, Field.joinWith_segments, String.append_assoc]
      rfl

/-- What is resolved has no wildcard to cut off. -/
theorem wildcardBase_of_resolve? {node : Shape} (hplain : shape.root.PlainlyNamed)
    (hnode : shape.resolve? path = some node) : Field.wildcardBase path = path := by
  have hbase := Field.wildcardBase_joinWith (hplain.of_resolveSegments hnode)
  rw [Field.joinWith_segments] at hbase
  exact hbase

/-- The listed paths are known. -/
theorem knows_of_mem_knownPaths (h : shape.root.Ordered) (hplain : shape.root.PlainlyNamed)
    (hlisted : listed ∈ shape.knownPaths) : shape.knows listed = true := by
  obtain ⟨path, node, hnode, hlisted⟩ := (mem_knownPaths_iff h hplain).mp hlisted
  have hbase : Field.wildcardBase listed = path := by
    rcases hlisted with rfl | ⟨-, rfl⟩
    · exact wildcardBase_of_resolve? hplain hnode
    · exact Field.wildcardBase_append_wildcard path
  rw [knows, hbase, hnode]
  rfl

/-- **The listing of known paths agrees with their resolution.**  An example object whose names are
plain has a shape, of which each known path is listed once: those that are resolved, and the wildcards
of those that are objects or lists leading to one.  All of them are known; and a well-formed path that
is known without its wildcard is listed without it. -/
theorem knownPaths_exact {members : Members Json} (hordered : (Json.object members).Ordered)
    (hplain : (Json.object members).PlainlyNamed) :
    ∃ shape, ofJson (.object members) = .ok shape ∧
      shape.knownPaths.Nodup ∧
      (∀ listed, listed ∈ shape.knownPaths ↔ ∃ path node, shape.resolve? path = some node ∧
        (listed = path ∨ node.LeadsToObject ∧ listed = path ++ ".*")) ∧
      (∀ listed ∈ shape.knownPaths, shape.knows listed = true) ∧
      ∀ path, Field.isPath path = true → shape.knows (Field.wildcardBase path) = true →
        Field.wildcardBase path ∈ shape.knownPaths := by
  have hshape : (ResponseShape.mk (Shape.ofMembers members)).root.Ordered :=
    Shape.ordered_ofJson hordered
  have hnamed : (ResponseShape.mk (Shape.ofMembers members)).root.PlainlyNamed :=
    Shape.plainlyNamed_ofJson hplain
  refine ⟨_, rfl, nodup_knownPaths hshape hnamed, fun _ => mem_knownPaths_iff hshape hnamed,
    fun _ => knows_of_mem_knownPaths hshape hnamed, fun path hpath hknown => ?_⟩
  refine Field.wildcardBase_mem_knownPaths hpath ?_
  rw [knows, Field.wildcardBase_wildcardBase hpath] at hknown
  exact hknown

/-- An example with a list of lists, an empty object, an empty list, and a second item that no shape
looks at. -/
def nestedExample : Members Json :=
  [("adressen", .array [.array [.object [("code", .string "W")]]]),
    ("kinderen", .array [.object [("naam", .object [])], .object [("geboorte.*", .null)]]),
    ("partners", .array [])]

theorem ordered_nestedExample : (Json.object nestedExample).Ordered := by
  have haddresses : (Json.array [.array [.object [("code", .string "W")]]]).Ordered :=
    .array (List.forall_mem_singleton.mpr (.array (List.forall_mem_singleton.mpr
      (.object (by decide) (List.forall_mem_singleton.mpr (.string "W"))))))
  have hchild : (Json.object [("naam", .object [])]).Ordered :=
    .object (by decide) (List.forall_mem_singleton.mpr (.object (by decide) (by simp)))
  have hother : (Json.object [("geboorte.*", .null)]).Ordered :=
    .object (by decide) (List.forall_mem_singleton.mpr .null)
  exact .object (by decide) (List.forall_mem_cons.mpr ⟨haddresses, List.forall_mem_cons.mpr
    ⟨.array (List.forall_mem_cons.mpr ⟨hchild, List.forall_mem_singleton.mpr hother⟩),
      List.forall_mem_singleton.mpr (.array (by simp))⟩⟩)

theorem plainlyNamed_nestedExample : (Json.object nestedExample).PlainlyNamed := by
  have haddresses : (Json.array [.array [.object [("code", .string "W")]]]).PlainlyNamed :=
    .array (.array (.object (by decide) (List.forall_mem_singleton.mpr (.string "W"))) []) []
  have hchild : (Json.object [("naam", .object [])]).PlainlyNamed :=
    .object (by decide) (List.forall_mem_singleton.mpr (.object (by simp) (by simp)))
  exact .object (by decide) (List.forall_mem_cons.mpr ⟨haddresses, List.forall_mem_cons.mpr
    ⟨.array hchild _, List.forall_mem_singleton.mpr .emptyArray⟩⟩)

/-- The paths of the example, none of which stems from its second item. -/
theorem knownPaths_exact_of_nested :
    (Json.object nestedExample).Ordered ∧ (Json.object nestedExample).PlainlyNamed ∧
    ∃ shape, ofJson (.object nestedExample) = .ok shape ∧
      shape.knownPaths = ["adressen.*", "adressen", "adressen.code", "kinderen.*", "kinderen",
        "kinderen.naam.*", "kinderen.naam", "partners"] ∧
      (∃ node, shape.resolve? "kinderen.naam" = some node ∧ node.LeadsToObject) ∧
      shape.knows "kinderen.naam.*" = true := by
  obtain ⟨shape, hshape, -, -, hknown, -⟩ :=
    knownPaths_exact ordered_nestedExample plainlyNamed_nestedExample
  obtain rfl : ResponseShape.mk (Shape.ofMembers nestedExample) = shape := Except.ok.inj hshape
  have hpaths : (ResponseShape.mk (Shape.ofMembers nestedExample)).knownPaths
      = ["adressen.*", "adressen", "adressen.code", "kinderen.*", "kinderen", "kinderen.naam.*",
        "kinderen.naam", "partners"] := by decide +kernel
  have hstar : "kinderen.naam.*" ∈ (ResponseShape.mk (Shape.ofMembers nestedExample)).knownPaths := by
    rw [hpaths]
    decide
  have hsegments : Field.segments "kinderen.naam" = ["kinderen", "naam"] := by decide +kernel
  refine ⟨ordered_nestedExample, plainlyNamed_nestedExample, _, rfl, hpaths,
    ⟨.object [], ?_, .object []⟩, hknown _ hstar⟩
  rw [resolve?, Shape.resolve?, hsegments]
  rfl

end ResponseShape

end RegistryGate
