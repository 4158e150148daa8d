/-
  Grouped names are a normal form of sets of paths.

  What a tree has is said by the ways down its nodes (`FieldTree.Has`).  Adding a path adds the ways
  along it and no other (`has_insertSegments`), so a grouped tree has the beginnings of the names of
  the listed paths (`has_ofPaths_iff`), whatever their order and their number.  The children of a node
  stand in order (`FieldTree.Ordered`), and ordered trees that have the same ways are the same
  (`ext_has`): this is what makes the tree a function of the set.

  The listing of a tree goes down the same ways, parents first (`FieldTree.ways`).  Each way is there
  once, and nothing that is listed later is the beginning of it (`pairwise_ways`).  Joined with dots,
  the names of a way can be cut apart again, so nothing is lost when a listing is grouped once more.
  The statement on lists of paths is `grouping_canonical`.
-/
import RegistryGate.Proofs.Document.Completion
import RegistryGate.Proofs.Field.Order

namespace RegistryGate

namespace FieldTree

variable {tree other : FieldTree} {name : String} {way names : List String} {path : String}

/-- Induction over a tree and its children. -/
@[elab_as_elim]
theorem nestedInduction {motive : FieldTree → Prop}
    (node : ∀ children, (∀ child ∈ children, motive child.2) → motive (.node children))
    (tree : FieldTree) : motive tree :=
  match tree with
  | .node children => node children fun child hchild =>
    have hsmaller : sizeOf child.2 < sizeOf children := by
      have hlist := List.sizeOf_lt_of_mem hchild
      obtain ⟨name, subtree⟩ := child
      rw [Prod.mk.sizeOf_spec] at hlist
      dsimp only
      omega
    nestedInduction node child.2
termination_by sizeOf tree

/-! ## The nodes of a tree -/

/-- Holds when the way leads to a node of the tree. -/
def Has (tree : FieldTree) (way : List String) : Prop := (tree.subtree? way).isSome = true

theorem has_nil (tree : FieldTree) : tree.Has [] := rfl

theorem has_cons_iff :
    tree.Has (name :: way) ↔ ∃ child, tree.get? name = some child ∧ child.Has way := by
  show ((tree.get? name).bind fun child => child.subtree? way).isSome = true ↔ _
  cases tree.get? name with
  | none => exact iff_of_false (fun h => nomatch h) (fun ⟨_, h, _⟩ => nomatch h)
  | some child =>
    constructor
    · intro h
      exact ⟨child, rfl, h⟩
    · rintro ⟨_, ⟨rfl⟩, h⟩
      exact h

/-- A leaf has no way but the empty one. -/
theorem has_leaf_iff : leaf.Has way ↔ way = [] := by
  cases way with
  | nil => exact iff_of_true (has_nil leaf) rfl
  | cons name rest => exact iff_of_false (fun h => nomatch h) (List.cons_ne_nil name rest)

/-- Where a tree has no child of a name, a leaf is as good as one. -/
theorem has_getD_leaf (tree : FieldTree) (name : String) (way : List String) :
    ((tree.get? name).getD leaf).Has way ↔ way = [] ∨ tree.Has (name :: way) := by
  rw [has_cons_iff]
  cases tree.get? name with
  | none =>
    rw [Option.getD_none, has_leaf_iff]
    exact ⟨Or.inl, fun h => h.resolve_right fun ⟨_, hnone, _⟩ => nomatch hnone⟩
  | some child =>
    rw [Option.getD_some]
    constructor
    · intro h
      exact Or.inr ⟨child, rfl, h⟩
    · rintro (rfl | ⟨_, ⟨rfl⟩, h⟩)
      · exact has_nil child
      · exact h

/-- Adding a path changes the child of its first name, to which the other names are added. -/
theorem get?_insertSegments (first other : String) (rest : List String) (tree : FieldTree) :
    (insertSegments (first :: rest) tree).get? other
      = if other = first then some (insertSegments rest ((tree.get? first).getD leaf))
        else tree.get? other := by
  obtain ⟨children⟩ := tree
  exact Members.get?_insert first other _ children

/-- **Adding a path adds the ways along it**, and no other.  Only the child of the first name
changes, and inside of it the statement is that for the other names. -/
theorem has_insertSegments :
    (insertSegments names tree).Has way ↔ way <+: names ∨ tree.Has way := by
  -- by induction on the names, for every tree and every way into it
  induction names generalizing tree way with
  | nil =>
    rw [insertSegments, List.prefix_nil]
    constructor
    · exact Or.inr
    · rintro (rfl | h)
      · exact has_nil tree
      · exact h
  | cons first rest ih =>
    cases way with
    | nil => exact iff_of_true (has_nil _) (Or.inl List.nil_prefix)
    | cons name more =>
      rw [has_cons_iff, get?_insertSegments, List.cons_prefix_cons]
      by_cases hname : name = first
      · subst hname
        have hinside : (insertSegments rest ((tree.get? name).getD leaf)).Has more ↔
            more <+: rest ∨ more = [] ∨ tree.Has (name :: more) :=
          ih.trans (or_congr_right (has_getD_leaf tree name more))
        rw [if_pos rfl]
        constructor
        · rintro ⟨_, ⟨rfl⟩, h⟩
          rcases hinside.mp h with hprefix | rfl | hthere
          · exact Or.inl ⟨rfl, hprefix⟩
          · exact Or.inl ⟨rfl, List.nil_prefix⟩
          · exact Or.inr hthere
        · intro h
          refine ⟨_, rfl, hinside.mpr ?_⟩
          rcases h with ⟨-, hprefix⟩ | hthere
          · exact Or.inl hprefix
          · exact Or.inr (Or.inr hthere)
      · rw [if_neg hname, ← has_cons_iff]
        exact ⟨Or.inr, fun h => h.resolve_left fun hprefix => hname hprefix.1⟩

/-! ## Grouped paths -/

/-- The names along a path that count, which are all but the empty ones. -/
def namesOf (path : String) : List String :=
  (Field.segments path).filter fun name => !name.isEmpty

/-- A name that counts is not empty, and has no dot. -/
theorem of_mem_namesOf (h : name ∈ namesOf path) : name ≠ "" ∧ '.' ∉ name.toList := by
  obtain ⟨hsegment, hempty⟩ := List.mem_filter.mp h
  refine ⟨?_, Text.not_mem_of_mem_splitOn hsegment⟩
  rintro rfl
  exact absurd hempty (by decide)

/-- **A grouped tree has the beginnings of the listed paths**, name by name.  Each path of the list
adds its own beginnings, and what was in the tree is kept. -/
theorem has_ofPaths_iff {paths : List String} :
    (ofPaths paths).Has way ↔ way = [] ∨ ∃ path ∈ paths, way <+: namesOf path := by
  have hfold : ∀ tree : FieldTree,
      (paths.foldl (fun tree path => tree.insertPath path) tree).Has way ↔
        tree.Has way ∨ ∃ path ∈ paths, way <+: namesOf path := by
    induction paths with
    | nil => simp
    | cons path rest ih =>
      intro tree
      have hinserted : (tree.insertPath path).Has way ↔ way <+: namesOf path ∨ tree.Has way :=
        has_insertSegments
      have hlisted : (∃ listed ∈ path :: rest, way <+: namesOf listed) ↔
          way <+: namesOf path ∨ ∃ listed ∈ rest, way <+: namesOf listed := by
        simp only [List.mem_cons, exists_eq_or_imp]
      rw [List.foldl_cons, ih, hinserted, hlisted, or_left_comm, or_assoc]
  rw [ofPaths, hfold, has_leaf_iff]

/-! ## Ordered trees -/

/-- The children of every node come in ascending order of their names, each name once. -/
inductive Ordered : FieldTree → Prop where
  /-- The children of a node come in order, and so do those below each. -/
  | node {children : List (String × FieldTree)} (hsorted : Members.Sorted children)
    (hchildren : ∀ child ∈ children, Ordered child.2) : Ordered (.node children)

/-- The child of a name in an ordered tree is ordered. -/
theorem Ordered.get? {child : FieldTree} (h : tree.Ordered) (hchild : tree.get? name = some child) :
    child.Ordered := by
  cases h with
  | node _ hchildren => exact hchildren _ (Members.mem_of_get? hchild)

theorem ordered_leaf : leaf.Ordered :=
  .node Members.sorted_nil fun _ hchild => absurd hchild List.not_mem_nil

/-- Adding a path keeps a tree ordered.  The children are those before and the one that was put in,
at the place of its name. -/
theorem ordered_insertSegments (h : tree.Ordered) (names : List String) :
    (insertSegments names tree).Ordered := by
  induction names generalizing tree with
  | nil => exact h
  | cons first rest ih =>
    cases h with
    | @node children hsorted hchildren =>
    have hsorted' : Members.Sorted (Members.insert first
        (insertSegments rest ((Members.get? first children).getD leaf)) children) :=
      Members.sorted_insert hsorted
    have hbelow : ((Members.get? first children).getD leaf).Ordered := by
      cases hget : Members.get? first children with
      | none => exact ordered_leaf
      | some child => exact hchildren _ (Members.mem_of_get? hget)
    refine .node hsorted' fun child hchild => ?_
    have hget := Members.get?_of_mem hsorted' hchild
    rw [Members.get?_insert] at hget
    split at hget
    · rw [← Option.some.inj hget]
      exact ih hbelow
    · exact hchildren _ (Members.mem_of_get? hget)

/-- A grouped tree is ordered. -/
theorem ordered_ofPaths (paths : List String) : (ofPaths paths).Ordered := by
  suffices hfold : ∀ tree : FieldTree, tree.Ordered →
      (paths.foldl (fun tree path => tree.insertPath path) tree).Ordered from
    hfold leaf ordered_leaf
  induction paths with
  | nil => exact fun _ h => h
  | cons path rest ih => exact fun tree h => ih _ (ordered_insertSegments h (namesOf path))

/-- **Ordered trees are determined by their ways.** -/
theorem ext_has (htree : tree.Ordered) (hother : other.Ordered)
    (h : ∀ way, tree.Has way ↔ other.Has way) : tree = other := by
  -- by induction on the first tree, for whatever has the same ways
  induction htree generalizing other with
  | @node children hsorted hchildren ih =>
    cases hother with
    | @node children' hsorted' hchildren' =>
    congr 1
    refine Members.ext_get? hsorted hsorted' fun name => ?_
    have hname : ∀ rest, _ ↔ _ := fun rest => h (name :: rest)
    simp only [has_cons_iff] at hname
    show (FieldTree.node children).get? name = (FieldTree.node children').get? name
    cases hget : (FieldTree.node children).get? name with
    | none =>
      cases hget' : (FieldTree.node children').get? name with
      | none => rfl
      | some child' =>
        obtain ⟨_, hsome, -⟩ := (hname []).mpr ⟨child', hget', has_nil child'⟩
        cases hget.symm.trans hsome
    | some child =>
      obtain ⟨child', hget', -⟩ := (hname []).mp ⟨child, hget, has_nil child⟩
      rw [hget']
      congr 1
      -- the ways below the two children are the ways of the two trees that begin with the name
      refine ih (name, child) (Members.mem_of_get? hget) (hchildren' _ (Members.mem_of_get? hget'))
        fun rest => ?_
      constructor
      · intro hrest
        obtain ⟨_, hsome, hthere⟩ := (hname rest).mp ⟨child, hget, hrest⟩
        obtain rfl := Option.some.inj (hget'.symm.trans hsome)
        exact hthere
      · intro hrest
        obtain ⟨_, hsome, hthere⟩ := (hname rest).mpr ⟨child', hget', hrest⟩
        obtain rfl := Option.some.inj (hget.symm.trans hsome)
        exact hthere

/-! ## The listing -/

mutual

/-- The ways to all nodes below a node, parents before their children. -/
def ways : FieldTree → List (List String)
  | .node children => waysOf children

/-- The ways to the listed children and to all nodes below them. -/
def waysOf : List (String × FieldTree) → List (List String)
  | [] => []
  | (name, child) :: rest => ([] :: ways child).map (name :: ·) ++ waysOf rest

end

theorem ways_node (children : List (String × FieldTree)) :
    (FieldTree.node children).ways
      = children.flatMap fun child => ([] :: child.2.ways).map (child.1 :: ·) := by
  rw [ways]
  induction children with
  | nil => rw [waysOf, List.flatMap_nil]
  | cons child rest ih => rw [waysOf, List.flatMap_cons, ih]

/-- The listed paths are those along the ways.  Paths are joined from their names on the way down,
so the statement is for every parent. -/
theorem pathsBelow_eq_map (parent : String) (tree : FieldTree) :
    pathsBelow parent tree = tree.ways.map fun way => way.foldl Field.below parent := by
  -- the two walks go over the children in the same order
  induction tree using nestedInduction generalizing parent with
  | node children ih =>
    rw [pathsBelow, ways]
    induction children with
    | nil => rw [pathsOfChildren, waysOf, List.map_nil]
    | cons entry rest ihrest =>
      obtain ⟨name, child⟩ := entry
      obtain ⟨hchild, hrest⟩ := List.forall_mem_cons.mp ih
      rw [pathsOfChildren, waysOf, List.map_append, List.map_map, List.map_cons, ihrest hrest,
        hchild]
      rfl

/-- **The listing of an ordered tree has all of its ways but the empty one.**  A way is listed with
its first child, behind the child itself and in front of the children that follow. -/
theorem mem_ways_iff (h : tree.Ordered) : way ∈ tree.ways ↔ way ≠ [] ∧ tree.Has way := by
  -- by induction on the way, one child further down
  induction way generalizing tree with
  | nil =>
    obtain ⟨children⟩ := tree
    refine iff_of_false (fun hmem => ?_) fun hne => hne.1 rfl
    rw [ways_node] at hmem
    obtain ⟨child, -, hway⟩ := List.mem_flatMap.mp hmem
    obtain ⟨rest, -, heq⟩ := List.mem_map.mp hway
    cases heq
  | cons name rest ih =>
    cases h with
    | @node children hsorted hchildren =>
    rw [ways_node, List.mem_flatMap, has_cons_iff]
    constructor
    · rintro ⟨⟨_, child⟩, hmem, hway⟩
      obtain ⟨_, hrest, ⟨rfl, rfl⟩⟩ := List.mem_map.mp hway
      refine ⟨List.cons_ne_nil _ _, child, Members.get?_of_mem hsorted hmem, ?_⟩
      rcases List.mem_cons.mp hrest with rfl | hbelow
      · exact has_nil child
      · exact ((ih (hchildren _ hmem)).mp hbelow).2
    · rintro ⟨-, child, hget, hthere⟩
      have hmem : (name, child) ∈ children := Members.mem_of_get? hget
      refine ⟨(name, child), hmem, List.mem_map.mpr ⟨rest, List.mem_cons.mpr ?_, rfl⟩⟩
      by_cases hrest : rest = []
      · exact Or.inl hrest
      · exact Or.inr ((ih (hchildren _ hmem)).mpr ⟨hrest, hthere⟩)

/-- **Nothing that is listed later is the beginning of a way**, nor the way itself. -/
theorem pairwise_ways (h : tree.Ordered) :
    tree.ways.Pairwise fun earlier later => ¬ later <+: earlier := by
  -- by induction on the tree; ways below the same child, and ways below two of them
  induction h with
  | @node children hsorted hchildren ih =>
    rw [ways_node, List.pairwise_flatMap]
    constructor
    · -- the child itself comes first, and below it the ways are longer
      intro child hchild
      rw [List.pairwise_map]
      refine (List.pairwise_cons.mpr ⟨fun below hbelow hnil => ?_, ih child hchild⟩).imp
        fun hnot hcons => hnot (List.cons_prefix_cons.mp hcons).2
      exact ((mem_ways_iff (hchildren child hchild)).mp hbelow).1 (List.prefix_nil.mp hnil)
    · -- the ways along different children begin with different names
      refine (Members.pairwise_ne_of_sorted hsorted).imp
        fun hne earlier hearlier later hlater hbegins => ?_
      obtain ⟨below, -, rfl⟩ := List.mem_map.mp hearlier
      obtain ⟨below', -, rfl⟩ := List.mem_map.mp hlater
      exact hne (List.cons_prefix_cons.mp hbegins).1.symm

/-! ## Flattened trees -/

section

variable {paths : List String}

/-- The names along the ways of a grouped tree are names of the listed paths. -/
theorem of_has_ofPaths (h : (ofPaths paths).Has way) :
    ∀ name ∈ way, name ≠ "" ∧ '.' ∉ name.toList := by
  intro name hname
  rcases has_ofPaths_iff.mp h with rfl | ⟨path, -, hprefix⟩
  · exact absurd hname List.not_mem_nil
  · have hsegment := hprefix.subset hname
    exact of_mem_namesOf hsegment

/-- A flattened grouped tree has the paths along its ways. -/
theorem flatten_ofPaths (paths : List String) :
    (ofPaths paths).flatten = (ofPaths paths).ways.map (Text.joinWith ".") := by
  rw [flatten, pathsBelow_eq_map]
  refine List.map_congr_left fun way hway => ?_
  obtain ⟨hne, hthere⟩ := (mem_ways_iff (ordered_ofPaths paths)).mp hway
  cases way with
  | nil => exact absurd rfl hne
  | cons name rest =>
    exact Field.foldl_below_root (of_has_ofPaths hthere name List.mem_cons_self).1 rest

/-- The path along a way of a grouped tree is cut apart into the names of the way. -/
theorem segments_of_mem_ways (h : way ∈ (ofPaths paths).ways) :
    Field.segments (Text.joinWith "." way) = way := by
  obtain ⟨hne, hthere⟩ := (mem_ways_iff (ordered_ofPaths paths)).mp h
  exact Field.segments_joinWith hne fun name hname => (of_has_ofPaths hthere name hname).2

/-- All of its names count. -/
theorem namesOf_of_mem_ways (h : way ∈ (ofPaths paths).ways) :
    namesOf (Text.joinWith "." way) = way := by
  obtain ⟨-, hthere⟩ := (mem_ways_iff (ordered_ofPaths paths)).mp h
  rw [namesOf, segments_of_mem_ways h, List.filter_eq_self]
  intro name hname
  rw [Bool.not_eq_true', ← Bool.not_eq_true, String.isEmpty_iff]
  exact (of_has_ofPaths hthere name hname).1

/-- A flattened tree has the paths along the beginnings of the listed paths. -/
theorem mem_flatten_ofPaths_iff :
    path ∈ (ofPaths paths).flatten ↔
      ∃ listed ∈ paths, ∃ names, names ≠ [] ∧ names <+: namesOf listed ∧
        path = Text.joinWith "." names := by
  rw [flatten_ofPaths, List.mem_map]
  constructor
  · rintro ⟨way, hway, rfl⟩
    obtain ⟨hne, hthere⟩ := (mem_ways_iff (ordered_ofPaths paths)).mp hway
    obtain ⟨listed, hlisted, hprefix⟩ := (has_ofPaths_iff.mp hthere).resolve_left hne
    exact ⟨listed, hlisted, way, hne, hprefix, rfl⟩
  · rintro ⟨listed, hlisted, names, hne, hprefix, rfl⟩
    have hthere : (ofPaths paths).Has names := has_ofPaths_iff.mpr (Or.inr ⟨listed, hlisted, hprefix⟩)
    exact ⟨names, (mem_ways_iff (ordered_ofPaths paths)).mpr ⟨hne, hthere⟩, rfl⟩

/-- In a flattened tree no path is followed by one that it lies below, nor by itself. -/
theorem pairwise_flatten_ofPaths (paths : List String) :
    (ofPaths paths).flatten.Pairwise fun earlier later =>
      ¬ Field.segments later <+: Field.segments earlier := by
  rw [flatten_ofPaths, List.pairwise_map]
  refine (pairwise_ways (ordered_ofPaths paths)).imp_of_mem fun hearlier hlater hnot => ?_
  rw [segments_of_mem_ways hearlier, segments_of_mem_ways hlater]
  exact hnot

/-- The same names grouped give the same tree. -/
theorem ofPaths_congr {others : List String}
    (h : ∀ names, names ∈ others.map namesOf ↔ names ∈ paths.map namesOf) :
    ofPaths others = ofPaths paths := by
  -- an ordered tree is told by its ways, and these depend on the names alone
  refine ext_has (ordered_ofPaths others) (ordered_ofPaths paths) fun way => ?_
  have hbegins : ∀ listed : List String, (∃ path ∈ listed, way <+: namesOf path) ↔
      ∃ names ∈ listed.map namesOf, way <+: names := by
    intro listed
    constructor
    · rintro ⟨path, hpath, hprefix⟩
      exact ⟨namesOf path, List.mem_map.mpr ⟨path, hpath, rfl⟩, hprefix⟩
    · rintro ⟨_, hnames, hprefix⟩
      obtain ⟨path, hpath, rfl⟩ := List.mem_map.mp hnames
      exact ⟨path, hpath, hprefix⟩
  rw [has_ofPaths_iff, has_ofPaths_iff, hbegins, hbegins]
  exact or_congr_right (exists_congr fun names => and_congr_left fun _ => h names)

/-- Grouping the flattened tree gives the tree back. -/
theorem ofPaths_flatten (paths : List String) :
    ofPaths (ofPaths paths).flatten = ofPaths paths := by
  refine ext_has (ordered_ofPaths _) (ordered_ofPaths paths) fun way => ?_
  rw [has_ofPaths_iff, flatten_ofPaths]
  constructor
  · rintro (rfl | ⟨path, hpath, hprefix⟩)
    · exact has_nil _
    · -- a beginning of a way is a way
      obtain ⟨listed, hlisted, rfl⟩ := List.mem_map.mp hpath
      rw [namesOf_of_mem_ways hlisted] at hprefix
      obtain ⟨hne, hthere⟩ := (mem_ways_iff (ordered_ofPaths paths)).mp hlisted
      obtain ⟨origin, horigin, hlonger⟩ := (has_ofPaths_iff.mp hthere).resolve_left hne
      exact has_ofPaths_iff.mpr (Or.inr ⟨origin, horigin, hprefix.trans hlonger⟩)
  · intro hthere
    by_cases hway : way = []
    · exact Or.inl hway
    · have hlisted := (mem_ways_iff (ordered_ofPaths paths)).mpr ⟨hway, hthere⟩
      refine Or.inr ⟨_, List.mem_map.mpr ⟨way, hlisted, rfl⟩, ?_⟩
      simp only [namesOf_of_mem_ways hlisted, List.prefix_rfl]

end

/-- **Grouping is a normal form.**  Flattened, a grouped tree lists the beginnings of the listed paths,
by whole names and without the empty ones, each of them once and none after what lies below it.  The
tree depends on the set of the lists of names only; and grouping what it lists gives it back. -/
theorem grouping_canonical (paths : List String) :
    (∀ path, path ∈ (ofPaths paths).flatten ↔
      ∃ listed ∈ paths, ∃ names, names ≠ [] ∧ names <+: namesOf listed ∧
        path = Text.joinWith "." names) ∧
    (ofPaths paths).flatten.Nodup ∧
    (ofPaths paths).flatten.Pairwise (fun earlier later =>
      ¬ Field.segments later <+: Field.segments earlier) ∧
    (∀ others : List String,
      (∀ names, names ∈ others.map namesOf ↔ names ∈ paths.map namesOf) →
        ofPaths others = ofPaths paths) ∧
    ofPaths (ofPaths paths).flatten = ofPaths paths := by
  have hparents := pairwise_flatten_ofPaths paths
  have honce : (ofPaths paths).flatten.Nodup := hparents.imp fun hnot heq => by
    subst heq
    exact hnot List.prefix_rfl
  exact ⟨fun _ => mem_flatten_ofPaths_iff, honce, hparents, fun _ => ofPaths_congr,
    ofPaths_flatten paths⟩

/-- Stray dots, another order and repeated paths leave no trace. -/
theorem grouping_canonical_of_stray_dots :
    namesOf ".naam..geslachtsnaam." = ["naam", "geslachtsnaam"] ∧
    (ofPaths ["naam.voornamen", ".naam..geslachtsnaam.", "naam.voornamen"]).flatten
      = ["naam", "naam.geslachtsnaam", "naam.voornamen"] ∧
    ofPaths ["naam.geslachtsnaam", "naam.voornamen"]
      = ofPaths ["naam.voornamen", ".naam..geslachtsnaam.", "naam.voornamen"] := by
  have hstray : namesOf ".naam..geslachtsnaam." = ["naam", "geslachtsnaam"] := by decide +kernel
  have hplain : namesOf "naam.geslachtsnaam" = ["naam", "geslachtsnaam"] := by decide +kernel
  refine ⟨hstray, by decide +kernel, ?_⟩
  refine (grouping_canonical ["naam.voornamen", ".naam..geslachtsnaam.", "naam.voornamen"]).2.2.2.1
    ["naam.geslachtsnaam", "naam.voornamen"] fun names => ?_
  simp only [List.map_cons, List.map_nil, hstray, hplain, List.mem_cons, List.not_mem_nil, or_false]
  exact ⟨fun h => h.symm.imp_right .inl, fun h => h.elim .inr fun h => h⟩

end FieldTree

end RegistryGate
