/-
  Paths as the names along them.

  A path is cut at its dots and put together again: cutting loses nothing (`joinWith_segments`), and
  names without dots come back as they were (`segments_joinWith`).  A well-formed path is one or
  more plain names, with or without a wildcard behind them (`exists_names_of_isPath`).

  A shape lists the paths that it knows by walking down to every field.  Where a path of plain names
  leads somewhere, it is on that list (`mem_knownPaths`).
-/
import RegistryGate.Proofs.Field.Coverage
import RegistryGate.Proofs.Ordered.Lookup
import RegistryGate.Proofs.Text.Cutting
import RegistryGate.Shape

namespace RegistryGate

namespace Field

/-! ## Joining names -/

theorem toList_joinWith (names : List String) :
    (Text.joinWith "." names).toList = ['.'].intercalate (names.map String.toList) := by
  rw [Text.joinWith, String.toList_intercalate]
  rfl

/-- Cutting a path at its dots loses nothing. -/
theorem joinWith_segments (path : String) : Text.joinWith "." (segments path) = path := by
  refine String.toList_inj.mp ?_
  have hsame : String.toList ∘ String.ofList = id := funext fun _ => String.toList_ofList
  rw [toList_joinWith, segments, Text.splitOn, List.map_map, hsame, List.map_id,
    List.intercalate_splitOn]

/-- Names without dots are cut apart where they were joined. -/
theorem segments_joinWith {names : List String} (hne : names ≠ [])
    (h : ∀ name ∈ names, '.' ∉ name.toList) : segments (Text.joinWith "." names) = names :=
  Text.splitOn_joinWith hne h

/-- A name without a dot is a path of its own. -/
theorem segments_of_no_dot {name : String} (h : '.' ∉ name.toList) : segments name = [name] := by
  have hcut := segments_joinWith (List.cons_ne_nil name []) (List.forall_mem_singleton.mpr h)
  rw [Text.joinWith_singleton] at hcut
  exact hcut

/-- One more name at the end of a path.  The separator before the last name is the only new one,
since there was a name before it. -/
theorem joinWith_append_singleton {names : List String} (hne : names ≠ []) (last : String) :
    Text.joinWith "." (names ++ [last]) = Text.joinWith "." names ++ "." ++ last := by
  -- by induction on the names in front; the last two are joined by hand
  induction names with
  | nil => exact absurd rfl hne
  | cons name rest ih =>
    cases rest with
    | nil =>
      rw [Text.joinWith_singleton]
      show Text.joinWith "." [name, last] = _
      rw [Text.joinWith_cons_cons, Text.joinWith_singleton]
    | cons next rest =>
      have htail := ih (List.cons_ne_nil next rest)
      rw [List.cons_append] at htail
      rw [List.cons_append, List.cons_append, Text.joinWith_cons_cons, htail, Text.joinWith_cons_cons]
      simp only [String.append_assoc]

/-- Walking down from a path is putting the names behind it.  Each step down puts a dot and a name
behind the path that was reached, and joining does the same from the other end. -/
theorem foldl_below_of_ne {parent : String} (hparent : parent ≠ "") (names : List String) :
    names.foldl below parent = Text.joinWith "." (parent :: names) := by
  -- by induction on the names, for the path that was reached so far
  induction names generalizing parent with
  | nil => exact Text.joinWith_singleton.symm
  | cons name rest ih =>
    have hbelow : below parent name = parent ++ "." ++ name :=
      if_neg fun hempty => hparent (String.isEmpty_iff.mp hempty)
    have hne : parent ++ "." ++ name ≠ "" := by
      intro heq
      have := congrArg String.toList heq
      simp at this
    rw [List.foldl_cons, hbelow, ih hne]
    cases rest with
    | nil => rw [Text.joinWith_singleton, Text.joinWith_cons_cons, Text.joinWith_singleton]
    | cons next rest =>
      rw [Text.joinWith_cons_cons, Text.joinWith_cons_cons, Text.joinWith_cons_cons]
      simp only [String.append_assoc]

/-- Walking down from the root along names of which the first is not empty gives their path. -/
theorem foldl_below_root {name : String} (hname : name ≠ "") (rest : List String) :
    (name :: rest).foldl below "" = Text.joinWith "." (name :: rest) := by
  rw [List.foldl_cons]
  exact foldl_below_of_ne hname rest

/-! ## Well-formed paths -/

/-- Holds of the names that leave the dots and the wildcard of a path alone: they are not empty, and
have neither a dot nor a star. -/
def IsPlain (name : String) : Prop := name ≠ "" ∧ '.' ∉ name.toList ∧ '*' ∉ name.toList

instance (name : String) : Decidable (IsPlain name) := inferInstanceAs (Decidable (_ ∧ _ ∧ _))

/-- The names of well-formed paths are such names. -/
theorem of_isName {name : String} (h : isName name = true) : IsPlain name := by
  rw [isName, Bool.and_eq_true, List.all_eq_true] at h
  obtain ⟨hempty, hchars⟩ := h
  refine ⟨?_, fun hdot => absurd (hchars _ hdot) (by decide),
    fun hstar => absurd (hchars _ hstar) (by decide)⟩
  rintro rfl
  exact absurd hempty (by decide)

/-- The names of a well-formed path are plain ones, and possibly a star at the end. -/
theorem exists_names_of_validSegments {segs : List String} (h : validSegments segs = true) :
    ∃ names, names ≠ [] ∧ (∀ name ∈ names, isName name = true) ∧
      (segs = names ∨ segs = names ++ ["*"]) := by
  -- along the segments: the last one alone may be a star
  fun_induction validSegments segs with
  | case1 => cases h
  | case2 name => exact ⟨[name], List.cons_ne_nil _ _, List.forall_mem_singleton.mpr h, Or.inl rfl⟩
  | case3 name rest hrest ih =>
    rw [Bool.and_eq_true, Bool.or_eq_true, beq_iff_eq] at h
    obtain ⟨hname, rfl | hvalid⟩ := h
    · exact ⟨[name], List.cons_ne_nil _ _, List.forall_mem_singleton.mpr hname, Or.inr rfl⟩
    · obtain ⟨names, -, hnames, hsegs⟩ := ih hvalid
      refine ⟨name :: names, List.cons_ne_nil _ _, List.forall_mem_cons.mpr ⟨hname, hnames⟩, ?_⟩
      rcases hsegs with rfl | rfl
      · exact Or.inl rfl
      · exact Or.inr rfl

theorem validSegments_cons_cons (name next : String) (rest : List String) :
    validSegments (name :: next :: rest)
      = (isName name && (next :: rest == ["*"] || validSegments (next :: rest))) :=
  rfl

/-- Such names are those of a well-formed path. -/
theorem validSegments_of_names {names : List String} (hne : names ≠ [])
    (hnames : ∀ name ∈ names, isName name = true) :
    validSegments names = true ∧ validSegments (names ++ ["*"]) = true := by
  -- the names are checked in pairs, so a single one is a case of its own
  induction names with
  | nil => exact absurd rfl hne
  | cons name rest ih =>
    obtain ⟨hname, hrest⟩ := List.forall_mem_cons.mp hnames
    cases rest with
    | nil =>
      refine ⟨hname, ?_⟩
      rw [List.singleton_append, validSegments_cons_cons, hname]
      rfl
    | cons next rest =>
      obtain ⟨hplain, hwild⟩ := ih (List.cons_ne_nil next rest) hrest
      rw [List.cons_append] at hwild
      constructor
      · rw [validSegments_cons_cons, hname, hplain, Bool.or_true, Bool.and_true]
      · rw [List.cons_append, List.cons_append, validSegments_cons_cons, hname, hwild, Bool.or_true,
          Bool.and_true]

/-- A character of a joined path is a dot, or one of a name. -/
theorem mem_toList_joinWith {names : List String} {c : Char}
    (h : c ∈ (Text.joinWith "." names).toList) : c = '.' ∨ ∃ name ∈ names, c ∈ name.toList := by
  induction names with
  | nil => simp [Text.joinWith] at h
  | cons name rest ih =>
    cases rest with
    | nil =>
      rw [Text.joinWith_singleton] at h
      exact Or.inr ⟨name, List.mem_cons_self, h⟩
    | cons next rest =>
      rw [Text.joinWith_cons_cons, String.toList_append, String.toList_append, List.mem_append,
        List.mem_append] at h
      rcases h with (hname | hdot) | htail
      · exact Or.inr ⟨name, List.mem_cons_self, hname⟩
      · exact Or.inl (List.mem_singleton.mp hdot)
      · rcases ih htail with hdot | ⟨other, hother, hmem⟩
        · exact Or.inl hdot
        · exact Or.inr ⟨other, List.mem_cons_of_mem _ hother, hmem⟩

/-- A path of plain names has no star. -/
theorem star_not_mem_joinWith {names : List String} (h : ∀ name ∈ names, IsPlain name) :
    '*' ∉ (Text.joinWith "." names).toList := by
  intro hstar
  rcases mem_toList_joinWith hstar with hdot | ⟨name, hname, hmem⟩
  · exact absurd hdot (by decide)
  · exact (h name hname).2.2 hmem

/-- So no wildcard is cut off it. -/
theorem wildcardBase_joinWith {names : List String} (h : ∀ name ∈ names, IsPlain name) :
    wildcardBase (Text.joinWith "." names) = Text.joinWith "." names := by
  refine wildcardBase_eq_self fun parent heq => star_not_mem_joinWith h ?_
  rw [heq]
  simp

/-- **A well-formed path is made of plain names**: without its wildcard it is these names, with dots
between them. -/
theorem exists_names_of_isPath {path : String} (h : isPath path = true) :
    ∃ names, names ≠ [] ∧ (∀ name ∈ names, isName name = true) ∧
      wildcardBase path = Text.joinWith "." names := by
  rw [isPath, Bool.and_eq_true] at h
  obtain ⟨names, hne, hnames, hsegs⟩ := exists_names_of_validSegments h.2
  refine ⟨names, hne, hnames, ?_⟩
  rcases hsegs with hplain | hwild
  · rw [← joinWith_segments path, hplain,
      wildcardBase_joinWith fun name hname => of_isName (hnames name hname)]
  · have hpath : path = Text.joinWith "." names ++ ".*" := by
      rw [← joinWith_segments path, hwild, joinWith_append_singleton hne, String.append_assoc]
      rfl
    rw [hpath, wildcardBase_append_wildcard]

end Field

/-! ## Known paths -/

namespace Shape

/-- The path of a field is listed, and so are those below it. -/
theorem mem_pathsOfFields {fields : List (String × Shape)} {name : String} {child : Shape}
    (h : (name, child) ∈ fields) (parent : String) :
    Field.below parent name ∈ pathsOfFields parent fields ∧
      ∀ path ∈ pathsBelow (Field.below parent name) child, path ∈ pathsOfFields parent fields := by
  induction fields with
  | nil => exact absurd h List.not_mem_nil
  | cons field rest ih =>
    obtain ⟨other, shape⟩ := field
    rw [pathsOfFields]
    rcases List.mem_cons.mp h with heq | hrest
    · cases heq
      exact ⟨by simp, fun path hpath => by simp [hpath]⟩
    · obtain ⟨hown, hbelow⟩ := ih hrest
      exact ⟨by simp [hown], fun path hpath => by simp [hbelow path hpath]⟩

/-- The same for a field of any shape, through lists. -/
theorem mem_pathsBelow {shape child : Shape} {name : String} (h : shape.field? name = some child)
    (parent : String) :
    Field.below parent name ∈ pathsBelow parent shape ∧
      ∀ path ∈ pathsBelow (Field.below parent name) child, path ∈ pathsBelow parent shape := by
  match shape with
  | .scalar => cases h
  | .list item =>
    rw [pathsBelow]
    have hitem : item.field? name = some child := h
    exact mem_pathsBelow hitem parent
  | .object fields =>
    rw [pathsBelow]
    exact mem_pathsOfFields (Members.mem_of_get? h) parent

/-- Where names lead to a field, the path along them is listed.  Where the first name leads to a
field, the rest of the walk is listed below the path of that field. -/
theorem foldl_below_mem_pathsBelow {shape child : Shape} {names : List String} (hne : names ≠ [])
    (h : shape.resolveSegments names = some child) (parent : String) :
    names.foldl Field.below parent ∈ pathsBelow parent shape := by
  -- one name after the other, from the path that leads to the shape
  induction names generalizing shape parent with
  | nil => exact absurd rfl hne
  | cons name rest ih =>
    rw [resolveSegments] at h
    obtain ⟨inner, hinner, hrest⟩ := Option.bind_eq_some_iff.mp h
    obtain ⟨hown, hbelow⟩ := mem_pathsBelow hinner parent
    rw [List.foldl_cons]
    cases rest with
    | nil => exact hown
    | cons next rest => exact hbelow _ (ih (List.cons_ne_nil next rest) hrest _)

end Shape

/-- **A path of plain names that leads to a field is known.** -/
theorem ResponseShape.mem_knownPaths {shape : ResponseShape} {names : List String}
    (hne : names ≠ []) (hnames : ∀ name ∈ names, Field.isName name = true)
    (h : (shape.resolve? (Text.joinWith "." names)).isSome = true) :
    Text.joinWith "." names ∈ shape.knownPaths := by
  obtain ⟨child, hchild⟩ := Option.isSome_iff_exists.mp h
  rw [resolve?, Shape.resolve?, Field.segments_joinWith hne fun name hname =>
    (Field.of_isName (hnames name hname)).2.1] at hchild
  have hlisted := Shape.foldl_below_mem_pathsBelow hne hchild ""
  match names, hne with
  | name :: rest, _ =>
    rw [Field.foldl_below_root (Field.of_isName (hnames name List.mem_cons_self)).1] at hlisted
    exact hlisted

end RegistryGate
