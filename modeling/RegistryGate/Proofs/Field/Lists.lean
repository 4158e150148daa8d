/-
  Field lists and the datasets made of them.

  A field list is read off a text line by line.  Which lines hold a path is `IsPathLine`, and a list
  can be read when all of these hold well-formed ones; it then holds them and nothing else
  (`parse_eq_ok_iff`).  Datasets are added to a catalog one by one, each with a list that is not
  empty; datasets of different names make the catalog that holds them all
  (`foldlM_insertGroup_eq_ok_iff`).
-/
import RegistryGate.Field.Catalog
import RegistryGate.Proofs.Ordered.Lookup
import RegistryGate.Proofs.Text.Cutting

namespace RegistryGate

/-! ## Field lists -/

namespace FieldList

variable {text line : String} {paths : List String} {list : FieldList}

/-- Holds of the lines of a text that hold a path: trimmed, they are neither blank nor comments. -/
def IsPathLine (text line : String) : Prop :=
  (∃ raw ∈ Text.splitOn '\n' text, line = Text.trim raw) ∧ line ≠ "" ∧ ∀ rest, line ≠ "#" ++ rest

/-- Holds of a trimmed line that is kept. -/
def isKept (line : String) : Bool := !line.isEmpty && !Text.startsWith "#" line

theorem isKept_iff : isKept line = true ↔ line ≠ "" ∧ ∀ rest, line ≠ "#" ++ rest := by
  rw [isKept, Bool.and_eq_true, Bool.not_eq_true', Bool.not_eq_true', ← Bool.not_eq_true,
    ← Bool.not_eq_true, String.isEmpty_iff, Text.startsWith_iff, not_exists]

theorem mem_pathLines_iff : line ∈ pathLines text ↔ IsPathLine text line := by
  show line ∈ ((Text.splitOn '\n' text).map Text.trim).filter isKept ↔ _
  rw [List.mem_filter, List.mem_map, isKept_iff]
  constructor
  · rintro ⟨⟨raw, hraw, rfl⟩, hline⟩
    exact ⟨⟨raw, hraw, rfl⟩, hline⟩
  · rintro ⟨⟨raw, hraw, rfl⟩, hline⟩
    exact ⟨⟨raw, hraw, rfl⟩, hline⟩

/-- A list is made of well-formed paths, and holds them. -/
theorem ofPaths_eq_ok_iff : ofPaths paths = .ok list ↔
    (∀ path ∈ paths, Field.isPath path = true) ∧ ∀ path, path ∈ list.entries ↔ path ∈ paths := by
  unfold ofPaths
  split
  · rename_i path hfind
    refine iff_of_false (fun h => nomatch h) fun ⟨hvalid, _⟩ => ?_
    have hfault := List.find?_some hfind
    rw [hvalid path (List.mem_of_find?_eq_some hfind)] at hfault
    cases hfault
  · rename_i hfind
    have hvalid : ∀ path ∈ paths, Field.isPath path = true := by
      intro path hpath
      have hno := List.find?_eq_none.mp hfind path hpath
      simpa using hno
    constructor
    · intro h
      cases h
      exact ⟨hvalid, fun path => SortedSet.mem_ofList⟩
    · rintro ⟨-, hentries⟩
      refine congrArg Except.ok (ext (SortedSet.ext_mem fun path => ?_))
      rw [SortedSet.mem_ofList, hentries]

/-- Otherwise the first path that is not well formed is reported. -/
theorem ofPaths_eq_error_iff {fault : CatalogFault} : ofPaths paths = .error fault ↔
    ∃ path, paths.find? (fun path => !Field.isPath path) = some path ∧ fault = .invalidPath path := by
  unfold ofPaths
  -- either way the search for a faulty path says which case it is
  split
  · rename_i path hfind
    constructor
    · intro h
      exact ⟨path, hfind, (Except.error.inj h).symm⟩
    · rintro ⟨other, hother, rfl⟩
      rw [hfind] at hother
      rw [Option.some.inj hother]
  · rename_i hfind
    refine iff_of_false (fun h => nomatch h) fun ⟨path, hpath, _⟩ => ?_
    rw [hfind] at hpath
    cases hpath

/-- **A list is read off a text of which every line with a path holds a well-formed one**, and then has
these paths. -/
theorem parse_eq_ok_iff : parse text = .ok list ↔
    (∀ line, IsPathLine text line → Field.isPath line = true) ∧
      ∀ line, line ∈ list.entries ↔ IsPathLine text line := by
  simp only [parse, ofPaths_eq_ok_iff, mem_pathLines_iff]

/-- The paths of the lines are all that it takes. -/
theorem exists_parse_iff : (∃ list, parse text = .ok list) ↔
    ∀ line, IsPathLine text line → Field.isPath line = true := by
  constructor
  · rintro ⟨list, hlist⟩
    exact (parse_eq_ok_iff.mp hlist).1
  · intro hvalid
    have hpaths : ∀ path ∈ SortedSet.toList (SortedSet.ofList (pathLines text)),
        Field.isPath path = true := fun path hpath =>
      hvalid path (mem_pathLines_iff.mp (SortedSet.mem_ofList.mp hpath))
    refine ⟨⟨SortedSet.ofList (pathLines text), hpaths⟩, parse_eq_ok_iff.mpr ⟨hvalid, fun line => ?_⟩⟩
    exact SortedSet.mem_ofList.trans mem_pathLines_iff

theorem isEmpty_eq_false_iff : list.isEmpty = false ↔ ∃ path, path ∈ list.entries := by
  rw [← Bool.not_eq_true, isEmpty, SortedSet.isEmpty_iff]
  exact not_forall_not

end FieldList

/-! ## The catalog of datasets -/

namespace FieldCatalog

/-- A dataset is added if it has fields and is new. -/
theorem insertGroup_eq_ok_iff {catalog result : FieldCatalog} {dataset : String}
    {fields : FieldList} : catalog.insertGroup dataset fields = .ok result ↔
      fields.isEmpty = false ∧ catalog.groups.contains dataset = false ∧
        result = ⟨catalog.groups.insert dataset fields⟩ := by
  unfold insertGroup
  cases fields.isEmpty with
  | true => exact iff_of_false (fun h => nomatch h) fun ⟨h, _⟩ => nomatch h
  | false =>
    cases catalog.groups.contains dataset with
    | true => exact iff_of_false (fun h => nomatch h) fun ⟨_, h, _⟩ => nomatch h
    | false =>
      constructor
      · intro h
        exact ⟨rfl, rfl, (Except.ok.inj h).symm⟩
      · rintro ⟨-, -, rfl⟩
        rfl

/-- Datasets of different names that are all new are added if each has fields. -/
theorem foldlM_insertGroup_eq_ok_iff {entries : Members FieldList}
    (hsorted : Members.Sorted entries) {catalog result : FieldCatalog}
    (hnew : ∀ entry ∈ entries, catalog.groups.contains entry.1 = false) :
    entries.foldlM (fun (catalog : FieldCatalog) (entry : String × FieldList) =>
        catalog.insertGroup entry.1 entry.2) catalog = .ok result ↔
      (∀ entry ∈ entries, entry.2.isEmpty = false) ∧
        result.groups.entries
          = entries.foldl (fun acc e => Members.insert e.1 e.2 acc) catalog.groups.entries := by
  -- by induction on the datasets, for the catalog so far
  induction entries generalizing catalog with
  | nil =>
    rw [List.foldlM_nil, List.foldl_nil]
    constructor
    · intro h
      obtain rfl := Except.ok.inj h
      exact ⟨fun _ hmem => absurd hmem List.not_mem_nil, rfl⟩
    · rintro ⟨-, h⟩
      obtain ⟨groups⟩ := catalog
      obtain ⟨groups'⟩ := result
      obtain rfl : groups' = groups := Table.ext h
      rfl
  | cons entry rest ih =>
    obtain ⟨dataset, fields⟩ := entry
    have hsorted' : Members.Sorted rest := (List.pairwise_cons.mp
      (show Ascending (dataset :: Members.names rest) from hsorted)).2
    obtain ⟨hnames, -⟩ := List.pairwise_cons.mp (Members.pairwise_ne_of_sorted hsorted)
    obtain ⟨hfirst, hothers⟩ := List.forall_mem_cons.mp hnew
    -- no later dataset has the name of the first one, so all of them are still new
    have hlater : ∀ entry ∈ rest,
        (FieldCatalog.mk (catalog.groups.insert dataset fields)).groups.contains entry.1 = false := by
      intro entry hentry
      have hold : (catalog.groups.get? entry.1).isSome = false := hothers entry hentry
      show ((catalog.groups.insert dataset fields).get? entry.1).isSome = false
      rw [Table.get?_insert_of_ne _ (hnames entry hentry).symm, hold]
    have hrest := ih hsorted' hlater
    rw [List.foldlM_cons, Fallible.bind_eq_ok_iff, List.foldl_cons, List.forall_mem_cons, and_assoc]
    constructor
    · rintro ⟨_, hinsert, hfold⟩
      obtain ⟨hfields, -, rfl⟩ := insertGroup_eq_ok_iff.mp hinsert
      exact ⟨hfields, hrest.mp hfold⟩
    · rintro ⟨hfields, hresult⟩
      exact ⟨_, insertGroup_eq_ok_iff.mpr ⟨hfields, hfirst, rfl⟩, hrest.mpr hresult⟩

end FieldCatalog

end RegistryGate
