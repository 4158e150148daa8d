/-
  A catalog is loaded as a whole, or not at all.

  What is asked of the files is said in terms of the files alone: their texts (`HasText`), the lines
  of a text that hold a path (`HasLine`), and the field lists that a directory has (`HasList`).  From
  the single line to the whole directory each step of loading has one lemma, which says when it
  succeeds and what it then gives; a list is determined by the lines of its file, so that neither the
  order of the directory nor repetitions in it leave a trace.

  The conditions on all files of a service together are `Usable`, and what a catalog then is made of
  is `MadeOf`.  The statement is `loadCatalog_exact`.
-/
import RegistryGate.Config.Catalogs
import RegistryGate.Proofs.Field.Defaults
import RegistryGate.Proofs.Field.Lists

namespace RegistryGate

/-! ## File names -/

/-- The stem of a name is what precedes the ending. -/
theorem Path.stem?_eq_some_iff {extension name stem : String} (h : '.' ∉ extension.toList) :
    stem? extension name = some stem ↔ stem ≠ "" ∧ name = stem ++ "." ++ extension := by
  unfold stem?
  constructor
  · intro hstem
    split at hstem
    · rename_i before ending hsplit
      split at hstem
      · rename_i hcond
        obtain ⟨rfl, hempty⟩ := hcond
        obtain rfl := Option.some.inj hstem
        obtain ⟨hname, -⟩ := Text.splitLast?_eq_some_iff.mp hsplit
        refine ⟨?_, hname⟩
        rintro rfl
        cases hempty
      · cases hstem
    · cases hstem
  · -- the extension has no dot, so the last dot is the one before it
    rintro ⟨hne, rfl⟩
    have hsplit : Text.splitLast? '.' (stem ++ "." ++ extension) = some (stem, extension) :=
      Text.splitLast?_eq_some_iff.mpr ⟨rfl, h⟩
    have hempty : (!stem.isEmpty) = true := by
      rw [Bool.not_eq_true', ← Bool.not_eq_true, String.isEmpty_iff]
      exact hne
    rw [hsplit]
    exact if_pos ⟨rfl, hempty⟩

namespace Config

variable {files : FileSystem} {shape : ResponseShape} {directory service path stem text line : String}

/-! ## Files -/

/-- A file holds a text: it can be read, is not too long, and is UTF-8. -/
def HasText (files : FileSystem) (path text : String) : Prop :=
  ∃ bytes, files.read path = .ok bytes ∧ bytes.size ≤ maxCatalogBytes ∧
    String.fromUTF8? bytes = some text

theorem HasText.unique {other : String} (h : HasText files path text)
    (h' : HasText files path other) : text = other := by
  obtain ⟨bytes, hread, -, htext⟩ := h
  obtain ⟨bytes', hread', -, hother⟩ := h'
  obtain rfl := Except.ok.inj (hread.symm.trans hread')
  exact Option.some.inj (htext.symm.trans hother)

/-- A file has a line that holds a path. -/
def HasLine (files : FileSystem) (path line : String) : Prop :=
  ∃ text, HasText files path text ∧ FieldList.IsPathLine text line

theorem hasLine_iff (h : HasText files path text) :
    HasLine files path line ↔ FieldList.IsPathLine text line := by
  constructor
  · rintro ⟨_, hother, hline⟩
    obtain rfl := h.unique hother
    exact hline
  · intro hline
    exact ⟨text, h, hline⟩

/-- A file holds an example object, from which the shape is taken. -/
def HasShape (files : FileSystem) (path : String) (shape : ResponseShape) : Prop :=
  ∃ text members, HasText files path text ∧ Json.parse? text = some (.object members) ∧
    ResponseShape.ofJson (.object members) = .ok shape

/-- A file can serve as a field list: every line that holds a path holds a well-formed one, which is
known without its wildcard. -/
structure IsFieldFile (files : FileSystem) (shape : ResponseShape) (path : String) : Prop where
  /-- It holds a text. -/
  hasText : ∃ text, HasText files path text
  /-- Its paths are well formed and known. -/
  lines : ∀ line, HasLine files path line →
    Field.isPath line = true ∧ shape.knows (Field.wildcardBase line) = true

/-- Three things can go wrong with the text of a file: it cannot be read, it is too long, or it is
not UTF-8. -/
theorem readCatalogFile_eq_ok_iff :
    readCatalogFile files path = .ok text ↔ HasText files path text := by
  unfold readCatalogFile FileSystem.readText HasText
  cases files.read path with
  | error fault => exact iff_of_false (fun h => nomatch h) fun ⟨_, h, _⟩ => nomatch h
  | ok bytes =>
    dsimp only
    by_cases hsize : maxCatalogBytes < bytes.size
    · rw [if_pos hsize]
      refine iff_of_false (fun h => nomatch h) ?_
      rintro ⟨_, ⟨rfl⟩, hle, -⟩
      omega
    · rw [if_neg hsize]
      cases htext : String.fromUTF8? bytes with
      | none =>
        refine iff_of_false (fun h => nomatch h) ?_
        rintro ⟨_, ⟨rfl⟩, -, hsome⟩
        cases htext.symm.trans hsome
      | some found =>
        constructor
        · rintro ⟨rfl⟩
          exact ⟨bytes, rfl, by omega, htext⟩
        · rintro ⟨_, ⟨rfl⟩, -, hsome⟩
          exact congrArg Except.ok (Option.some.inj (htext.symm.trans hsome))

/-- A shape is what an example object gives. -/
theorem readShape_eq_ok_iff : readShape files path = .ok shape ↔ HasShape files path shape := by
  unfold readShape HasShape
  rw [Fallible.bind_eq_ok_iff]
  refine exists_congr fun text => ?_
  rw [readCatalogFile_eq_ok_iff]
  cases Json.parse? text with
  | none => exact iff_of_false (fun ⟨_, h⟩ => nomatch h) fun ⟨_, _, h, _⟩ => nomatch h
  | some value =>
    cases value with
    | null | bool | number | string | array =>
      exact iff_of_false (fun ⟨_, h⟩ => nomatch h) fun ⟨_, _, h, _⟩ => nomatch h
    | object members =>
      have hshape : ResponseShape.ofJson (.object members) = .ok ⟨Shape.ofMembers members⟩ := rfl
      dsimp only
      rw [hshape]
      dsimp only
      constructor
      · rintro ⟨htext, ⟨rfl⟩⟩
        exact ⟨members, htext, rfl, hshape⟩
      · rintro ⟨_, htext, ⟨rfl⟩, h⟩
        obtain rfl := Except.ok.inj (hshape.symm.trans h)
        exact ⟨htext, rfl⟩

/-- A field list is read off a file that can serve as one, and holds the paths of its lines.  A file
that is read is not too long and is text; after that its lines are parsed, and only then are they
looked up in the shape. -/
theorem readFieldList_eq_ok_iff {list : FieldList} :
    readFieldList files shape path = .ok list ↔
      IsFieldFile files shape path ∧ ∀ line, line ∈ list.entries ↔ HasLine files path line := by
  unfold readFieldList
  rw [Fallible.bind_eq_ok_iff]
  constructor
  · rintro ⟨text, htext, h⟩
    rw [readCatalogFile_eq_ok_iff] at htext
    cases hparse : FieldList.parse text with
    | error fault =>
      rw [hparse] at h
      cases h
    | ok found =>
      rw [hparse] at h
      dsimp only at h
      obtain ⟨hvalid, hlines⟩ := FieldList.parse_eq_ok_iff.mp hparse
      simp only [← hasLine_iff htext] at hvalid hlines
      split at h
      · cases h
      · rename_i hknown
        obtain rfl := Except.ok.inj h
        refine ⟨⟨⟨text, htext⟩, fun line hline => ?_⟩, hlines⟩
        have hpath := hvalid line hline
        have hknows : shape.knows line = true := by
          simpa using List.find?_eq_none.mp hknown line ((hlines line).mpr hline)
        rw [ResponseShape.knows, Field.wildcardBase_wildcardBase hpath]
        exact ⟨hpath, hknows⟩
  · rintro ⟨⟨⟨text, htext⟩, hgood⟩, hlines⟩
    have hparse : FieldList.parse text = .ok list := by
      rw [FieldList.parse_eq_ok_iff]
      simp only [← hasLine_iff htext]
      exact ⟨fun line hline => (hgood line hline).1, hlines⟩
    have hknown : list.entries.toList.find? (fun field => !shape.knows field) = none := by
      refine List.find?_eq_none.mpr fun line hline => ?_
      obtain ⟨hpath, hknows⟩ := hgood line ((hlines line).mp hline)
      rw [ResponseShape.knows, Field.wildcardBase_wildcardBase hpath] at hknows
      rw [ResponseShape.knows, hknows]
      decide
    refine ⟨text, readCatalogFile_eq_ok_iff.mpr htext, ?_⟩
    rw [hparse]
    dsimp only
    rw [hknown]
    rfl

/-- Every file that can serve as a field list is read. -/
theorem exists_readFieldList_iff :
    (∃ list, readFieldList files shape path = .ok list) ↔ IsFieldFile files shape path := by
  constructor
  · rintro ⟨list, hlist⟩
    exact (readFieldList_eq_ok_iff.mp hlist).1
  · intro hfile
    obtain ⟨text, htext⟩ := hfile.hasText
    obtain ⟨list, hlist⟩ := FieldList.exists_parse_iff.mpr fun line hline =>
      (hfile.lines line ((hasLine_iff htext).mpr hline)).1
    obtain ⟨-, hlines⟩ := FieldList.parse_eq_ok_iff.mp hlist
    simp only [← hasLine_iff htext] at hlines
    exact ⟨list, readFieldList_eq_ok_iff.mpr ⟨hfile, hlines⟩⟩

theorem inFile_eq_ok_iff {α : Type} {result : Except CatalogFileFault α} {a : α} :
    inFile path result = .ok a ↔ result = .ok a := by
  have hmap : inFile path result = result.mapError (.file path) := by cases result <;> rfl
  rw [hmap, Fallible.mapError_eq_ok_iff]

/-! ## Directories -/

/-- A directory has a field list of a name: the file of that name, with `.txt` behind it. -/
def HasList (files : FileSystem) (directory stem : String) : Prop :=
  ∃ names, files.list directory = .ok names ∧ stem ≠ "" ∧ stem ++ ".txt" ∈ names

/-- The path of a field list. -/
def listPath (directory stem : String) : String := Path.join directory (stem ++ ".txt")

/-- A directory can be listed, and its field lists are fit for use. -/
structure IsListDirectory (files : FileSystem) (shape : ResponseShape) (directory : String) :
    Prop where
  /-- It can be listed. -/
  listed : ∃ names, files.list directory = .ok names
  /-- Each of its files can serve as a field list. -/
  lists : ∀ stem, HasList files directory stem → IsFieldFile files shape (listPath directory stem)

/-- Field lists are those of a directory: they are named as its files, and hold their lines. -/
structure TakenFrom (files : FileSystem) (directory : String) (lists : Table FieldList) : Prop where
  /-- There is a list for each of the files, and no other. -/
  names : ∀ stem, stem ∈ lists.names ↔ HasList files directory stem
  /-- A list holds the lines of its file, and nothing else. -/
  lines : ∀ stem list, lists.get? stem = some list →
    ∀ line, line ∈ list.entries ↔ HasLine files (listPath directory stem) line

theorem stem?_txt_eq_some_iff {name : String} :
    Path.stem? fieldListEnding name = some stem ↔ stem ≠ "" ∧ name = stem ++ ".txt" := by
  have hending : stem ++ "." ++ fieldListEnding = stem ++ ".txt" := by
    rw [String.append_assoc]
    rfl
  rw [Path.stem?_eq_some_iff (by decide), hending]

/-- An entry gives a list if it is a file of that name. -/
theorem readEntry_eq_ok_some_iff {name : String} {list : FieldList} :
    readEntry files shape directory name = .ok (some (stem, list)) ↔
      stem ≠ "" ∧ name = stem ++ ".txt" ∧
        readFieldList files shape (listPath directory stem) = .ok list := by
  rw [← and_assoc, ← stem?_txt_eq_some_iff]
  unfold readEntry
  cases hstem : Path.stem? fieldListEnding name with
  | none => exact iff_of_false (fun h => nomatch h) fun ⟨h, _⟩ => nomatch h
  | some found =>
    obtain ⟨-, rfl⟩ := stem?_txt_eq_some_iff.mp hstem
    dsimp only
    rw [Fallible.map_eq_ok_iff]
    simp only [inFile_eq_ok_iff]
    constructor
    · rintro ⟨_, hlist, ⟨rfl⟩⟩
      exact ⟨rfl, hlist⟩
    · rintro ⟨⟨rfl⟩, hlist⟩
      exact ⟨list, hlist, rfl⟩

/-- An entry can be read unless it is a file that should be a field list and is not. -/
theorem exists_readEntry_iff {name : String} :
    (∃ entry, readEntry files shape directory name = .ok entry) ↔
      ∀ stem, stem ≠ "" → name = stem ++ ".txt" →
        ∃ list, readFieldList files shape (listPath directory stem) = .ok list := by
  unfold readEntry
  cases hstem : Path.stem? fieldListEnding name with
  | none =>
    refine iff_of_true ⟨none, rfl⟩ fun stem hne hname => ?_
    cases hstem.symm.trans (stem?_txt_eq_some_iff.mpr ⟨hne, hname⟩)
  | some found =>
    obtain ⟨hfound, rfl⟩ := stem?_txt_eq_some_iff.mp hstem
    dsimp only
    constructor
    · rintro ⟨_, hentry⟩ stem hne hname
      obtain rfl := Option.some.inj (hstem.symm.trans (stem?_txt_eq_some_iff.mpr ⟨hne, hname⟩))
      obtain ⟨list, hlist, -⟩ := Fallible.map_eq_ok_iff.mp hentry
      exact ⟨list, inFile_eq_ok_iff.mp hlist⟩
    · intro h
      obtain ⟨list, hlist⟩ := h found hfound rfl
      exact ⟨_, Fallible.map_eq_ok_iff.mpr ⟨list, inFile_eq_ok_iff.mpr hlist, rfl⟩⟩

/-- The lists of a directory are those of its entries. -/
theorem readFieldLists_eq_ok_iff {lists : Table FieldList} :
    readFieldLists files shape directory = .ok lists ↔
      ∃ names entries, files.list directory = .ok names ∧
        names.mapM (readEntry files shape directory) = .ok entries ∧
        lists = Table.ofList (entries.filterMap id) := by
  unfold readFieldLists
  cases files.list directory with
  | error fault => exact iff_of_false (fun h => nomatch h) fun ⟨_, _, h, _⟩ => nomatch h
  | ok names =>
    dsimp only
    rw [Fallible.bind_eq_ok_iff]
    constructor
    · rintro ⟨entries, hentries, ⟨rfl⟩⟩
      exact ⟨names, entries, rfl, hentries, rfl⟩
    · rintro ⟨_, entries, ⟨rfl⟩, hentries, rfl⟩
      exact ⟨entries, hentries, rfl⟩

/-- The lists of a directory are read if it can be listed and each of its files can be read. -/
theorem exists_readFieldLists_iff :
    (∃ lists, readFieldLists files shape directory = .ok lists) ↔
      IsListDirectory files shape directory := by
  simp only [readFieldLists_eq_ok_iff]
  -- the lists are an image of the entries, so the two sides meet at each entry of the directory
  constructor
  · rintro ⟨_, names, entries, hnames, hentries, -⟩
    refine ⟨⟨names, hnames⟩, ?_⟩
    rintro stem ⟨_, hnames', hne, hmem⟩
    obtain rfl := Except.ok.inj (hnames.symm.trans hnames')
    have hentry := Fallible.exists_mapM_eq_ok_iff.mp ⟨entries, hentries⟩ _ hmem
    exact exists_readFieldList_iff.mp (exists_readEntry_iff.mp hentry stem hne rfl)
  · rintro ⟨⟨names, hnames⟩, hfiles⟩
    obtain ⟨entries, hentries⟩ : ∃ entries,
        names.mapM (readEntry files shape directory) = .ok entries := by
      refine Fallible.exists_mapM_eq_ok_iff.mpr fun name hname => exists_readEntry_iff.mpr ?_
      rintro stem hne rfl
      exact exists_readFieldList_iff.mpr (hfiles stem ⟨names, hnames, hne, hname⟩)
    exact ⟨_, names, entries, hnames, hentries, rfl⟩

/-- What is read is the list of each file, whatever the order of the directory. -/
theorem get?_readFieldLists {lists : Table FieldList} {list : FieldList}
    (h : readFieldLists files shape directory = .ok lists) :
    lists.get? stem = some list ↔
      HasList files directory stem ∧ readFieldList files shape (listPath directory stem) = .ok list := by
  obtain ⟨names, entries, hnames, hentries, rfl⟩ := readFieldLists_eq_ok_iff.mp h
  -- the entries with a name are the lists of its file, which is only one
  have hcollected : ∀ list, (stem, list) ∈ entries.filterMap id ↔
      HasList files directory stem ∧
        readFieldList files shape (listPath directory stem) = .ok list := by
    intro list
    rw [List.mem_filterMap]
    constructor
    · rintro ⟨_, hmem, rfl⟩
      obtain ⟨name, hname, hentry⟩ := (Fallible.mem_mapM_iff hentries).mp hmem
      obtain ⟨hne, rfl, hlist⟩ := readEntry_eq_ok_some_iff.mp hentry
      exact ⟨⟨names, hnames, hne, hname⟩, hlist⟩
    · rintro ⟨⟨_, hnames', hne, hname⟩, hlist⟩
      obtain rfl := Except.ok.inj (hnames.symm.trans hnames')
      refine ⟨some (stem, list), (Fallible.mem_mapM_iff hentries).mpr ⟨_, hname, ?_⟩, rfl⟩
      exact readEntry_eq_ok_some_iff.mpr ⟨hne, rfl, hlist⟩
  rw [← hcollected, Table.get?_ofList_eq_some_iff]
  intro first second hfirst hsecond
  exact Except.ok.inj (((hcollected first).mp hfirst).2.symm.trans ((hcollected second).mp hsecond).2)

/-- The lists that are read are those of the files. -/
theorem takenFrom_readFieldLists {lists : Table FieldList}
    (h : readFieldLists files shape directory = .ok lists) : TakenFrom files directory lists where
  names stem := by
    constructor
    · intro hstem
      obtain ⟨list, hlist⟩ := Members.exists_get?_of_mem_names hstem
      exact ((get?_readFieldLists h).mp hlist).1
    · intro hlist
      obtain ⟨list, hread⟩ := exists_readFieldList_iff.mpr
        ((exists_readFieldLists_iff.mp ⟨lists, h⟩).lists stem hlist)
      exact Members.mem_names_of_get? ((get?_readFieldLists h).mpr ⟨hlist, hread⟩)
  lines stem list hget := (readFieldList_eq_ok_iff.mp ((get?_readFieldLists h).mp hget).2).2

/-- All paths of these lists are known. -/
theorem knownTo_readFieldLists {lists : Table FieldList} {list : FieldList}
    (h : readFieldLists files shape directory = .ok lists) (hget : lists.get? stem = some list) :
    list.KnownTo shape := by
  obtain ⟨hfile, hlines⟩ := readFieldList_eq_ok_iff.mp ((get?_readFieldLists h).mp hget).2
  intro path hpath
  obtain ⟨hvalid, hknown⟩ := hfile.lines path ((hlines path).mp hpath)
  rw [ResponseShape.knows, Field.wildcardBase_wildcardBase hvalid] at hknown
  exact hknown

/-! ## Catalogs -/

/-- Datasets are made of lists if there is one, and each has a path.  What counts is a whole fold:
adding the lists one by one fails at the first that is empty, and keeps all of them otherwise. -/
theorem datasetsOf_eq_ok_iff {lists : Table FieldList} {datasets : FieldCatalog} :
    datasetsOf service lists = .ok datasets ↔
      datasets.groups = lists ∧ (∃ dataset, dataset ∈ lists.names) ∧
        ∀ dataset list, lists.get? dataset = some list → list.isEmpty = false := by
  -- adding the lists one by one fails at the first that is empty, and keeps all of them otherwise
  have hadd : ∀ result : FieldCatalog,
      lists.entries.foldlM (fun (catalog : FieldCatalog) (entry : String × FieldList) =>
        catalog.insertGroup entry.1 entry.2) FieldCatalog.empty = .ok result ↔
      (∀ dataset list, lists.get? dataset = some list → list.isEmpty = false) ∧
        result.groups = lists := by
    intro result
    rw [FieldCatalog.foldlM_insertGroup_eq_ok_iff lists.sorted fun _ _ => rfl]
    refine and_congr ?_ ?_
    · constructor
      · intro h dataset list hget
        exact h _ (Table.get?_eq_some_iff.mp hget)
      · rintro h ⟨dataset, list⟩ hmem
        exact h dataset list (Table.get?_eq_some_iff.mpr hmem)
    · show result.groups.entries = Members.ofList lists.entries ↔ _
      rw [Members.ofList_eq_self lists.sorted]
      exact ⟨Table.ext, congrArg Table.entries⟩
  unfold datasetsOf
  dsimp only
  cases hfold : lists.entries.foldlM (fun (catalog : FieldCatalog) (entry : String × FieldList) =>
      catalog.insertGroup entry.1 entry.2) FieldCatalog.empty with
  | error fault =>
    refine iff_of_false (fun h => nomatch h) ?_
    rintro ⟨hgroups, -, hfields⟩
    cases hfold.symm.trans ((hadd datasets).mpr ⟨hfields, hgroups⟩)
  | ok found =>
    obtain ⟨hfields, rfl⟩ := (hadd found).mp hfold
    dsimp only
    cases hnames : found.datasets with
    | nil =>
      refine iff_of_false (fun h => nomatch h) ?_
      rintro ⟨-, ⟨dataset, hdataset⟩, -⟩
      rw [FieldCatalog.datasets] at hnames
      rw [hnames] at hdataset
      exact absurd hdataset List.not_mem_nil
    | cons first rest =>
      constructor
      · rintro ⟨rfl⟩
        rw [FieldCatalog.datasets] at hnames
        exact ⟨rfl, ⟨first, hnames ▸ List.mem_cons_self⟩, hfields⟩
      · rintro ⟨hgroups, -, -⟩
        obtain ⟨groups⟩ := datasets
        obtain rfl : groups = found.groups := hgroups
        rfl

/-- The path of the example record of a service. -/
def shapePath (directory service : String) : String :=
  Path.join (Path.join directory shapeDirectory) (service ++ ".json")

/-- The path of the datasets of a service. -/
def datasetsPath (directory service : String) : String :=
  Path.join (Path.join directory datasetDirectory) service

/-- The path of the record types of a service. -/
def recordsPath (directory service : String) : String :=
  Path.join (Path.join directory recordDirectory) service

/-- The files of a service are fit for use. -/
structure Usable (files : FileSystem) (directory service : String) (shape : ResponseShape) : Prop where
  /-- There is an example record of the shape. -/
  hasShape : HasShape files (shapePath directory service) shape
  /-- The datasets can be read. -/
  datasets : IsListDirectory files shape (datasetsPath directory service)
  /-- There is a dataset. -/
  hasDataset : ∃ dataset, HasList files (datasetsPath directory service) dataset
  /-- No dataset is without a path. -/
  hasPaths : ∀ dataset, HasList files (datasetsPath directory service) dataset →
    ∃ line, HasLine files (listPath (datasetsPath directory service) dataset) line
  /-- The record types can be read, if there is a directory of them. -/
  recordTypes : files.isDirectory (recordsPath directory service) = true →
    IsListDirectory files shape (recordsPath directory service)

/-- A catalog is made of the files of a service. -/
structure MadeOf (files : FileSystem) (directory service : String) (shape : ResponseShape)
    (catalog : EndpointCatalog) : Prop where
  /-- It has the shape. -/
  hasShape : catalog.shape = some shape
  /-- Its datasets are the lists of their directory. -/
  datasets : TakenFrom files (datasetsPath directory service) catalog.datasets.groups
  /-- Its record types are the lists of their directory, if there is one. -/
  recordTypes : files.isDirectory (recordsPath directory service) = true →
    TakenFrom files (recordsPath directory service) catalog.recordTypes
  /-- Else it has none. -/
  noRecordTypes : files.isDirectory (recordsPath directory service) = false →
    catalog.recordTypes = .empty
  /-- Every dataset has a path. -/
  hasPaths : ∀ dataset list, catalog.datasets.group? dataset = some list → list.isEmpty = false
  /-- The shape knows all paths of the datasets. -/
  datasetsKnown : ∀ dataset list, catalog.datasets.group? dataset = some list → list.KnownTo shape
  /-- The shape knows all paths of the record types. -/
  recordTypesKnown : ∀ name list, catalog.recordTypes.get? name = some list → list.KnownTo shape

/-- The four steps of loading. -/
theorem loadCatalog_eq_ok_iff {catalog : EndpointCatalog} :
    loadCatalog files directory service = .ok catalog ↔
      ∃ shape lists, HasShape files (shapePath directory service) shape ∧
        readFieldLists files shape (datasetsPath directory service) = .ok lists ∧
        datasetsOf service lists = .ok catalog.datasets ∧
        (files.isDirectory (recordsPath directory service) = true →
          readFieldLists files shape (recordsPath directory service) = .ok catalog.recordTypes) ∧
        (files.isDirectory (recordsPath directory service) = false →
          catalog.recordTypes = .empty) ∧
        catalog.shape = some shape := by
  unfold loadCatalog shapePath datasetsPath recordsPath
  simp only [Fallible.bind_eq_ok_iff, inFile_eq_ok_iff, readShape_eq_ok_iff]
  refine exists_congr fun shape => ?_
  cases files.isDirectory (Path.join (Path.join directory recordDirectory) service) with
  | true =>
    constructor
    · rintro ⟨hshape, lists, hlists, datasets, hdatasets, hload⟩
      obtain ⟨recordTypes, hrecords, ⟨rfl⟩⟩ := Fallible.bind_eq_ok_iff.mp hload
      exact ⟨lists, hshape, hlists, hdatasets, fun _ => hrecords, (fun h => nomatch h), rfl⟩
    · rintro ⟨lists, hshape, hlists, hdatasets, hrecords, -, hcatalog⟩
      obtain ⟨datasets, found, recordTypes⟩ := catalog
      obtain rfl : found = some shape := hcatalog
      exact ⟨hshape, lists, hlists, datasets, hdatasets,
        Fallible.bind_eq_ok_iff.mpr ⟨recordTypes, hrecords rfl, rfl⟩⟩
  | false =>
    constructor
    · rintro ⟨hshape, lists, hlists, datasets, hdatasets, ⟨rfl⟩⟩
      exact ⟨lists, hshape, hlists, hdatasets, (fun h => nomatch h), fun _ => rfl, rfl⟩
    · rintro ⟨lists, hshape, hlists, hdatasets, -, hempty, hcatalog⟩
      obtain ⟨datasets, found, recordTypes⟩ := catalog
      obtain rfl : found = some shape := hcatalog
      obtain rfl : recordTypes = .empty := hempty rfl
      exact ⟨hshape, lists, hlists, datasets, hdatasets, rfl⟩

/-- What is loaded is made of files that are fit for use. -/
theorem usable_of_loadCatalog {catalog : EndpointCatalog}
    (h : loadCatalog files directory service = .ok catalog) :
    ∃ shape, Usable files directory service shape ∧ MadeOf files directory service shape catalog := by
  obtain ⟨shape, lists, hshape, hlists, hdatasets, hread, hempty, hcatalog⟩ :=
    loadCatalog_eq_ok_iff.mp h
  obtain ⟨rfl, ⟨dataset, hdataset⟩, hfields⟩ := datasetsOf_eq_ok_iff.mp hdatasets
  have htaken := takenFrom_readFieldLists hlists
  refine ⟨shape, ⟨hshape, exists_readFieldLists_iff.mp ⟨_, hlists⟩,
    ⟨dataset, (htaken.names dataset).mp hdataset⟩, ?_, ?_⟩,
    ⟨hcatalog, htaken, ?_, hempty, hfields, ?_, ?_⟩⟩
  · intro dataset hlist
    obtain ⟨list, hget⟩ := Members.exists_get?_of_mem_names ((htaken.names dataset).mpr hlist)
    obtain ⟨line, hline⟩ := FieldList.isEmpty_eq_false_iff.mp (hfields dataset list hget)
    exact ⟨line, (htaken.lines dataset list hget line).mp hline⟩
  · intro hdir
    exact exists_readFieldLists_iff.mp ⟨_, hread hdir⟩
  · intro hdir
    exact takenFrom_readFieldLists (hread hdir)
  · intro dataset list hget
    exact knownTo_readFieldLists hlists hget
  · intro name list hget
    cases hdir : files.isDirectory (recordsPath directory service) with
    | true => exact knownTo_readFieldLists (hread hdir) hget
    | false =>
      rw [hempty hdir] at hget
      cases hget

/-- Files that are fit for use are loaded. -/
theorem Usable.exists_loadCatalog (h : Usable files directory service shape) :
    ∃ catalog, loadCatalog files directory service = .ok catalog := by
  obtain ⟨lists, hlists⟩ := exists_readFieldLists_iff.mpr h.datasets
  have htaken := takenFrom_readFieldLists hlists
  obtain ⟨dataset, hdataset⟩ := h.hasDataset
  -- every file has a line, so that no list is empty
  have hdatasets : datasetsOf service lists = .ok ⟨lists⟩ := by
    refine datasetsOf_eq_ok_iff.mpr ⟨rfl, ⟨dataset, (htaken.names dataset).mpr hdataset⟩, ?_⟩
    intro other list hget
    have hlist := (htaken.names other).mp (Members.mem_names_of_get? hget)
    obtain ⟨line, hline⟩ := h.hasPaths other hlist
    exact FieldList.isEmpty_eq_false_iff.mpr ⟨line, (htaken.lines other list hget line).mpr hline⟩
  cases hdir : files.isDirectory (recordsPath directory service) with
  | true =>
    obtain ⟨recordTypes, hrecords⟩ := exists_readFieldLists_iff.mpr (h.recordTypes hdir)
    exact ⟨⟨⟨lists⟩, some shape, recordTypes⟩, loadCatalog_eq_ok_iff.mpr
      ⟨shape, lists, h.hasShape, hlists, hdatasets, fun _ => hrecords,
        (fun hnot => nomatch hdir.symm.trans hnot), rfl⟩⟩
  | false =>
    exact ⟨⟨⟨lists⟩, some shape, .empty⟩, loadCatalog_eq_ok_iff.mpr
      ⟨shape, lists, h.hasShape, hlists, hdatasets, (fun his => nomatch hdir.symm.trans his),
        fun _ => rfl, rfl⟩⟩

/-- **A catalog is loaded as a whole, or not at all.**  It is loaded exactly when all files of the
service are fit for use; and what is loaded is made of these files, name by name and line by line. -/
theorem loadCatalog_exact (files : FileSystem) (directory service : String) :
    ((∃ catalog, loadCatalog files directory service = .ok catalog) ↔
      ∃ shape, Usable files directory service shape) ∧
    ∀ catalog, loadCatalog files directory service = .ok catalog →
      ∃ shape, Usable files directory service shape ∧
        MadeOf files directory service shape catalog := by
  refine ⟨⟨?_, ?_⟩, fun catalog hload => usable_of_loadCatalog hload⟩
  · rintro ⟨catalog, hload⟩
    obtain ⟨shape, husable, -⟩ := usable_of_loadCatalog hload
    exact ⟨shape, husable⟩
  · rintro ⟨shape, husable⟩
    exact husable.exists_loadCatalog

/-- Files with one dataset, in a directory with other files beside it. -/
def sampleFiles : FileSystem where
  read path :=
    if path = "catalog/schemas/personen.json" then
      .ok "\x7b\"naam\": \x7b\"voornamen\": \"Jan\"\x7d, \"leeftijd\": 40\x7d".toUTF8
    else if path = "catalog/dataset_fields/personen/basis.txt" then
      .ok "# namen\nnaam.*\r\n\n leeftijd \n".toUTF8
    else .error .notFound
  list path :=
    if path = "catalog/dataset_fields/personen" then .ok ["leesmij.md", "basis.txt", ".txt"]
    else .error .notFound
  isDirectory _ := false
  appendable _ := .error .notPermitted

/-- They are fit for use, and the two lines with a path are what the dataset grants. -/
theorem loadCatalog_exact_of_sample :
    ∃ shape catalog, Usable sampleFiles "catalog" "personen" shape ∧
      loadCatalog sampleFiles "catalog" "personen" = .ok catalog ∧
      catalog.datasets.groups.names = ["basis"] ∧
      listPath (datasetsPath "catalog" "personen") "basis"
        = "catalog/dataset_fields/personen/basis.txt" ∧
      HasLine sampleFiles (listPath (datasetsPath "catalog" "personen") "basis") "naam.*" := by
  have hloaded : (loadCatalog sampleFiles "catalog" "personen").toOption.map (fun catalog =>
      catalog.datasets.groups.entries.map fun group => (group.1, group.2.entries.toList))
        = some [("basis", ["leeftijd", "naam.*"])] := by decide +kernel
  obtain ⟨catalog, hload, hgroups⟩ := Fallible.exists_of_toOption_map hloaded
  obtain ⟨shape, husable, hmade⟩ :=
    (loadCatalog_exact sampleFiles "catalog" "personen").2 catalog hload
  obtain ⟨⟨dataset, list⟩, hentries, hgroup⟩ := List.map_eq_singleton_iff.mp hgroups
  obtain ⟨rfl, hpaths⟩ : dataset = "basis" ∧ list.entries.toList = ["leeftijd", "naam.*"] :=
    Prod.mk.inj hgroup
  have hget : catalog.datasets.groups.get? "basis" = some list := by
    rw [Table.get?_eq_some_iff, hentries]
    exact List.mem_cons_self
  have hmem : "naam.*" ∈ list.entries.toList := by
    rw [hpaths]
    decide
  refine ⟨shape, catalog, husable, hload, ?_, by decide +kernel, ?_⟩
  · rw [Table.names, hentries]
    rfl
  · exact (hmade.datasets.lines "basis" list hget "naam.*").mp hmem

end Config

end RegistryGate
