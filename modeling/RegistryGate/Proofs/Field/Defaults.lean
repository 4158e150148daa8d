/-
  Default fields are fields that the caller may have.

  The defaults of a caller and the policy on fields are computed from the same catalog, in different
  ways.  A default field is the path of an entry that the caller holds, as it is or narrowed to an
  allowed path below it (`DefaultField`).  Either way the caller holds a dataset that covers it, and
  the allowed list covers it too, so the caller may have it (`DefaultField.permits`).  Where the shape
  knows all paths of the catalog, the field is also one of those that have a rule, and the policy
  admits the defaults as a whole (`admits_defaultFields`).
-/
import RegistryGate.Endpoint.Basic
import RegistryGate.Proofs.Field.Names
import RegistryGate.Proofs.Policy.Extension

namespace RegistryGate

/-- Every path of the list leads to a field of the shape. -/
def FieldList.KnownTo (fields : FieldList) (shape : ResponseShape) : Prop :=
  ∀ path, path ∈ fields.entries → shape.knows path = true

namespace Field

theorem covers_refl (entry : String) : covers entry entry = true := covers_iff.mpr (Or.inl rfl)

/-- An entry covers what its own path covers. -/
theorem covers_wildcardBase_left {entry path : String}
    (hplain : wildcardBase (wildcardBase entry) = wildcardBase entry) :
    covers (wildcardBase entry) path = covers entry path := by
  unfold covers
  rw [hplain]

/-- The path of a well-formed entry has no wildcard left. -/
theorem wildcardBase_wildcardBase {entry : String} (h : isPath entry = true) :
    wildcardBase (wildcardBase entry) = wildcardBase entry := by
  obtain ⟨names, -, hnames, hbase⟩ := exists_names_of_isPath h
  rw [hbase, wildcardBase_joinWith fun name hname => of_isName (hnames name hname)]

/-- The path of a well-formed entry that the shape knows is one of its known paths. -/
theorem wildcardBase_mem_knownPaths {entry : String} {shape : ResponseShape}
    (h : isPath entry = true) (hknown : shape.knows entry = true) :
    wildcardBase entry ∈ shape.knownPaths := by
  obtain ⟨names, hne, hnames, hbase⟩ := exists_names_of_isPath h
  rw [ResponseShape.knows, hbase] at hknown
  rw [hbase]
  exact ResponseShape.mem_knownPaths hne hnames hknown

end Field

namespace FieldCatalog

variable {catalog : FieldCatalog} {allowed : Option FieldList} {granted : NameSet}

/-! ## Where defaults come from -/

/-- A path is among the default fields by an entry of a dataset that the caller holds. -/
def DefaultField (catalog : FieldCatalog) (allowed : Option FieldList) (granted : NameSet)
    (path : String) : Prop :=
  ∃ dataset fields entry, catalog.group? dataset = some fields ∧ dataset ∈ granted ∧
    entry ∈ fields.entries ∧ path ∈ defaultsOf allowed entry

/-- The default fields are the least of what the entries contribute. -/
theorem exists_defaultFields_eq (catalog : FieldCatalog) (allowed : Option FieldList)
    (granted : NameSet) :
    ∃ fields : NameSet, catalog.defaultFields granted allowed = Field.minimize fields ∧
      ∀ field, field ∈ fields ↔ catalog.DefaultField allowed granted field := by
  refine ⟨_, rfl, fun field => ?_⟩
  -- both sides go through the datasets that are held, and through the entries of each
  rw [SortedSet.mem_ofList, List.mem_flatMap]
  constructor
  · rintro ⟨⟨dataset, fields⟩, hheld, hentries⟩
    obtain ⟨hgroup, hgranted⟩ := List.mem_filter.mp hheld
    obtain ⟨entry, hentry, hfield⟩ := List.mem_flatMap.mp hentries
    exact ⟨dataset, fields, entry, Table.get?_eq_some_iff.mpr hgroup,
      SortedSet.contains_iff.mp hgranted, hentry, hfield⟩
  · rintro ⟨dataset, fields, entry, hgroup, hgranted, hentry, hfield⟩
    exact ⟨(dataset, fields), List.mem_filter.mpr ⟨Table.get?_eq_some_iff.mp hgroup,
      SortedSet.contains_iff.mpr hgranted⟩, List.mem_flatMap.mpr ⟨entry, hentry, hfield⟩⟩

/-- Every default field comes from an entry. -/
theorem defaultField_of_mem {path : String} (h : path ∈ catalog.defaultFields granted allowed) :
    catalog.DefaultField allowed granted path := by
  obtain ⟨fields, heq, hfields⟩ := catalog.exists_defaultFields_eq allowed granted
  rw [heq] at h
  exact (hfields path).mp (List.mem_filter.mp h).1

/-- An entry contributes its own path where that is allowed, and otherwise allowed paths below. -/
theorem mem_defaultsOf {path entry : String} (h : path ∈ defaultsOf allowed entry) :
    (path = Field.wildcardBase entry ∧ ∀ list, allowed = some list → list.covers path = true) ∨
    ∃ list narrowed, allowed = some list ∧ narrowed ∈ list.entries ∧
      path = Field.wildcardBase narrowed ∧
      Field.covers (Field.wildcardBase entry) path = true := by
  unfold defaultsOf at h
  dsimp only at h
  cases allowed with
  | none => exact Or.inl ⟨List.mem_singleton.mp h, fun _ hlist => nomatch hlist⟩
  | some list =>
    dsimp only at h
    split at h
    · rename_i hcovers
      obtain rfl := List.mem_singleton.mp h
      refine Or.inl ⟨rfl, fun other hother => ?_⟩
      cases hother
      exact hcovers
    · obtain ⟨hlisted, hcovers⟩ := List.mem_filter.mp h
      obtain ⟨narrowed, hnarrowed, rfl⟩ := List.mem_map.mp hlisted
      exact Or.inr ⟨list, narrowed, rfl, hnarrowed, rfl, hcovers⟩

namespace DefaultField

variable {path : String}

/-- A default field is the path of some well-formed entry, of a dataset or of the allowed list. -/
theorem exists_entry (h : catalog.DefaultField allowed granted path) :
    ∃ entry, Field.isPath entry = true ∧ path = Field.wildcardBase entry ∧
      ((∃ dataset fields, catalog.group? dataset = some fields ∧ entry ∈ fields.entries) ∨
        ∃ list, allowed = some list ∧ entry ∈ list.entries) := by
  obtain ⟨dataset, fields, entry, hgroup, -, hentry, hpath⟩ := h
  rcases mem_defaultsOf hpath with ⟨rfl, -⟩ | ⟨list, narrowed, hlist, hnarrowed, rfl, -⟩
  · exact ⟨entry, fields.valid entry hentry, rfl, Or.inl ⟨dataset, fields, hgroup, hentry⟩⟩
  · exact ⟨narrowed, list.valid narrowed hnarrowed, rfl, Or.inr ⟨list, hlist, hnarrowed⟩⟩

/-- A default field has no wildcard. -/
theorem plain (h : catalog.DefaultField allowed granted path) : Field.wildcardBase path = path := by
  obtain ⟨entry, hvalid, rfl, -⟩ := h.exists_entry
  exact Field.wildcardBase_wildcardBase hvalid

/-- A dataset that the caller holds covers the field. -/
theorem grantedTo (h : catalog.DefaultField allowed granted path) :
    catalog.GrantedTo granted path := by
  obtain ⟨dataset, fields, entry, hgroup, hheld, hentry, hpath⟩ := h
  have hplain := Field.wildcardBase_wildcardBase (fields.valid entry hentry)
  have hcovers : Field.covers entry path = true := by
    -- what an entry contributes is its own path, or one that it covers
    rw [← Field.covers_wildcardBase_left hplain]
    rcases mem_defaultsOf hpath with ⟨rfl, -⟩ | ⟨_, _, -, -, -, hcovers⟩
    · exact Field.covers_refl _
    · exact hcovers
  exact ⟨dataset, fields, hgroup, hheld, FieldList.covers_iff.mpr ⟨entry, hentry, hcovers⟩⟩

/-- The allowed list, if there is one, covers the field. -/
theorem allowedBy (h : catalog.DefaultField allowed granted path) : AllowedBy allowed path := by
  intro list hlist
  obtain ⟨_, _, _, -, -, -, hpath⟩ := h
  rcases mem_defaultsOf hpath with ⟨-, hcovers⟩ | ⟨other, narrowed, hother, hnarrowed, rfl, -⟩
  · exact hcovers list hlist
  · obtain rfl := Option.some.inj (hother.symm.trans hlist)
    refine FieldList.covers_iff.mpr ⟨narrowed, hnarrowed, ?_⟩
    exact Field.covers_iff.mpr
      (Or.inl (Field.wildcardBase_wildcardBase (other.valid narrowed hnarrowed)))

/-- **The caller may have each default field.** -/
theorem permits (h : catalog.DefaultField allowed granted path) :
    catalog.Permits allowed granted path := by
  rw [permits_iff, h.plain]
  exact ⟨h.grantedTo, h.allowedBy⟩

end DefaultField

/-! ## What the policy makes of them -/

/-- Where the shape knows all paths of the catalog, it knows the default fields. -/
theorem defaultField_mem_knownPaths {shape : ResponseShape} {path : String}
    (hdatasets : ∀ dataset fields, catalog.group? dataset = some fields → fields.KnownTo shape)
    (hallowed : ∀ list, allowed = some list → list.KnownTo shape)
    (h : catalog.DefaultField allowed granted path) : path ∈ shape.knownPaths := by
  obtain ⟨entry, hvalid, rfl, ⟨dataset, fields, hgroup, hentry⟩ | ⟨list, hlist, hentry⟩⟩ :=
    h.exists_entry
  · exact Field.wildcardBase_mem_knownPaths hvalid (hdatasets dataset fields hgroup entry hentry)
  · exact Field.wildcardBase_mem_knownPaths hvalid (hallowed list hlist entry hentry)

/-- **The policy on fields admits the default fields**, where the shape knows all paths of the
catalog. -/
theorem admits_defaultFields {shape : ResponseShape}
    (hdatasets : ∀ dataset fields, catalog.group? dataset = some fields → fields.KnownTo shape)
    (hallowed : ∀ list, allowed = some list → list.KnownTo shape) :
    (catalog.fieldPolicy shape.knownPaths allowed).Admits granted
      (Json.ofStrings (catalog.defaultFields granted allowed)) := by
  intro element helement
  obtain ⟨path, hpath, rfl⟩ := List.mem_map.mp helement
  have hdefault := defaultField_of_mem hpath
  have hruled : catalog.Ruled shape.knownPaths path :=
    Or.inl (defaultField_mem_knownPaths hdatasets hallowed hdefault)
  obtain ⟨needed, hneeded, hiff⟩ := demands_of_ruled allowed hruled
  exact ⟨needed, hneeded, (hiff granted).mpr hdefault.permits⟩

end FieldCatalog

end RegistryGate
