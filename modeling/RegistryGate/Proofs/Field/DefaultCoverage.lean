/-
  What the default fields cover.

  A caller who asks for no field in particular gets fields that are computed entry by entry: the path
  of an entry where it is allowed, and else the allowed paths below it.  Together they cover exactly
  what some dataset of the caller covers and the allowed list covers as well
  (`defaultFields_exact`).  Nothing is lost by going entry by entry: where an entry and an allowed
  path both cover a field, one of the two covers the other, and the longer one is among what the
  entry contributes (`exists_defaultField`).
-/
import RegistryGate.Proofs.Field.Order

namespace RegistryGate

/-- A list covers whatever an entry covers that it covers itself. -/
theorem FieldList.covers_trans {fields : FieldList} {entry path : String}
    (h : fields.covers entry = true) (h' : Field.covers entry path = true) :
    fields.covers path = true := by
  obtain ⟨own, hown, hcovers⟩ := FieldList.covers_iff.mp h
  exact FieldList.covers_iff.mpr ⟨own, hown, Field.covers_trans hcovers h'⟩

namespace FieldCatalog

variable {catalog : FieldCatalog} {allowed : Option FieldList} {granted : NameSet}

/-- Some field of a list covers the path. -/
def Covered (fields : List String) (path : String) : Prop :=
  ∃ field ∈ fields, Field.covers field path = true

/-! ## What entries contribute -/

/-- An entry contributes its path where that is allowed. -/
theorem wildcardBase_mem_defaultsOf {entry : String}
    (h : AllowedBy allowed (Field.wildcardBase entry)) :
    Field.wildcardBase entry ∈ defaultsOf allowed entry := by
  cases allowed with
  | none => exact List.mem_singleton_self _
  | some list =>
    show _ ∈ if list.covers (Field.wildcardBase entry) then [Field.wildcardBase entry] else _
    rw [if_pos (h list rfl)]
    exact List.mem_singleton_self _

/-- Elsewhere it contributes the allowed paths that it covers. -/
theorem narrowed_mem_defaultsOf {list : FieldList} {entry narrowed : String}
    (hnot : ¬ list.covers (Field.wildcardBase entry) = true) (hmem : narrowed ∈ list.entries)
    (hcovers : Field.covers (Field.wildcardBase entry) (Field.wildcardBase narrowed) = true) :
    Field.wildcardBase narrowed ∈ defaultsOf (some list) entry := by
  show _ ∈ if list.covers (Field.wildcardBase entry) then _
    else (list.entries.toList.map Field.wildcardBase).filter (Field.covers (Field.wildcardBase entry))
  rw [if_neg hnot]
  exact List.mem_filter.mpr ⟨List.mem_map_of_mem hmem, hcovers⟩

/-- **Entry by entry, nothing is lost.**  Whatever is granted and allowed is covered by what some
entry contributes. -/
theorem exists_defaultField {path : String} (hgranted : catalog.GrantedTo granted path)
    (hallowed : AllowedBy allowed path) :
    ∃ field, catalog.DefaultField allowed granted field ∧ Field.covers field path = true := by
  obtain ⟨dataset, fields, hgroup, hheld, hcovers⟩ := hgranted
  obtain ⟨entry, hentry, hcovers⟩ := FieldList.covers_iff.mp hcovers
  have hplain := Field.wildcardBase_wildcardBase (fields.valid entry hentry)
  by_cases hbase : AllowedBy allowed (Field.wildcardBase entry)
  · refine ⟨Field.wildcardBase entry, ⟨dataset, fields, entry, hgroup, hheld, hentry,
      wildcardBase_mem_defaultsOf hbase⟩, ?_⟩
    rw [Field.covers_wildcardBase_left hplain]
    exact hcovers
  · -- the entry reaches beyond the allowed list, so the allowed path is the longer one
    obtain ⟨list, hrest⟩ := not_forall.mp hbase
    obtain ⟨rfl, hnot⟩ := Classical.not_imp.mp hrest
    obtain ⟨narrowed, hnarrowed, hpath⟩ := FieldList.covers_iff.mp (hallowed list rfl)
    have hnarrow := Field.wildcardBase_wildcardBase (list.valid narrowed hnarrowed)
    have hbelow : Field.covers entry narrowed = true := by
      rcases Field.covers_or_covers hcovers hpath with hbelow | habove
      · exact hbelow
      · refine absurd (FieldList.covers_iff.mpr ⟨narrowed, hnarrowed, ?_⟩) hnot
        rw [Field.covers_wildcardBase_right hplain]
        exact habove
    refine ⟨Field.wildcardBase narrowed, ⟨dataset, fields, entry, hgroup, hheld, hentry,
      narrowed_mem_defaultsOf hnot hnarrowed ?_⟩, ?_⟩
    · rw [Field.covers_wildcardBase_left hplain, Field.covers_wildcardBase_right hnarrow]
      exact hbelow
    · rw [Field.covers_wildcardBase_left hnarrow]
      exact hpath

/-- What lies below something granted is granted. -/
theorem GrantedTo.below {field path : String} (h : catalog.GrantedTo granted field)
    (hcovers : Field.covers field path = true) : catalog.GrantedTo granted path := by
  obtain ⟨dataset, fields, hgroup, hheld, hfield⟩ := h
  exact ⟨dataset, fields, hgroup, hheld, FieldList.covers_trans hfield hcovers⟩

/-- Who holds more datasets is granted more. -/
theorem GrantedTo.mono {larger : NameSet} {path : String} (h : catalog.GrantedTo granted path)
    (hlarger : ∀ dataset, dataset ∈ granted → dataset ∈ larger) :
    catalog.GrantedTo larger path := by
  obtain ⟨dataset, fields, hgroup, hheld, hcovers⟩ := h
  exact ⟨dataset, fields, hgroup, hlarger dataset hheld, hcovers⟩

/-- A default field is made of plain names. -/
theorem DefaultField.star_not_mem {path : String}
    (h : catalog.DefaultField allowed granted path) : '*' ∉ path.toList := by
  obtain ⟨entry, hvalid, rfl, -⟩ := h.exists_entry
  obtain ⟨names, -, hnames, hbase⟩ := Field.exists_names_of_isPath hvalid
  rw [hbase]
  exact Field.star_not_mem_joinWith fun name hname => Field.of_isName (hnames name hname)

/-! ## The default fields -/

/-- The default fields cover exactly what is granted and allowed. -/
theorem covered_defaultFields_iff {path : String} :
    Covered (catalog.defaultFields granted allowed) path ↔
      catalog.GrantedTo granted path ∧ AllowedBy allowed path := by
  obtain ⟨fields, heq, hfields⟩ := catalog.exists_defaultFields_eq allowed granted
  -- no default field has a wildcard, so one covers another exactly by their names
  have hplain : ∀ field, field ∈ fields → Field.wildcardBase field = field := by
    intro field hfield
    exact ((hfields field).mp hfield).plain
  unfold Covered
  rw [heq, Field.covered_minimize_iff hplain]
  constructor
  · rintro ⟨field, hfield, hcovers⟩
    have hdefault := (hfields field).mp hfield
    exact ⟨hdefault.grantedTo.below hcovers,
      fun list hlist => FieldList.covers_trans (hdefault.allowedBy list hlist) hcovers⟩
  · -- the entry that grants the path leaves a default field that covers it
    rintro ⟨hgranted, hallowed⟩
    obtain ⟨field, hdefault, hcovers⟩ := exists_defaultField hgranted hallowed
    exact ⟨field, (hfields field).mpr hdefault, hcovers⟩

/-- **The default fields are exactly what is granted and allowed, and no more than needed.**  They
cover a path if and only if a dataset of the caller covers it and the allowed list does; they are in
ascending order, have no wildcards, and none covers another.  So who holds more datasets gets as much
or more. -/
theorem defaultFields_exact (catalog : FieldCatalog) (allowed : Option FieldList)
    (granted : NameSet) :
    (∀ path, Covered (catalog.defaultFields granted allowed) path ↔
      catalog.GrantedTo granted path ∧ AllowedBy allowed path) ∧
    Ascending (catalog.defaultFields granted allowed) ∧
    (∀ field ∈ catalog.defaultFields granted allowed, '*' ∉ field.toList) ∧
    (∀ field ∈ catalog.defaultFields granted allowed,
      ∀ other ∈ catalog.defaultFields granted allowed,
        Field.covers field other = true → field = other) ∧
    ∀ larger : NameSet, (∀ dataset, dataset ∈ granted → dataset ∈ larger) →
      ∀ path, Covered (catalog.defaultFields granted allowed) path →
        Covered (catalog.defaultFields larger allowed) path := by
  obtain ⟨fields, heq, hfields⟩ := catalog.exists_defaultFields_eq allowed granted
  refine ⟨fun path => covered_defaultFields_iff, ?_, fun field hfield => ?_,
    fun field hfield other hother hcovers => ?_, fun larger hlarger path hcovered => ?_⟩
  · rw [heq]
    exact Field.ascending_minimize fields
  · exact (defaultField_of_mem hfield).star_not_mem
  · rw [heq] at hfield hother
    exact (Field.mem_minimize.mp hother).2 field (Field.mem_minimize.mp hfield).1 hcovers
  · obtain ⟨hgranted, hallowed⟩ := covered_defaultFields_iff.mp hcovered
    exact covered_defaultFields_iff.mpr ⟨hgranted.mono hlarger, hallowed⟩

end FieldCatalog

end RegistryGate
