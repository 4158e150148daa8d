/-
  What it means that a field is covered, and that the policy on fields is nothing else.

  An entry covers a path when, both without their wildcards, the path is the entry or goes on with a
  dot behind it (`covers_iff`).  A caller may have a field when a dataset that the caller holds
  covers it and the record type has it (`FieldCatalog.Permits`).  The policy that a catalog derives
  has a rule for some paths (`FieldCatalog.Ruled`), and each rule is met exactly by the callers who
  may have its path (`satisfiedBy_requirementOn_iff`).  A path without a rule falls under the one on
  everything below its parent.  Who may have all of that may have the path (`Permits.child`), so the
  policy lets nothing through that is not permitted (`fieldPolicy_sound`), and what it asks of each
  value is known exactly (`fieldPolicy_exact`).
-/
import RegistryGate.Field.Catalog
import RegistryGate.Proofs.Policy.Resolution

namespace RegistryGate

namespace Field

/-! ## Paths and their wildcards -/

theorem eq_wildcardBase_or (path : String) :
    path = wildcardBase path ∨ path = wildcardBase path ++ ".*" := by
  unfold wildcardBase
  cases hstrip : Text.stripSuffix? ".*" path with
  | none => exact Or.inl rfl
  | some base => exact Or.inr (Text.stripSuffix?_eq_some_iff.mp hstrip)

theorem wildcardBase_append_wildcard (parent : String) : wildcardBase (parent ++ ".*") = parent := by
  have hstrip : Text.stripSuffix? ".*" (parent ++ ".*") = some parent :=
    Text.stripSuffix?_eq_some_iff.mpr rfl
  rw [wildcardBase, hstrip]
  rfl

theorem wildcardBase_eq_self {path : String} (h : ∀ parent, path ≠ parent ++ ".*") :
    wildcardBase path = path := by
  rcases eq_wildcardBase_or path with hbase | hwild
  · exact hbase.symm
  · exact absurd hwild (h _)

/-! ## Coverage -/

theorem covers_iff {entry path : String} :
    covers entry path = true ↔
      wildcardBase path = wildcardBase entry ∨
        ∃ rest, wildcardBase path = wildcardBase entry ++ "." ++ rest := by
  simp only [covers, Bool.or_eq_true, beq_iff_eq, Text.startsWith_iff]

/-- Whatever covers a path covers everything below it. -/
theorem covers_below {entry path child name : String} (h : covers entry path = true)
    (hchild : wildcardBase child = wildcardBase path ++ "." ++ name) :
    covers entry child = true := by
  rw [covers_iff] at h ⊢
  -- below what is the same, or one name further below what is below
  rcases h with hsame | ⟨rest, hrest⟩
  · exact Or.inr ⟨name, by rw [hchild, hsame]⟩
  · refine Or.inr ⟨rest ++ "." ++ name, ?_⟩
    rw [hchild, hrest]
    simp only [String.append_assoc]

end Field

theorem FieldList.covers_iff {fields : FieldList} {path : String} :
    fields.covers path = true ↔ ∃ entry, entry ∈ fields.entries ∧ Field.covers entry path = true :=
  List.any_eq_true

namespace FieldCatalog

/-! ## Permitted fields -/

/-- What a caller must have for a field to be handed out. -/
structure Permits (catalog : FieldCatalog) (allowed : Option FieldList) (granted : NameSet)
    (path : String) : Prop where
  /-- Some entry of a dataset that the caller holds covers the path. -/
  held : ∃ dataset fields, catalog.group? dataset = some fields ∧ dataset ∈ granted ∧
    ∃ entry, entry ∈ fields.entries ∧ Field.covers entry path = true
  /-- The allowed list, if there is one, covers the path without its wildcard. -/
  allowed : ∀ list, allowed = some list →
    ∃ entry, entry ∈ list.entries ∧ Field.covers entry (Field.wildcardBase path) = true

/-- Some dataset that the caller holds covers the path. -/
def GrantedTo (catalog : FieldCatalog) (granted : NameSet) (path : String) : Prop :=
  ∃ dataset fields, catalog.group? dataset = some fields ∧ dataset ∈ granted ∧
    fields.covers path = true

/-- The allowed list, if there is one, covers the path. -/
def AllowedBy (allowed : Option FieldList) (path : String) : Prop :=
  ∀ list, allowed = some list → list.covers path = true

/-- A field is permitted when it is granted and, without its wildcard, allowed. -/
theorem permits_iff {catalog : FieldCatalog} {allowed : Option FieldList} {granted : NameSet}
    {path : String} :
    catalog.Permits allowed granted path ↔
      catalog.GrantedTo granted path ∧ AllowedBy allowed (Field.wildcardBase path) := by
  constructor
  · intro h
    obtain ⟨dataset, fields, hgroup, hheld, hentry⟩ := h.held
    exact ⟨⟨dataset, fields, hgroup, hheld, FieldList.covers_iff.mpr hentry⟩,
      fun list hlist => FieldList.covers_iff.mpr (h.allowed list hlist)⟩
  · rintro ⟨⟨dataset, fields, hgroup, hheld, hcovers⟩, hallowed⟩
    exact ⟨⟨dataset, fields, hgroup, hheld, FieldList.covers_iff.mp hcovers⟩,
      fun list hlist => FieldList.covers_iff.mp (hallowed list hlist)⟩

/-- Everything below a path is permitted when it is granted and the path is allowed. -/
theorem permits_wildcard_iff {catalog : FieldCatalog} {allowed : Option FieldList}
    {granted : NameSet} {parent : String} :
    catalog.Permits allowed granted (parent ++ ".*") ↔
      catalog.GrantedTo granted (parent ++ ".*") ∧ AllowedBy allowed parent := by
  rw [permits_iff, Field.wildcardBase_append_wildcard]

/-- Who may have everything below a path may have each field right below it. -/
theorem Permits.child {catalog : FieldCatalog} {allowed : Option FieldList} {granted : NameSet}
    {parent name path : String} (h : catalog.Permits allowed granted (parent ++ ".*"))
    (hpath : path = parent ++ "." ++ name) (hplain : Field.wildcardBase path = path) :
    catalog.Permits allowed granted path := by
  constructor
  · obtain ⟨dataset, fields, hgroup, hheld, entry, hentry, hcovers⟩ := h.held
    have hbelow : Field.wildcardBase path
        = Field.wildcardBase (parent ++ ".*") ++ "." ++ name := by
      rw [hplain, hpath, Field.wildcardBase_append_wildcard]
    exact ⟨dataset, fields, hgroup, hheld, entry, hentry, Field.covers_below hcovers hbelow⟩
  · intro list hlist
    obtain ⟨entry, hentry, hcovers⟩ := h.allowed list hlist
    rw [Field.wildcardBase_append_wildcard] at hcovers
    rw [hplain]
    -- the parent may itself end with a wildcard, which then counts as one more name
    rcases Field.eq_wildcardBase_or parent with hbase | hwild
    · have hbelow : Field.wildcardBase path = Field.wildcardBase parent ++ "." ++ name := by
        rw [← hbase, hplain, hpath]
      exact ⟨entry, hentry, Field.covers_below hcovers hbelow⟩
    · have hbelow : Field.wildcardBase path
          = Field.wildcardBase parent ++ "." ++ ("*." ++ name) := by
        rw [hplain, hpath]
        conv => lhs; rw [hwild]
        rw [show (".*" : String) = "." ++ "*" from rfl, show ("*." : String) = "*" ++ "." from rfl]
        simp only [String.append_assoc]
      exact ⟨entry, hentry, Field.covers_below hcovers hbelow⟩

/-! ## The policy on fields -/

variable {catalog : FieldCatalog} {allowed : Option FieldList} {granted : NameSet}

theorem mem_grantingDatasets {path dataset : String} :
    dataset ∈ catalog.grantingDatasets path ↔
      ∃ fields, catalog.group? dataset = some fields ∧ fields.covers path = true := by
  unfold grantingDatasets
  rw [SortedSet.mem_ofList, List.mem_map]
  constructor
  · rintro ⟨⟨name, fields⟩, hmem, rfl⟩
    obtain ⟨hgroup, hcovers⟩ := List.mem_filter.mp hmem
    exact ⟨fields, Table.get?_eq_some_iff.mpr hgroup, hcovers⟩
  · rintro ⟨fields, hgroup, hcovers⟩
    exact ⟨(dataset, fields),
      List.mem_filter.mpr ⟨Table.get?_eq_some_iff.mp hgroup, hcovers⟩, rfl⟩

/-- The requirement on a path is satisfied exactly by the callers who may have the field. -/
theorem satisfiedBy_requirementOn_iff {path : String} :
    (catalog.requirementOn allowed path).satisfiedBy granted = true ↔
      catalog.Permits allowed granted path := by
  have hallowed : (allowed.all fun list => list.covers (Field.wildcardBase path)) = true ↔
      AllowedBy allowed (Field.wildcardBase path) := by
    cases allowed <;> simp [AllowedBy]
  rw [permits_iff]
  unfold requirementOn
  split
  · rename_i hcovered
    rw [Requirement.satisfiedBy_ofNames]
    constructor
    · rintro ⟨dataset, hgrants, hheld⟩
      obtain ⟨fields, hgroup, hcovers⟩ := mem_grantingDatasets.mp hgrants
      exact ⟨⟨dataset, fields, hgroup, hheld, hcovers⟩, hallowed.mp hcovered⟩
    · rintro ⟨⟨dataset, fields, hgroup, hheld, hcovers⟩, -⟩
      exact ⟨dataset, mem_grantingDatasets.mpr ⟨fields, hgroup, hcovers⟩, hheld⟩
  · rename_i houtside
    constructor
    · intro hmet
      exact absurd hmet (by simp [Requirement.satisfiedBy])
    · rintro ⟨-, hinside⟩
      exact absurd (hallowed.mpr hinside) houtside

/-! ### The table -/

/-- The path has a rule: the response knows it, or it is an entry of a dataset. -/
def Ruled (catalog : FieldCatalog) (known : List String) (path : String) : Prop :=
  path ∈ known ∨ ∃ dataset fields, catalog.group? dataset = some fields ∧ path ∈ fields.entries

variable {known : List String} {path : String}

theorem mem_ruledPaths : path ∈ (catalog.ruledPaths known).toList ↔ catalog.Ruled known path := by
  unfold ruledPaths Ruled
  rw [SortedSet.mem_toList, SortedSet.mem_ofList, List.mem_append, List.mem_flatMap]
  refine or_congr_right ?_
  constructor
  · rintro ⟨⟨dataset, fields⟩, hgroup, hentry⟩
    exact ⟨dataset, fields, Table.get?_eq_some_iff.mpr hgroup, hentry⟩
  · rintro ⟨dataset, fields, hgroup, hentry⟩
    exact ⟨(dataset, fields), Table.get?_eq_some_iff.mp hgroup, hentry⟩

/-- Adding rules to a policy changes nothing but its entries. -/
theorem foldl_withRequirements (rule : String → Requirements) (paths : List String)
    (policy : ParameterPolicy) :
    paths.foldl (fun policy path => policy.withRequirements path (rule path)) policy
      = { policy with
          values := paths.foldl (fun values path => values.insert path (rule path)) policy.values } := by
  -- each rule is put in behind the ones before, whatever these are
  induction paths generalizing policy with
  | nil => rfl
  | cons path rest ih => exact ih (policy.withRequirements path (rule path))

theorem fieldPolicy_eq (known : List String) : catalog.fieldPolicy known allowed
    = ⟨(catalog.ruledPaths known).toList.foldl (fun values path =>
        values.insert path (SortedSet.singleton (catalog.requirementOn allowed path))) .empty,
        none, true⟩ :=
  foldl_withRequirements _ _ _

theorem get?_values_fieldPolicy (known : List String) (path : String) :
    (catalog.fieldPolicy known allowed).values.get? path
      = if path ∈ (catalog.ruledPaths known).toList
        then some (SortedSet.singleton (catalog.requirementOn allowed path)) else none := by
  rw [fieldPolicy_eq]
  exact Table.get?_foldl_insert_map _ path (catalog.ruledPaths known).toList .empty

/-- A path with a rule has the requirement on it as its entry. -/
theorem get?_values_of_ruled (h : catalog.Ruled known path) :
    (catalog.fieldPolicy known allowed).values.get? path
      = some (SortedSet.singleton (catalog.requirementOn allowed path)) := by
  rw [get?_values_fieldPolicy, if_pos (mem_ruledPaths.mpr h)]

/-- Other paths have no entry. -/
theorem get?_values_of_not_ruled (h : ¬ catalog.Ruled known path) :
    (catalog.fieldPolicy known allowed).values.get? path = none := by
  rw [get?_values_fieldPolicy, if_neg (mt mem_ruledPaths.mp h)]

/-! ### The verdict on a path -/

open ParameterPolicy (ChildOf)

/-- On a path with a rule its own requirement decides. -/
theorem demands_of_ruled (allowed : Option FieldList) (h : catalog.Ruled known path) :
    (catalog.fieldPolicy known allowed).Demands path fun granted =>
      catalog.Permits allowed granted path :=
  ⟨_, ParameterPolicy.requirementsFor?_eq_some_iff.mpr (.entry (get?_values_of_ruled h)),
    fun _ => Requirements.metBy_singleton.trans satisfiedBy_requirementOn_iff⟩

variable {parent : String}

/-- On another one decides the requirement on everything below its parent. -/
theorem demands_of_childOf (allowed : Option FieldList) (hnot : ¬ catalog.Ruled known path)
    (hchild : ChildOf parent path) (hparent : catalog.Ruled known (parent ++ ".*")) :
    (catalog.fieldPolicy known allowed).Demands path fun granted =>
      catalog.Permits allowed granted (parent ++ ".*") :=
  ⟨_, ParameterPolicy.requirementsFor?_eq_some_iff.mpr
      (.wildcard (get?_values_of_not_ruled hnot) (by rw [fieldPolicy_eq]) hchild
        (get?_values_of_ruled hparent)),
    fun _ => Requirements.metBy_singleton.trans satisfiedBy_requirementOn_iff⟩

/-- Without either the path is not supported. -/
theorem unsupported_of_not_ruled (allowed : Option FieldList) (hnot : ¬ catalog.Ruled known path)
    (habove : ∀ parent, ChildOf parent path → ¬ catalog.Ruled known (parent ++ ".*")) :
    (catalog.fieldPolicy known allowed).Unsupported path where
  entry := get?_values_of_not_ruled hnot
  above := fun _ parent hchild => get?_values_of_not_ruled (habove parent hchild)
  fallback := by rw [fieldPolicy_eq]

/-- A path without a rule has no wildcard at its end, where everything below its parent has one. -/
theorem wildcardBase_of_childOf (hnot : ¬ catalog.Ruled known path) (hchild : ChildOf parent path)
    (hparent : catalog.Ruled known (parent ++ ".*")) : Field.wildcardBase path = path := by
  refine Field.wildcardBase_eq_self fun base hbase => hnot ?_
  have hstar : ChildOf base path := by
    refine ⟨"*", ?_, by decide⟩
    rw [hbase, show (".*" : String) = "." ++ "*" from rfl, String.append_assoc]
  rw [hbase, hstar.unique hchild]
  exact hparent

/-- It is permitted to whom everything below its parent is. -/
theorem permits_of_childOf (hnot : ¬ catalog.Ruled known path) (hchild : ChildOf parent path)
    (hparent : catalog.Ruled known (parent ++ ".*"))
    (h : catalog.Permits allowed granted (parent ++ ".*")) :
    catalog.Permits allowed granted path := by
  have hplain := wildcardBase_of_childOf hnot hchild hparent
  obtain ⟨name, hpath, -⟩ := hchild
  exact h.child hpath hplain

/-- **The policy on fields is sound.**  A path that it resolves, to requirements that the caller
meets, is a field that the caller may have. -/
theorem fieldPolicy_sound {needed : Requirements}
    (h : (catalog.fieldPolicy known allowed).requirementsFor? path = some needed)
    (hmet : needed.MetBy granted) : catalog.Permits allowed granted path := by
  by_cases hruled : catalog.Ruled known path
  · -- the path has a rule of its own
    exact ((demands_of_ruled allowed hruled).metBy_iff h).mp hmet
  · by_cases habove : ∃ parent, ChildOf parent path ∧ catalog.Ruled known (parent ++ ".*")
    · -- only the wildcard one level up matches
      obtain ⟨parent, hchild, hparent⟩ := habove
      exact permits_of_childOf hruled hchild hparent
        (((demands_of_childOf allowed hruled hchild hparent).metBy_iff h).mp hmet)
    · -- nothing matches, so there are no requirements to meet
      have hunsupported := unsupported_of_not_ruled allowed hruled
        fun parent hchild hparent => habove ⟨parent, hchild, hparent⟩
      rw [ParameterPolicy.requirementsFor?_eq_none_iff.mpr hunsupported] at h
      cases h

/-- **The policy on fields decides exactly coverage.**  A path with a rule is supported, and asks
that a dataset of the caller covers it and that the allowed list covers it without its wildcard.
Another path is supported where everything below its parent has a rule, and asks the same of that;
whoever meets it has the path covered and allowed as well.  All other values are rejected. -/
theorem fieldPolicy_exact (catalog : FieldCatalog) (known : List String)
    (allowed : Option FieldList) (value : String) :
    (catalog.Ruled known value →
      (catalog.fieldPolicy known allowed).Demands value fun granted =>
        catalog.GrantedTo granted value ∧ AllowedBy allowed (Field.wildcardBase value)) ∧
    (∀ parent, ¬ catalog.Ruled known value → ChildOf parent value →
      catalog.Ruled known (parent ++ ".*") →
        ((catalog.fieldPolicy known allowed).Demands value fun granted =>
          catalog.GrantedTo granted (parent ++ ".*") ∧ AllowedBy allowed parent) ∧
        ∀ granted, catalog.GrantedTo granted (parent ++ ".*") → AllowedBy allowed parent →
          catalog.GrantedTo granted value ∧ AllowedBy allowed value) ∧
    (¬ catalog.Ruled known value →
      (∀ parent, ChildOf parent value → ¬ catalog.Ruled known (parent ++ ".*")) →
        (catalog.fieldPolicy known allowed).requirementsFor? value = none ∧
        ∀ carrier : Json, .string value ∈ carrier.elements →
          value ∈ (catalog.fieldPolicy known allowed).rejected carrier) := by
  refine ⟨fun hruled => ?_, fun parent hnot hchild hparent => ⟨?_, ?_⟩, fun hnot habove => ?_⟩
  · obtain ⟨needed, hneeded, hiff⟩ := demands_of_ruled allowed hruled
    exact ⟨needed, hneeded, fun granted => (hiff granted).trans permits_iff⟩
  · obtain ⟨needed, hneeded, hiff⟩ := demands_of_childOf allowed hnot hchild hparent
    exact ⟨needed, hneeded, fun granted => (hiff granted).trans permits_wildcard_iff⟩
  · intro granted hgranted hinside
    have hpermits := permits_of_childOf hnot hchild hparent
      (permits_wildcard_iff.mpr ⟨hgranted, hinside⟩)
    rw [permits_iff, wildcardBase_of_childOf hnot hchild hparent] at hpermits
    exact hpermits
  · have hunsupported := unsupported_of_not_ruled allowed hnot habove
    refine ⟨ParameterPolicy.requirementsFor?_eq_none_iff.mpr hunsupported, fun carrier hin => ?_⟩
    exact ParameterPolicy.mem_rejected hin rfl hunsupported

/-- A path with a rule of its own, one that falls under the rule on everything below its parent, one
that no dataset grants, and one that is not supported. -/
example :
    let catalog : FieldCatalog := ⟨Table.ofList
      [("set-1", ⟨SortedSet.ofList ["naam.voornamen"], by decide +kernel⟩),
        ("set-9", ⟨SortedSet.ofList ["naam.*"], by decide +kernel⟩)]⟩
    let policy := catalog.fieldPolicy ["leeftijd"] none
    policy.requirementsFor? "naam.voornamen"
        = some (SortedSet.singleton (.anyOf (SortedSet.ofList ["set-1", "set-9"]))) ∧
      policy.requirementsFor? "naam.geslacht" = some (SortedSet.singleton (.scope "set-9")) ∧
      policy.requirementsFor? "leeftijd" = some (SortedSet.singleton .unattainable) ∧
      policy.requirementsFor? "onbekend" = none := by
  decide +kernel

end FieldCatalog

end RegistryGate
