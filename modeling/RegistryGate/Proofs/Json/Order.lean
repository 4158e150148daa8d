/-
  Documents whose members stand in order.

  A document is *ordered* when the members of every object in it, at any depth, come in ascending
  order of their names (`Json.Ordered`).  Every document that the reader makes is ordered
  (`ordered_of_parse?`), for it collects the members of an object with `Members.ofList`.  The laws of
  lookup hold of every list of members; what the order is needed for is that documents with the same
  lookups are the same.

  What is found inside of an ordered document is ordered (`Ordered.nested?`), and so is an object
  into which an ordered value was put, or from which a member was dropped.
-/
import RegistryGate.Proofs.Json.Position
import RegistryGate.Json.Reader

namespace RegistryGate.Json

/-- The members of every object in a value come in ascending order of their names, each name once. -/
inductive Ordered : Json → Prop where
  /-- The absent value has no members. -/
  | null : Ordered .null
  /-- A truth value has no members. -/
  | bool (b : Bool) : Ordered (.bool b)
  /-- A number has no members. -/
  | number (n : Number) : Ordered (.number n)
  /-- A text has no members. -/
  | string (text : String) : Ordered (.string text)
  /-- The members of a list are those of its items. -/
  | array {items : List Json} (hitems : ∀ item ∈ items, Ordered item) : Ordered (.array items)
  /-- The members of an object come in order, and so do those inside of each. -/
  | object {members : Members Json} (hsorted : Members.Sorted members)
    (hmembers : ∀ member ∈ members, Ordered member.2) : Ordered (.object members)

namespace Ordered

variable {value found : Json} {items : List Json} {members : Members Json} {name : String}

theorem of_item (h : (Json.array items).Ordered) : ∀ item ∈ items, item.Ordered := by
  cases h with
  | array hitems => exact hitems

theorem sorted (h : (Json.object members).Ordered) : Members.Sorted members := by
  cases h with
  | object hsorted _ => exact hsorted

theorem of_member (h : (Json.object members).Ordered) : ∀ member ∈ members, member.2.Ordered := by
  cases h with
  | object _ hmembers => exact hmembers

theorem get? (h : (Json.object members).Ordered) (hfound : Members.get? name members = some found) :
    found.Ordered :=
  h.of_member _ (Members.mem_of_get? hfound)

/-! ## What is found inside -/

theorem step? {step : Step} (h : value.Ordered) (hfound : value.step? step = some found) :
    found.Ordered := by
  cases h with
  | null | bool | number | string => cases step <;> cases hfound
  | array hitems =>
    cases step with
    | member name => cases hfound
    | item index => exact hitems found (List.mem_of_getElem? hfound)
  | object hsorted hmembers =>
    cases step with
    | member name => exact hmembers _ (Members.mem_of_get? hfound)
    | item index => cases hfound

theorem nested? {place : Position} (h : value.Ordered) (hfound : value.nested? place = some found) :
    found.Ordered := by
  induction place generalizing value with
  | nil =>
    obtain rfl := Option.some.inj hfound
    exact h
  | cons step rest ih =>
    obtain ⟨inner, hinner, hrest⟩ := Option.bind_eq_some_iff.mp hfound
    exact ih (h.step? hinner) hrest

/-! ## What is changed -/

theorem map {change : Json → Json} (h : ∀ item ∈ items, (change item).Ordered) :
    (Json.array (items.map change)).Ordered := by
  refine .array fun changed hchanged => ?_
  obtain ⟨item, hitem, rfl⟩ := List.mem_map.mp hchanged
  exact h item hitem

theorem erase (h : (Json.object members).Ordered) (name : String) :
    (Json.object (Members.erase name members)).Ordered :=
  .object (Members.sorted_erase h.sorted) fun member hmember =>
    h.of_member member (List.mem_filter.mp hmember).1

theorem insert (h : (Json.object members).Ordered) (hvalue : value.Ordered) :
    (Json.object (Members.insert name value members)).Ordered := by
  have hsorted : Members.Sorted (Members.insert name value members) :=
    Members.sorted_insert h.sorted
  refine .object hsorted fun member hmember => ?_
  have hget := Members.get?_of_mem hsorted hmember
  rw [Members.get?_insert] at hget
  split at hget
  · obtain rfl := Option.some.inj hget
    exact hvalue
  · exact h.get? hget

end Ordered

/-! ## What is read -/

/-- Collected members come in order. -/
theorem ordered_ofMembers {entries : List (String × Json)} (h : ∀ entry ∈ entries, entry.2.Ordered) :
    (ofMembers entries).Ordered := by
  refine .object (Members.sorted_ofList entries) fun member hmember => ?_
  -- an object's member is the last entry of its name, and an entry's value is in order
  have hget := Members.get?_of_mem (Members.sorted_ofList entries) hmember
  exact h member (Table.mem_of_get?_ofList hget)

/-- What the reader makes with so much fuel is in order, if what it has made so far is. -/
structure ReadsOrdered (fuel : Nat) : Prop where
  /-- A value is in order. -/
  value : ∀ {depth cs value rest}, readValue? fuel depth cs = some (value, rest) → value.Ordered
  /-- A list is in order. -/
  items : ∀ {depth acc cs value rest}, (∀ item ∈ acc, item.Ordered) →
    readItems? fuel depth acc cs = some (value, rest) → value.Ordered
  /-- The values of all entries are in order. -/
  entries : ∀ {depth cs entries rest}, readEntries? fuel depth cs = some (entries, rest) →
    ∀ entry ∈ entries, entry.2.Ordered
  /-- The values of all further entries are in order. -/
  more : ∀ {depth acc cs entries rest}, (∀ entry ∈ acc, entry.2.Ordered) →
    readMoreEntries? fuel depth acc cs = some (entries, rest) →
    ∀ entry ∈ entries, entry.2.Ordered

theorem readsOrdered_zero : ReadsOrdered 0 where
  value h := by rw [readValue?] at h; cases h
  items _ h := by rw [readItems?] at h; cases h
  entries h := by rw [readEntries?] at h; cases h
  more _ h := by rw [readMoreEntries?] at h; cases h

/-- With more fuel the reader only puts together what it has read with less.  What is read is a
scalar, which has no parts, or a list or an object of parts that were read in order; and an object
is collected into members that are in order, whatever order its entries had in the text. -/
theorem ReadsOrdered.succ {fuel : Nat} (h : ReadsOrdered fuel) : ReadsOrdered (fuel + 1) where
  value := by
    intro depth cs value rest hread
    rw [readValue?] at hread
    split at hread
    · cases hread
      exact .null
    · cases hread
      exact .bool true
    · cases hread
      exact .bool false
    · obtain ⟨text, -, heq⟩ := Option.map_eq_some_iff.mp hread
      cases heq
      exact .string _
    · -- a list: empty, or an item and what follows it, with nothing collected yet
      split at hread
      · cases hread
      · split at hread
        · cases hread
          exact .array fun _ hitem => absurd hitem List.not_mem_nil
        · exact h.items (fun _ hitem => absurd hitem List.not_mem_nil) hread
    · split at hread
      · cases hread
      · obtain ⟨⟨entries, rest'⟩, hentries, heq⟩ := Option.map_eq_some_iff.mp hread
        cases heq
        exact ordered_ofMembers (h.entries hentries)
    · obtain ⟨number, -, heq⟩ := Option.map_eq_some_iff.mp hread
      cases heq
      exact .number _
  items := by
    intro depth acc cs value rest hacc hread
    rw [readItems?] at hread
    split at hread
    · cases hread
    · rename_i item _ hitem
      -- the item read joins the collected ones
      have hall : ∀ other ∈ item :: acc, other.Ordered := by
        rintro other (_ | ⟨_, hother⟩)
        · exact h.value hitem
        · exact hacc other hother
      split at hread
      · exact h.items hall hread
      · cases hread
        exact .array fun other hother => hall other (List.mem_reverse.mp hother)
      · cases hread
  entries := by
    intro depth cs entries rest hread
    rw [readEntries?] at hread
    split at hread
    · cases hread
      exact fun _ hentry => absurd hentry List.not_mem_nil
    · exact h.more (fun _ hentry => absurd hentry List.not_mem_nil) hread
  more := by
    intro depth acc cs entries rest hacc hread
    rw [readMoreEntries?] at hread
    split at hread
    · split at hread
      · cases hread
      · split at hread
        · split at hread
          · cases hread
          · rename_i name _ _ _ _ _ _ value _ hvalue
            have hall : ∀ entry ∈ (name, value) :: acc, entry.2.Ordered := by
              rintro entry (_ | ⟨_, hentry⟩)
              · exact h.value hvalue
              · exact hacc entry hentry
            split at hread
            · exact h.more hall hread
            · cases hread
              exact fun entry hentry => hall entry (List.mem_reverse.mp hentry)
            · cases hread
        · cases hread
    · cases hread

theorem readsOrdered (fuel : Nat) : ReadsOrdered fuel := by
  induction fuel with
  | zero => exact readsOrdered_zero
  | succ fuel ih => exact ih.succ

/-- **Every document that is read is in order.** -/
theorem ordered_of_parse? {text : String} {value : Json} (h : parse? text = some value) :
    value.Ordered := by
  unfold parse? parseWithin? whole? at h
  obtain ⟨⟨read, rest⟩, hread, hwhole⟩ := Option.bind_eq_some_iff.mp h
  split at hwhole
  · obtain rfl := Option.some.inj hwhole
    exact (readsOrdered _).value hread
  · cases hwhole

end RegistryGate.Json
