/-
  Name-to-value lists: the members of an object, the entries of a table.

  A `Members α` is a list of entries in ascending order of their names.  The order is what a
  reader of the answers sees; it is kept by `insert` and by `ofList`.  Lookup, insertion and
  removal are each one pass over the list, so that the laws below hold of *every* list, ascending
  or not, and no statement about documents has to carry a well-formedness hypothesis.

  `Table α` is the same list with its order in the type, for the tables that the gateway owns.
-/
import RegistryGate.Ordered.SortedSet

namespace RegistryGate

/-- Named values; the entries of an object or a table. -/
abbrev Members (α : Type) := List (String × α)

namespace Members

variable {α β : Type}

/-- The value under a name. -/
def get? (name : String) : Members α → Option α
  | [] => none
  | (k, v) :: rest => if k = name then some v else get? name rest

/-- Holds when there is a value under the name. -/
def contains (name : String) (ms : Members α) : Bool := (get? name ms).isSome

/-- Puts a value under a name, in place of the one that was there. -/
def insert (name : String) (value : α) : Members α → Members α
  | [] => [(name, value)]
  | (k, v) :: rest =>
    if k = name then (name, value) :: rest
    else if compare name k = .lt then (name, value) :: (k, v) :: rest
    else (k, v) :: insert name value rest

/-- Drops the value under a name. -/
def erase (name : String) (ms : Members α) : Members α := ms.filter fun e => e.1 != name

/-- The names, in the order of the entries. -/
def names (ms : Members α) : List String := ms.map Prod.fst

/-- Collects entries; of two entries with one name the last one stays. -/
def ofList (entries : List (String × α)) : Members α :=
  entries.foldl (fun acc e => insert e.1 e.2 acc) []

@[simp] theorem get?_nil {name : String} : get? name ([] : Members α) = none := rfl

theorem get?_insert_self (name : String) (value : α) (ms : Members α) :
    get? name (insert name value ms) = some value := by
  induction ms with
  | nil => simp [insert, get?]
  | cons e rest ih =>
    obtain ⟨k, v⟩ := e
    unfold insert
    split
    · simp [get?]
    · split
      · simp [get?]
      · rename_i hk _
        simp [get?, hk, ih]

theorem get?_insert_of_ne {name other : String} (h : other ≠ name) (value : α) (ms : Members α) :
    get? other (insert name value ms) = get? other ms := by
  induction ms with
  | nil => simp [insert, get?, h.symm]
  | cons e rest ih =>
    obtain ⟨k, v⟩ := e
    unfold insert
    split
    · rename_i hk
      subst hk
      simp [get?, h.symm]
    · split
      · simp [get?, h.symm]
      · simp [get?, ih]

theorem get?_erase_self (name : String) (ms : Members α) : get? name (erase name ms) = none := by
  induction ms with
  | nil => rfl
  | cons e rest ih =>
    obtain ⟨k, v⟩ := e
    by_cases hk : k = name <;> simp_all [erase, get?]

theorem get?_erase_of_ne {name other : String} (h : other ≠ name) (ms : Members α) :
    get? other (erase name ms) = get? other ms := by
  induction ms with
  | nil => rfl
  | cons e rest ih =>
    obtain ⟨k, v⟩ := e
    by_cases hk : k = name
    · subst hk
      simp_all [erase, get?, h.symm]
    · by_cases ho : k = other <;> simp_all [erase, get?]

/-- The names come in strictly ascending order. -/
def Sorted (ms : Members α) : Prop := Ascending ms.names

instance (ms : Members α) : Decidable (Sorted ms) := inferInstanceAs (Decidable (Ascending _))

theorem names_insert (name : String) (value : α) {ms : Members α} (h : Sorted ms) :
    names (insert name value ms) = insertAscending name ms.names := by
  induction ms with
  | nil => rfl
  | cons e rest ih =>
    obtain ⟨k, v⟩ := e
    have h' : Ascending (k :: names rest) := h
    have hrest : Sorted rest := (List.pairwise_cons.1 h').2
    unfold insert
    split
    · rename_i hk
      subst hk
      simp [names, insertAscending]
    · rename_i hk
      show _ = insertAscending name (k :: names rest)
      unfold insertAscending
      cases hc : compare name k with
      | lt => rfl
      | eq => exact absurd (Std.LawfulEqOrd.eq_of_compare hc).symm hk
      | gt =>
        show k :: names (insert name value rest) = _
        rw [ih hrest]

theorem sorted_insert {name : String} {value : α} {ms : Members α} (h : Sorted ms) :
    Sorted (insert name value ms) := by
  rw [Sorted, names_insert name value h]
  exact pairwise_insertAscending h

theorem sorted_nil : Sorted ([] : Members α) := List.Pairwise.nil

theorem sorted_ofList (entries : List (String × α)) : Sorted (ofList entries) := by
  suffices ∀ acc : Members α, Sorted acc →
      Sorted (entries.foldl (fun acc e => insert e.1 e.2 acc) acc) from this [] sorted_nil
  induction entries with
  | nil => exact fun _ h => h
  | cons e rest ih => exact fun acc h => ih _ (sorted_insert h)

end Members

/-! ## Tables -/

/-- A table from names to values, in ascending order of the names. -/
structure Table (α : Type) where
  /-- The entries, in ascending order of their names. -/
  entries : Members α
  /-- Every name comes strictly before the later ones. -/
  sorted : entries.Sorted

namespace Table

variable {α : Type}

/-- The table without entries. -/
def empty : Table α := ⟨[], Members.sorted_nil⟩

instance : Inhabited (Table α) := ⟨empty⟩

/-- The value under a name. -/
def get? (t : Table α) (name : String) : Option α := Members.get? name t.entries

/-- Holds when there is a value under the name. -/
def contains (t : Table α) (name : String) : Bool := Members.contains name t.entries

/-- Puts a value under a name, in place of the one that was there. -/
def insert (t : Table α) (name : String) (value : α) : Table α :=
  ⟨Members.insert name value t.entries, Members.sorted_insert t.sorted⟩

/-- The names, ascending. -/
def names (t : Table α) : List String := Members.names t.entries

/-- Collects entries; of two entries with one name the last one stays. -/
def ofList (entries : List (String × α)) : Table α :=
  ⟨Members.ofList entries, Members.sorted_ofList entries⟩

theorem ext {s t : Table α} (h : s.entries = t.entries) : s = t := by
  cases s; cases t; simp_all

instance [DecidableEq α] : DecidableEq (Table α) := fun s t =>
  if h : s.entries = t.entries then isTrue (ext h) else isFalse fun e => h (e ▸ rfl)

@[simp] theorem get?_empty {name : String} : (empty : Table α).get? name = none := rfl

theorem get?_insert_self (t : Table α) (name : String) (value : α) :
    (t.insert name value).get? name = some value :=
  Members.get?_insert_self name value t.entries

theorem get?_insert_of_ne (t : Table α) {name other : String} (h : other ≠ name) (value : α) :
    (t.insert name value).get? other = t.get? other :=
  Members.get?_insert_of_ne h value t.entries

end Table

end RegistryGate
