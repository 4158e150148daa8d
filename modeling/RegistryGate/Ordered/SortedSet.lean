/-
  Finite sets kept as strictly ascending lists.

  Scope names, field paths and scope requirements are all compared by a total order, and every
  answer that lists them lists them in that order.  A `SortedSet` therefore *is* its ascending
  list: the order is part of the type, two sets with the same members are equal
  (`SortedSet.ext_mem`), and no operation has to sort before it prints.

  Main statements: `insertAscending` keeps a list ascending (`pairwise_insertAscending`) and adds
  exactly one member (`mem_insertAscending`); a set is determined by its members.
-/

namespace RegistryGate

open Std

/-! ## Insertion into an ascending list -/

/-- Puts `x` at its place in an ascending list; a member that compares equal is kept as it is. -/
def insertAscending {α : Type} [Ord α] (x : α) : List α → List α
  | [] => [x]
  | y :: ys =>
    match compare x y with
    | .lt => x :: y :: ys
    | .eq => y :: ys
    | .gt => y :: insertAscending x ys

/-- A list is ascending when every element comes strictly before all later ones. -/
def Ascending {α : Type} [Ord α] (xs : List α) : Prop :=
  xs.Pairwise (fun a b => compare a b = .lt)

instance {α : Type} [Ord α] (xs : List α) : Decidable (Ascending xs) :=
  inferInstanceAs (Decidable (xs.Pairwise _))

section

variable {α : Type} [Ord α] [LawfulEqOrd α]

theorem mem_insertAscending {x a : α} {xs : List α} :
    a ∈ insertAscending x xs ↔ a = x ∨ a ∈ xs := by
  induction xs with
  | nil => simp [insertAscending]
  | cons y ys ih =>
    unfold insertAscending
    split
    · simp
    · rename_i h
      have hxy : x = y := LawfulEqOrd.eq_of_compare h
      subst hxy
      simp
    · simp only [List.mem_cons, ih]
      constructor <;> (rintro (h | h | h) <;> simp [h])

variable [TransOrd α]

theorem pairwise_insertAscending {x : α} {xs : List α} (h : Ascending xs) :
    Ascending (insertAscending x xs) := by
  induction xs with
  | nil => simp [insertAscending, Ascending]
  | cons y ys ih =>
    unfold insertAscending
    rw [Ascending, List.pairwise_cons] at h
    split
    · rename_i hxy
      refine List.pairwise_cons.2 ⟨fun a ha => ?_, List.pairwise_cons.2 h⟩
      rcases List.mem_cons.1 ha with rfl | ha
      · exact hxy
      · exact TransCmp.lt_trans hxy (h.1 a ha)
    · exact List.pairwise_cons.2 h
    · rename_i hxy
      refine List.pairwise_cons.2 ⟨fun a ha => ?_, ih h.2⟩
      rcases mem_insertAscending.1 ha with rfl | ha
      · exact OrientedCmp.lt_of_gt hxy
      · exact h.1 a ha

/-- An ascending list is determined by its members. -/
theorem Ascending.eq_of_mem_iff {xs ys : List α} (hx : Ascending xs) (hy : Ascending ys)
    (h : ∀ a, a ∈ xs ↔ a ∈ ys) : xs = ys := by
  induction xs generalizing ys with
  | nil =>
    cases ys with
    | nil => rfl
    | cons y ys => exact absurd ((h y).2 (by simp)) (by simp)
  | cons x xs ih =>
    cases ys with
    | nil => exact absurd ((h x).1 (by simp)) (by simp)
    | cons y ys =>
      have hx' := List.pairwise_cons.1 hx
      have hy' := List.pairwise_cons.1 hy
      have irrefl : ∀ a : α, compare a a ≠ .lt := fun a => by simp
      have hxy : x = y := by
        rcases List.mem_cons.1 ((h x).1 (by simp)) with e | hxm
        · exact e
        rcases List.mem_cons.1 ((h y).2 (by simp)) with e | hym
        · exact e.symm
        · exact absurd (TransCmp.lt_trans (hx'.1 y hym) (hy'.1 x hxm)) (irrefl x)
      subst hxy
      congr 1
      refine ih hx'.2 hy'.2 fun a => ⟨fun ha => ?_, fun ha => ?_⟩
      · rcases List.mem_cons.1 ((h a).1 (List.mem_cons_of_mem _ ha)) with rfl | h'
        · exact absurd (hx'.1 a ha) (irrefl a)
        · exact h'
      · rcases List.mem_cons.1 ((h a).2 (List.mem_cons_of_mem _ ha)) with rfl | h'
        · exact absurd (hy'.1 a ha) (irrefl a)
        · exact h'

end

/-! ## The set type -/

/-- A finite set, held as the ascending list of its members. -/
structure SortedSet (α : Type) [Ord α] where
  /-- The members, in ascending order. -/
  toList : List α
  /-- Every member comes strictly before the later ones. -/
  ascending : Ascending toList

namespace SortedSet

variable {α : Type} [Ord α]

/-- The set without members. -/
def empty : SortedSet α := ⟨[], List.Pairwise.nil⟩

/-- The set of one member. -/
def singleton (x : α) : SortedSet α := ⟨[x], by simp [Ascending]⟩

instance : Inhabited (SortedSet α) := ⟨empty⟩

instance : Membership α (SortedSet α) := ⟨fun s a => a ∈ s.toList⟩

/-- Holds when `x` is a member. -/
def contains [BEq α] (s : SortedSet α) (x : α) : Bool := s.toList.contains x

/-- The number of members. -/
def size (s : SortedSet α) : Nat := s.toList.length

/-- Holds when the set has no member. -/
def isEmpty (s : SortedSet α) : Bool := s.toList.isEmpty

@[simp] theorem mem_toList {s : SortedSet α} {a : α} : a ∈ s.toList ↔ a ∈ s := Iff.rfl

theorem ext {s t : SortedSet α} (h : s.toList = t.toList) : s = t := by
  cases s; cases t; simp_all

instance [DecidableEq α] : DecidableEq (SortedSet α) := fun s t =>
  if h : s.toList = t.toList then isTrue (ext h) else isFalse fun e => h (e ▸ rfl)

/-- The members that satisfy `p`. -/
def filter (p : α → Bool) (s : SortedSet α) : SortedSet α :=
  ⟨s.toList.filter p, List.Pairwise.filter p s.ascending⟩

theorem mem_filter {p : α → Bool} {s : SortedSet α} {a : α} :
    a ∈ s.filter p ↔ a ∈ s ∧ p a = true := List.mem_filter

@[simp] theorem not_mem_empty {a : α} : ¬ a ∈ (empty : SortedSet α) := List.not_mem_nil

variable [TransOrd α] [LawfulEqOrd α]

/-- Adds one member. -/
def insert (x : α) (s : SortedSet α) : SortedSet α :=
  ⟨insertAscending x s.toList, pairwise_insertAscending s.ascending⟩

/-- Adds every element of a list. -/
def insertAll (xs : List α) (s : SortedSet α) : SortedSet α :=
  xs.foldl (fun acc x => acc.insert x) s

/-- The set of the elements of a list. -/
def ofList (xs : List α) : SortedSet α := insertAll xs empty

/-- The members of either set. -/
def union (s t : SortedSet α) : SortedSet α := insertAll t.toList s

theorem mem_insert {x a : α} {s : SortedSet α} : a ∈ s.insert x ↔ a = x ∨ a ∈ s :=
  mem_insertAscending

theorem mem_insertAll {xs : List α} {s : SortedSet α} {a : α} :
    a ∈ s.insertAll xs ↔ a ∈ xs ∨ a ∈ s := by
  induction xs generalizing s with
  | nil => simp [insertAll]
  | cons x xs ih =>
    show a ∈ (s.insert x).insertAll xs ↔ _
    rw [ih, mem_insert, List.mem_cons]
    constructor
    · rintro (h | h | h) <;> simp [h]
    · rintro ((h | h) | h) <;> simp [h]

@[simp] theorem mem_ofList {xs : List α} {a : α} : a ∈ ofList xs ↔ a ∈ xs := by
  simp [ofList, mem_insertAll]

theorem mem_union {s t : SortedSet α} {a : α} : a ∈ s.union t ↔ a ∈ s ∨ a ∈ t := by
  rw [union, mem_insertAll, mem_toList, Or.comm]

/-- Two sets with the same members are the same set. -/
theorem ext_mem {s t : SortedSet α} (h : ∀ a, a ∈ s ↔ a ∈ t) : s = t :=
  ext (s.ascending.eq_of_mem_iff t.ascending h)

end SortedSet

/-- A set of names (scopes, datasets, field paths), in the order of their code points. -/
abbrev NameSet := SortedSet String

end RegistryGate
