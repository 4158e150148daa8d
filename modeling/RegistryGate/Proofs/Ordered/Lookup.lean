/-
  Looking up what was put into members, tables and sets.

  The lookup laws of `Members` hold of every list, ascending or not.  What is added here ties lookup
  to membership: a value that is found stands under its name in the list (`mem_of_get?`), and in an
  ascending list the converse holds as well (`get?_eq_some_iff`); ascending lists with the same
  lookups are the same (`ext_get?`).  Putting values under different names may be done in either
  order, in ascending lists and in others (`insert_comm`).  A table that is collected from entries
  holds one of them under each of their names (`get?_ofList_eq_some_iff`); one built by computing a
  value for each of several names is read back by `get?_foldl_insert_map`, whatever the order and the
  repetitions of the names.
-/
import RegistryGate.Ordered.Members
import RegistryGate.Proofs.Fallible

namespace RegistryGate

/-! ## Members -/

namespace Members

variable {α β : Type}

theorem mem_of_get? {name : String} {value : α} {ms : Members α} (h : get? name ms = some value) :
    (name, value) ∈ ms := by
  induction ms with
  | nil => simp at h
  | cons e rest ih =>
    obtain ⟨k, v⟩ := e
    by_cases hk : k = name
    · have hv : v = value := by simpa [get?, hk] using h
      rw [hk, hv]
      exact List.mem_cons_self
    · have htail : get? name rest = some value := by simpa [get?, hk] using h
      exact List.mem_cons_of_mem _ (ih htail)

theorem mem_names_of_get? {name : String} {value : α} {ms : Members α}
    (h : get? name ms = some value) : name ∈ names ms :=
  List.mem_map.mpr ⟨(name, value), mem_of_get? h, rfl⟩

theorem get?_eq_none_of_not_contains {name : String} {ms : Members α}
    (h : ¬ ms.contains name = true) : get? name ms = none :=
  Option.not_isSome_iff_eq_none.mp h

theorem exists_get?_of_mem_names {name : String} {ms : Members α} (h : name ∈ names ms) :
    ∃ value, get? name ms = some value := by
  induction ms with
  | nil => exact absurd h List.not_mem_nil
  | cons e rest ih =>
    obtain ⟨k, v⟩ := e
    by_cases hk : k = name
    · exact ⟨v, if_pos hk⟩
    · rw [get?, if_neg hk]
      rcases List.mem_cons.mp h with heq | hrest
      · exact absurd heq.symm hk
      · exact ih hrest

/-- There is no value under a name exactly when the name is not there. -/
theorem get?_eq_none_iff {name : String} {ms : Members α} :
    get? name ms = none ↔ name ∉ names ms := by
  constructor
  · intro hnone hmem
    obtain ⟨value, hvalue⟩ := exists_get?_of_mem_names hmem
    rw [hnone] at hvalue
    cases hvalue
  · intro habsent
    cases hvalue : get? name ms with
    | none => rfl
    | some value => exact absurd (mem_names_of_get? hvalue) habsent

theorem mem_names_erase {name other : String} {ms : Members α} :
    other ∈ names (erase name ms) ↔ other ≠ name ∧ other ∈ names ms := by
  unfold names erase
  rw [List.mem_map, List.mem_map]
  constructor
  · rintro ⟨entry, hentry, rfl⟩
    obtain ⟨hmem, hne⟩ := List.mem_filter.mp hentry
    exact ⟨bne_iff_ne.mp hne, entry, hmem, rfl⟩
  · rintro ⟨hne, entry, hmem, rfl⟩
    exact ⟨entry, List.mem_filter.mpr ⟨hmem, bne_iff_ne.mpr hne⟩, rfl⟩

/-- Insertion changes exactly one lookup. -/
theorem get?_insert (name other : String) (value : α) (ms : Members α) :
    get? other (insert name value ms) = if other = name then some value else get? other ms := by
  by_cases h : other = name
  · rw [if_pos h, h]
    exact get?_insert_self name value ms
  · rw [if_neg h]
    exact get?_insert_of_ne h value ms

/-- A value under a new name comes between the others, which stay as they are. -/
theorem sublist_insert {name : String} {ms : Members α} (h : name ∉ names ms) (value : α) :
    ms.Sublist (insert name value ms) := by
  induction ms with
  | nil => exact List.nil_sublist _
  | cons e rest ih =>
    obtain ⟨k, v⟩ := e
    obtain ⟨hne, hrest⟩ := not_or.mp fun hmem => h (List.mem_cons.mpr hmem)
    -- the new member stands in front of the first greater one, and before that the others are
    -- passed
    unfold insert
    rw [if_neg (Ne.symm hne)]
    split
    · exact List.sublist_cons_self _ _
    · exact (ih hrest).cons_cons _

theorem get?_of_mem {name : String} {value : α} {ms : Members α} (hs : Sorted ms)
    (h : (name, value) ∈ ms) : get? name ms = some value := by
  induction ms with
  | nil => exact absurd h List.not_mem_nil
  | cons e rest ih =>
    obtain ⟨k, v⟩ := e
    have hcons := List.pairwise_cons.1 (show Ascending (k :: names rest) from hs)
    rcases List.mem_cons.mp h with heq | hrest
    · obtain ⟨rfl, rfl⟩ := Prod.mk.inj heq
      simp [get?]
    · have hlt : compare k name = .lt := hcons.1 name (List.mem_map.mpr ⟨_, hrest, rfl⟩)
      have hne : k ≠ name := by
        intro hkn
        subst hkn
        exact absurd hlt (by simp)
      rw [get?, if_neg hne]
      exact ih hcons.2 hrest

/-- The names of an ascending list are different, so the first one is not found behind it. -/
theorem get?_eq_none_of_sorted {name : String} {value : α} {rest : Members α}
    (h : Sorted ((name, value) :: rest)) : get? name rest = none := by
  cases hget : get? name rest with
  | none => rfl
  | some other =>
    have hbehind := (List.pairwise_cons.1 (show Ascending (name :: names rest) from h)).1
    exact absurd (hbehind name (mem_names_of_get? hget)) (by simp)

/-- Members that stand in order have different names. -/
theorem pairwise_ne_of_sorted {ms : Members α} (h : Sorted ms) :
    ms.Pairwise fun entry other => entry.1 ≠ other.1 := by
  have hnames : ms.Pairwise fun entry other => compare entry.1 other.1 = .lt :=
    List.pairwise_map.mp h
  refine hnames.imp fun hlt heq => ?_
  rw [heq] at hlt
  exact absurd hlt (by simp)

/-- Dropping a value keeps the order. -/
theorem sorted_erase {name : String} {ms : Members α} (h : Sorted ms) : Sorted (erase name ms) :=
  List.Pairwise.sublist (List.filter_sublist.map Prod.fst) h

/-- **Ascending members are determined by their lookups.** -/
theorem ext_get? {xs ys : Members α} (hx : Sorted xs) (hy : Sorted ys)
    (h : ∀ name, get? name xs = get? name ys) : xs = ys := by
  -- on both lists: the first names agree, then the values under them, then the rests
  induction xs generalizing ys with
  | nil =>
    cases ys with
    | nil => rfl
    | cons entry rest =>
      have hfirst := h entry.1
      rw [show get? entry.1 (entry :: rest) = some entry.2 from if_pos rfl] at hfirst
      cases hfirst
  | cons entry rest ih =>
    obtain ⟨name, value⟩ := entry
    -- the names agree as sets, and each list has them in the one ascending order
    have hnames : name :: names rest = names ys := by
      refine Ascending.eq_of_mem_iff hx hy fun other => ?_
      constructor
      · intro hmem
        have hlisted : other ∈ names ((name, value) :: rest) := hmem
        obtain ⟨found, hfound⟩ := exists_get?_of_mem_names hlisted
        exact mem_names_of_get? ((h other).symm.trans hfound)
      · intro hmem
        obtain ⟨found, hfound⟩ := exists_get?_of_mem_names hmem
        exact mem_names_of_get? ((h other).trans hfound)
    cases ys with
    | nil => cases hnames
    | cons entry' rest' =>
      obtain ⟨name', value'⟩ := entry'
      obtain ⟨rfl, -⟩ := List.cons.inj hnames
      have hvalue : some value = some value' := by
        have hfirst := h name
        rwa [get?, get?, if_pos rfl, if_pos rfl] at hfirst
      have hrest : rest = rest' := by
        refine ih (List.pairwise_cons.mp hx).2 (List.pairwise_cons.mp hy).2 fun other => ?_
        by_cases hother : name = other
        · rw [← hother, get?_eq_none_of_sorted hx, get?_eq_none_of_sorted hy]
        · have hbehind := h other
          rwa [get?, get?, if_neg hother, if_neg hother] at hbehind
      rw [Option.some.inj hvalue, hrest]

/-- Of two values that are put under one name the second one stays. -/
theorem insert_insert (name : String) (first second : α) (ms : Members α) :
    insert name second (insert name first ms) = insert name second ms := by
  -- where the first value was put, the second one replaces it
  induction ms with
  | nil => simp [insert]
  | cons e rest ih =>
    obtain ⟨k, v⟩ := e
    by_cases hk : k = name
    · simp [insert, hk]
    · by_cases hlt : compare name k = .lt
      · simp [insert, hk, hlt]
      · simp [insert, hk, hlt, ih]

theorem insert_cons_self (name : String) (value old : α) (rest : Members α) :
    insert name value ((name, old) :: rest) = (name, value) :: rest :=
  if_pos rfl

theorem insert_cons_of_lt {name first : String} (h : compare name first = .lt) (value old : α)
    (rest : Members α) :
    insert name value ((first, old) :: rest) = (name, value) :: (first, old) :: rest := by
  have hne : first ≠ name := fun heq => absurd h (by simp [heq])
  rw [insert, if_neg hne, if_pos h]

theorem insert_cons_of_gt {name first : String} (h : compare first name = .lt) (value old : α)
    (rest : Members α) :
    insert name value ((first, old) :: rest) = (first, old) :: insert name value rest := by
  have hne : first ≠ name := fun heq => absurd h (by simp [heq])
  have hnot : compare name first ≠ .lt := by
    rw [Std.OrientedCmp.gt_of_lt h]
    decide
  rw [insert, if_neg hne, if_neg hnot]

/-- Of two values that are put under different names it does not matter which one comes first.
Where the search passes an entry, both values go past it; otherwise the first of them is put in
front, and the second one still goes past that. -/
theorem insert_comm {name other : String} (h : name ≠ other) (value inner : α) (ms : Members α) :
    insert name value (insert other inner ms) = insert other inner (insert name value ms) := by
  -- it is enough to treat the case that the first name comes before the second one
  suffices hlt : ∀ {name other : String}, compare name other = .lt → ∀ value inner : α,
      insert name value (insert other inner ms) = insert other inner (insert name value ms) by
    cases hc : compare name other with
    | lt => exact hlt hc value inner
    | eq => exact absurd (Std.LawfulEqOrd.eq_of_compare hc) h
    | gt => exact (hlt (Std.OrientedCmp.lt_of_gt hc) inner value).symm
  clear h
  intro name other h value inner
  induction ms with
  | nil =>
    show insert name value [(other, inner)] = insert other inner [(name, value)]
    rw [insert_cons_of_lt h, insert_cons_of_gt h]
    rfl
  | cons entry rest ih =>
    obtain ⟨first, old⟩ := entry
    cases hname : compare name first with
    | lt =>
      rw [insert_cons_of_lt hname, insert_cons_of_gt h]
      cases hother : compare other first with
      | lt => rw [insert_cons_of_lt hother, insert_cons_of_lt h]
      | eq =>
        obtain rfl := Std.LawfulEqOrd.eq_of_compare hother
        rw [insert_cons_self, insert_cons_of_lt h]
      | gt => rw [insert_cons_of_gt (Std.OrientedCmp.lt_of_gt hother), insert_cons_of_lt hname]
    | eq =>
      obtain rfl := Std.LawfulEqOrd.eq_of_compare hname
      rw [insert_cons_of_gt h, insert_cons_self, insert_cons_self, insert_cons_of_gt h]
    | gt =>
      have hfirst : compare first name = .lt := Std.OrientedCmp.lt_of_gt hname
      have hpast : compare first other = .lt := Std.TransCmp.lt_trans hfirst h
      rw [insert_cons_of_gt hpast, insert_cons_of_gt hfirst, insert_cons_of_gt hfirst,
        insert_cons_of_gt hpast, ih]

/-- A function that keeps the names may be applied before a value is put in, or after. -/
theorem map_insert (f : String → α → β) (name : String) (value : α) (ms : Members α) :
    (insert name value ms).map (fun e => (e.1, f e.1 e.2))
      = insert name (f name value) (ms.map fun e => (e.1, f e.1 e.2)) := by
  induction ms with
  | nil => rfl
  | cons e rest ih =>
    obtain ⟨k, v⟩ := e
    by_cases hk : k = name
    · simp [insert, hk]
    · by_cases hlt : compare name k = .lt
      · simp [insert, hk, hlt]
      · simpa [insert, hk, hlt] using ih

/-- A function that keeps the names acts on what is found. -/
theorem get?_map (f : String → α → β) (name : String) (ms : Members α) :
    get? name (ms.map fun e => (e.1, f e.1 e.2)) = (get? name ms).map (f name) := by
  induction ms with
  | nil => rfl
  | cons e rest ih =>
    obtain ⟨k, v⟩ := e
    rw [List.map_cons]
    by_cases hk : k = name
    · subst hk
      simp [get?]
    · simpa [get?, hk] using ih

/-- A function that keeps the names and may fail has succeeded on what is found.  Both lookups end
at the same entry, whose value was computed. -/
theorem get?_mapM {ε : Type} {f : String → α → Except ε β} {ms : Members α} {out : Members β}
    (h : (ms.mapM fun e => (f e.1 e.2).map (e.1, ·)) = .ok out) (name : String) :
    (get? name ms).mapM (f name) = .ok (get? name out) := by
  induction ms generalizing out with
  | nil =>
    cases h
    rfl
  | cons e rest ih =>
    obtain ⟨k, v⟩ := e
    obtain ⟨entry, tail, hentry, htail, rfl⟩ := Fallible.mapM_cons_eq_ok_iff.mp h
    obtain ⟨w, hw, rfl⟩ := Fallible.map_eq_ok_iff.mp hentry
    by_cases hk : k = name
    · subst hk
      rw [get?, get?, if_pos rfl, if_pos rfl, Option.mapM_some, hw]
      rfl
    · rw [get?, get?, if_neg hk, if_neg hk]
      exact ih htail

/-- Collecting a value for each name of a list on top of `acc`: the listed names get theirs, the
others keep what `acc` has. -/
theorem get?_foldl_insert_map (f : String → α) (name : String) (xs : List String)
    (acc : Members α) :
    get? name ((xs.map fun x => (x, f x)).foldl (fun acc e => insert e.1 e.2 acc) acc)
      = if name ∈ xs then some (f name) else get? name acc := by
  induction xs generalizing acc with
  | nil => simp
  | cons x rest ih =>
    rw [List.map_cons, List.foldl_cons, ih, get?_insert]
    by_cases hrest : name ∈ rest
    · simp [hrest]
    · by_cases hx : name = x
      · simp [hx]
      · simp [hrest, hx]

/-- Members of different names that are put in one after the other are found before what was there. -/
theorem get?_foldl_insert {ms : Members α} (h : Sorted ms) (name : String) (acc : Members α) :
    get? name (ms.foldl (fun acc e => insert e.1 e.2 acc) acc)
      = (get? name ms).or (get? name acc) := by
  induction ms generalizing acc with
  | nil => rfl
  | cons e rest ih =>
    obtain ⟨k, v⟩ := e
    have hrest : Sorted rest := (List.pairwise_cons.1 (show Ascending (k :: names rest) from h)).2
    rw [List.foldl_cons, ih hrest, get?_insert]
    -- in an ordered list a name comes once, so the rest does not put in another value
    by_cases hk : name = k
    · subst hk
      rw [if_pos rfl, get?_eq_none_of_sorted h, get?, if_pos rfl]
      rfl
    · rw [if_neg hk, get?, if_neg fun heq => hk heq.symm]

/-- Collecting members that stand in order already changes nothing. -/
theorem ofList_eq_self {ms : Members α} (h : Sorted ms) : ofList ms = ms := by
  refine ext_get? (sorted_ofList ms) h fun name => ?_
  rw [ofList, get?_foldl_insert h, get?_nil, Option.or_none]

end Members

/-! ## Tables -/

namespace Table

variable {α : Type}

theorem get?_eq_some_iff {t : Table α} {name : String} {value : α} :
    t.get? name = some value ↔ (name, value) ∈ t.entries :=
  ⟨Members.mem_of_get?, Members.get?_of_mem t.sorted⟩

/-- What a table holds is among the entries that were collected. -/
theorem mem_of_get?_ofList {entries : List (String × α)} {name : String} {value : α}
    (h : (ofList entries).get? name = some value) : (name, value) ∈ entries := by
  -- what is not collected any more was there before
  suffices hcollect : ∀ acc : Members α,
      Members.get? name (entries.foldl (fun acc e => Members.insert e.1 e.2 acc) acc) = some value →
        (name, value) ∈ entries ∨ Members.get? name acc = some value by
    exact (hcollect [] h).resolve_right (fun hnone => nomatch hnone)
  clear h
  induction entries with
  | nil => exact fun acc h => Or.inr h
  | cons e rest ih =>
    intro acc h
    rcases ih _ h with hrest | hinserted
    · exact Or.inl (List.mem_cons_of_mem e hrest)
    · rw [Members.get?_insert] at hinserted
      split at hinserted
      · rename_i hname
        obtain rfl := Option.some.inj hinserted
        exact Or.inl (hname ▸ List.mem_cons_self)
      · exact Or.inr hinserted

/-- Under the name of a collected entry something is held. -/
theorem exists_get?_ofList {entries : List (String × α)} {name : String} {value : α}
    (h : (name, value) ∈ entries) : ∃ found, (ofList entries).get? name = some found := by
  -- what is there already is replaced, and not lost
  suffices hcollect : ∀ acc : Members α,
      (∃ value, (name, value) ∈ entries) ∨ (∃ found, Members.get? name acc = some found) →
        ∃ found, Members.get? name
          (entries.foldl (fun acc e => Members.insert e.1 e.2 acc) acc) = some found from
    hcollect [] (Or.inl ⟨value, h⟩)
  clear h
  induction entries with
  | nil => exact fun acc h => h.resolve_left fun ⟨_, hmem⟩ => absurd hmem List.not_mem_nil
  | cons e rest ih =>
    intro acc h
    refine ih _ ?_
    rw [Members.get?_insert]
    by_cases hname : name = e.1
    · exact Or.inr ⟨e.2, if_pos hname⟩
    · rw [if_neg hname]
      refine h.imp_left fun ⟨inner, hmem⟩ => ⟨inner, ?_⟩
      rcases List.mem_cons.mp hmem with heq | hrest
      · exact absurd (congrArg Prod.fst heq) hname
      · exact hrest

/-- Where the collected entries of a name agree, their value is held, and nothing else. -/
theorem get?_ofList_eq_some_iff {entries : List (String × α)} {name : String} {value : α}
    (hagree : ∀ first second, (name, first) ∈ entries → (name, second) ∈ entries → first = second) :
    (ofList entries).get? name = some value ↔ (name, value) ∈ entries := by
  refine ⟨mem_of_get?_ofList, fun hmem => ?_⟩
  obtain ⟨found, hfound⟩ := exists_get?_ofList hmem
  rw [hfound, hagree found value (mem_of_get?_ofList hfound) hmem]

/-- A table to which computed values are added holds them under the listed names, each its own, and
what it had before under the others.  A name that is listed more than once is computed to the same
value each time. -/
theorem get?_foldl_insert_map (f : String → α) (name : String) (xs : List String) (acc : Table α) :
    (xs.foldl (fun acc x => acc.insert x (f x)) acc).get? name
      = if name ∈ xs then some (f name) else acc.get? name := by
  induction xs generalizing acc with
  | nil => simp
  | cons x rest ih =>
    rw [List.foldl_cons, ih]
    by_cases hrest : name ∈ rest
    · simp [hrest]
    · by_cases hx : name = x
      · subst hx
        simp [hrest, get?_insert_self]
      · simp [hrest, hx, get?_insert_of_ne]

end Table

/-! ## Sets -/

namespace SortedSet

theorem contains_iff {α : Type} [Ord α] [BEq α] [LawfulBEq α] {s : SortedSet α} {a : α} :
    s.contains a = true ↔ a ∈ s :=
  List.contains_iff_mem

theorem isEmpty_iff {α : Type} [Ord α] {s : SortedSet α} :
    s.isEmpty = true ↔ ∀ a, ¬ a ∈ s := by
  show s.toList.isEmpty = true ↔ ∀ a, ¬ a ∈ s.toList
  rw [List.isEmpty_iff, List.eq_nil_iff_forall_not_mem]

theorem mem_singleton {α : Type} [Ord α] {a b : α} : a ∈ singleton b ↔ a = b :=
  List.mem_singleton

end SortedSet

end RegistryGate
