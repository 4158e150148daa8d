/-
  What the cutting of texts means in terms of putting texts together.

  A text starts with another one when something can be put behind that one to get it
  (`startsWith_iff`); what is cut off its start or its end can be put back
  (`stripPrefix?_eq_some_iff`, `stripSuffix?_eq_some_iff`); the parts between separators hold none
  (`not_mem_of_mem_splitOn`), and parts that hold none are cut apart where they were joined
  (`splitOn_joinWith`); and the two texts around the last separator are the only two that give the
  text back with no separator in the second (`splitLast?_eq_some_iff`).
-/
import Mathlib.Data.List.TakeDrop
import RegistryGate.Text.Split

namespace RegistryGate.Text

/-! ## Prefixes and suffixes of lists -/

/-- What is left when a list is taken off the front is what stands behind that list. -/
theorem isPrefixOf?_eq_some_iff {α : Type} [BEq α] [LawfulBEq α] {xs ys rest : List α} :
    xs.isPrefixOf? ys = some rest ↔ ys = xs ++ rest := by
  induction xs generalizing ys with
  | nil =>
    show some ys = some rest ↔ ys = rest
    rw [Option.some_inj]
  | cons x xs ih =>
    cases ys with
    | nil =>
      show none = some rest ↔ [] = x :: (xs ++ rest)
      exact iff_of_false (fun h => nomatch h) (fun h => nomatch h)
    | cons y ys =>
      show (if x == y then xs.isPrefixOf? ys else none) = some rest ↔ y :: ys = x :: (xs ++ rest)
      by_cases h : x = y
      · subst h
        rw [if_pos (beq_self_eq_true x), ih, List.cons.injEq, eq_self, true_and]
      · have hne : ¬ (x == y) = true := fun hbeq => h (eq_of_beq hbeq)
        rw [if_neg hne]
        exact iff_of_false (fun hsome => nomatch hsome) fun hcons =>
          h (List.cons.inj hcons).1.symm

theorem isSuffixOf?_eq_some_iff {α : Type} [BEq α] [LawfulBEq α] {xs ys start : List α} :
    xs.isSuffixOf? ys = some start ↔ ys = start ++ xs := by
  unfold List.isSuffixOf?
  rw [Option.map_eq_some_iff]
  -- taking off the end is taking off the front of the reversed list
  constructor
  · rintro ⟨rest, hrest, rfl⟩
    have h : ys.reverse = xs.reverse ++ rest := isPrefixOf?_eq_some_iff.mp hrest
    have := congrArg List.reverse h
    simpa using this
  · intro h
    refine ⟨start.reverse, isPrefixOf?_eq_some_iff.mpr ?_, List.reverse_reverse start⟩
    rw [h, List.reverse_append]

/-! ## Prefixes and suffixes of texts -/

theorem append_eq_iff {s start rest : String} :
    s = start ++ rest ↔ s.toList = start.toList ++ rest.toList := by
  rw [← String.toList_append, String.toList_inj]

theorem startsWith_iff {start s : String} :
    startsWith start s = true ↔ ∃ rest, s = start ++ rest := by
  unfold startsWith
  rw [List.isPrefixOf_iff_prefix]
  constructor
  · rintro ⟨rest, hrest⟩
    refine ⟨String.ofList rest, append_eq_iff.mpr ?_⟩
    rw [String.toList_ofList, hrest]
  · rintro ⟨rest, hrest⟩
    exact ⟨rest.toList, (append_eq_iff.mp hrest).symm⟩

theorem stripPrefix?_eq_some_iff {start s rest : String} :
    stripPrefix? start s = some rest ↔ s = start ++ rest := by
  unfold stripPrefix?
  rw [Option.map_eq_some_iff, append_eq_iff]
  constructor
  · rintro ⟨cs, hcs, rfl⟩
    rw [String.toList_ofList]
    exact isPrefixOf?_eq_some_iff.mp hcs
  · intro h
    exact ⟨rest.toList, isPrefixOf?_eq_some_iff.mpr h, String.ofList_toList⟩

/-- Of two beginnings of one text one begins the other. -/
theorem startsWith_or_of_append_eq {first second rest rest' : String}
    (h : first ++ rest = second ++ rest') :
    startsWith first second = true ∨ startsWith second first = true := by
  have hchars : first.toList ++ rest.toList = second.toList ++ rest'.toList := by
    rw [← String.toList_append, h, String.toList_append]
  unfold startsWith
  rw [List.isPrefixOf_iff_prefix, List.isPrefixOf_iff_prefix]
  have hprefix : first.toList <+: second.toList ++ rest'.toList := ⟨rest.toList, hchars⟩
  exact List.prefix_or_prefix_of_prefix hprefix (List.prefix_append second.toList rest'.toList)

theorem stripSuffix?_eq_some_iff {ending s start : String} :
    stripSuffix? ending s = some start ↔ s = start ++ ending := by
  unfold stripSuffix?
  rw [Option.map_eq_some_iff, append_eq_iff]
  constructor
  · rintro ⟨cs, hcs, rfl⟩
    rw [String.toList_ofList]
    exact isSuffixOf?_eq_some_iff.mp hcs
  · intro h
    exact ⟨start.toList, isSuffixOf?_eq_some_iff.mpr h, String.ofList_toList⟩

/-! ## Parts -/

/-- No part of a list holds what it was cut at. -/
theorem not_mem_of_mem_listSplitOn {α : Type} [BEq α] [LawfulBEq α] {sep : α} {xs part : List α}
    (h : part ∈ xs.splitOn sep) : sep ∉ part := by
  -- at a separator a new part is begun, any other element goes in front of the first part
  induction xs generalizing part with
  | nil =>
    rw [List.splitOn_nil] at h
    obtain rfl := List.mem_singleton.mp h
    exact List.not_mem_nil
  | cons x xs ih =>
    rw [List.splitOn_cons_eq_if_modifyHead] at h
    split at h
    · rcases List.mem_cons.mp h with rfl | hrest
      · exact List.not_mem_nil
      · exact ih hrest
    · rename_i hne
      -- the first part gets one more element in front, which is not the separator
      cases hparts : xs.splitOn sep with
      | nil => exact absurd hparts (List.splitOn_ne_nil sep xs)
      | cons first rest =>
        rw [hparts, List.modifyHead_cons] at h
        rcases List.mem_cons.mp h with rfl | hrest
        · have hfirst : sep ∉ first := ih (hparts ▸ List.mem_cons_self)
          rw [List.mem_cons, not_or]
          exact ⟨fun heq => hne (heq ▸ beq_self_eq_true sep), hfirst⟩
        · exact ih (hparts ▸ List.mem_cons_of_mem first hrest)

/-- No part of a text holds the separator. -/
theorem not_mem_of_mem_splitOn {sep : Char} {s part : String} (h : part ∈ splitOn sep s) :
    sep ∉ part.toList := by
  obtain ⟨cs, hcs, rfl⟩ := List.mem_map.mp h
  rw [String.toList_ofList]
  exact not_mem_of_mem_listSplitOn hcs

/-- Parts without the separator are cut apart where they were joined. -/
theorem splitOn_joinWith {sep : Char} {parts : List String} (hne : parts ≠ [])
    (h : ∀ part ∈ parts, sep ∉ part.toList) :
    splitOn sep (joinWith (String.singleton sep) parts) = parts := by
  have hnosep : ∀ cs ∈ parts.map String.toList, sep ∉ cs := List.forall_mem_map.mpr h
  have hsame : String.ofList ∘ String.toList = id := funext fun _ => String.ofList_toList
  rw [splitOn, joinWith, String.toList_intercalate, String.toList_singleton,
    List.splitOn_intercalate sep hnosep (by simpa using hne), List.map_map, hsame, List.map_id]

/-! ## Joined texts -/

theorem joinWith_singleton {sep part : String} : joinWith sep [part] = part :=
  String.intercalate_singleton

theorem joinWith_cons_cons {sep part next : String} {more : List String} :
    joinWith sep (part :: next :: more) = part ++ sep ++ joinWith sep (next :: more) :=
  String.intercalate_cons_cons

/-! ## The last separator -/

/-- **The last separator.**  The two texts around it are the ones that give the text back, the
second without a separator. -/
theorem splitLast?_eq_some_iff {sep : Char} {s before after : String} :
    splitLast? sep s = some (before, after) ↔
      s = before ++ String.singleton sep ++ after ∧ sep ∉ after.toList := by
  unfold splitLast?
  rw [List.span_eq_takeWhile_dropWhile, append_eq_iff, String.toList_append]
  have hcut := List.takeWhile_append_dropWhile (p := (· != sep)) (l := s.toList.reverse)
  constructor
  · intro h
    -- the separator heads what is left of the reversed text
    cases hdrop : s.toList.reverse.dropWhile (· != sep) with
    | nil => simp [hdrop] at h
    | cons c rest =>
      have hc : c = sep := by
        have := List.head?_dropWhile_not (· != sep) s.toList.reverse
        simpa [hdrop] using this
      rw [hdrop] at h hcut
      obtain ⟨rfl, rfl⟩ : String.ofList rest.reverse = before ∧
          String.ofList (s.toList.reverse.takeWhile (· != sep)).reverse = after := by
        simpa using h
      constructor
      · have := congrArg List.reverse hcut
        simpa [hc] using this.symm
      · intro hmem
        have hall := List.all_eq_true.mp
          (List.all_takeWhile (p := (· != sep)) (l := s.toList.reverse)) sep (by simpa using hmem)
        simp at hall
  · rintro ⟨hs, hafter⟩
    -- read backwards, the text behind comes first, and then the separator
    have hrev : s.toList.reverse = after.toList.reverse ++ sep :: before.toList.reverse := by
      rw [hs]
      simp
    have hall : ∀ c ∈ after.toList.reverse, (c != sep) = true := by
      intro c hc
      have hne : c ≠ sep := fun e => hafter (e ▸ List.mem_reverse.mp hc)
      simpa using hne
    rw [hrev, List.takeWhile_append_of_pos hall, List.dropWhile_append_of_pos hall]
    simp

end RegistryGate.Text
