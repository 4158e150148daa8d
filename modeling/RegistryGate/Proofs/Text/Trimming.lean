/-
  What trimming takes off a text.

  White space around a text does not count (`trim_surrounded`), a text of white space is trimmed to
  nothing (`trim_of_isBlankText`), and a text that neither starts nor ends with white space is left
  as it is (`trim_eq_self`); what it starts with, if that is not white space, stays in any case
  (`exists_trim_append`).  In the same way a character is taken off the end as often as it stands
  there (`trimEnd_append_replicate`), and no further (`trimEnd_eq_self`).
-/
import Mathlib.Data.List.TakeWhile
import RegistryGate.Text.Blank
import RegistryGate.Text.Split

namespace RegistryGate.Text

/-! ## White space -/

/-- Nothing is dropped from the front of a list whose first character is not white space. -/
theorem dropWhile_isBlank_eq_self {cs : List Char} (h : cs.head?.all (!isBlank ·) = true) :
    cs.dropWhile isBlank = cs := by
  cases cs with
  | nil => rfl
  | cons c cs =>
    have hc : isBlank c = false := by simpa using h
    exact List.dropWhile_cons_of_neg (by rw [hc]; exact Bool.false_ne_true)

/-- Nothing is trimmed off a text that has no white space at its ends. -/
theorem trim_eq_self {s : String} (hstart : s.toList.head?.all (!isBlank ·) = true)
    (hend : s.toList.getLast?.all (!isBlank ·) = true) : trim s = s := by
  rw [trim, trimChars, dropWhile_isBlank_eq_self hstart,
    dropWhile_isBlank_eq_self (by rwa [List.head?_reverse]), List.reverse_reverse,
    String.ofList_toList]

/-- Nothing is trimmed off a text that has no white space at all. -/
theorem trim_eq_self_of_forall {s : String} (h : ∀ c ∈ s.toList, isBlank c = false) :
    trim s = s := by
  have hends : ∀ edge : Option Char, (∀ c ∈ edge, c ∈ s.toList) →
      edge.all (!isBlank ·) = true := by
    rintro (_ | c) hmem
    · rfl
    · show (!isBlank c) = true
      rw [h c (hmem c rfl)]
      rfl
  exact trim_eq_self (hends _ fun c hc => List.mem_of_mem_head? hc)
    (hends _ fun c hc => List.mem_of_mem_getLast? hc)

/-- White space before and behind characters does not count. -/
theorem trimChars_surrounded {before cs after : List Char}
    (hbefore : ∀ c ∈ before, isBlank c = true) (hafter : ∀ c ∈ after, isBlank c = true) :
    trimChars (before ++ cs ++ after) = trimChars cs := by
  unfold trimChars
  rw [List.append_assoc, List.dropWhile_append_of_pos hbefore, List.dropWhile_append]
  split
  · rename_i hempty
    rw [List.isEmpty_iff.mp hempty, List.dropWhile_eq_nil_iff.mpr hafter]
  · -- the white space behind comes first when the characters are reversed
    rw [List.reverse_append,
      List.dropWhile_append_of_pos fun c hc => hafter c (List.mem_reverse.mp hc)]

/-- **White space around a text does not count.** -/
theorem trim_surrounded {before after : String} (s : String)
    (hbefore : isBlankText before = true) (hafter : isBlankText after = true) :
    trim (before ++ s ++ after) = trim s := by
  rw [trim, trim, String.toList_append, String.toList_append,
    trimChars_surrounded (List.all_eq_true.mp hbefore) (List.all_eq_true.mp hafter)]

/-- The characters of ASCII that are printed, other than the space, are not white space. -/
theorem isBlank_of_visible {c : Char} (hlow : 0x20 < c.toNat) (hhigh : c.toNat < 0x7F) :
    isBlank c = false := by
  simp only [isBlank, blankRanges, List.any_cons, List.any_nil, Bool.or_false, Bool.or_eq_false_iff,
    Bool.and_eq_false_iff, decide_eq_false_iff_not]
  omega

/-- A character that is not white space stays in front. -/
theorem exists_trim_append {c : Char} (h : isBlank c = false) (s : String) :
    ∃ rest, trim (String.singleton c ++ s) = String.singleton c ++ rest := by
  have hc : ¬ isBlank c = true := by rw [h]; exact Bool.false_ne_true
  have hchars : ∃ rest, trimChars (c :: s.toList) = c :: rest := by
    rw [trimChars, List.dropWhile_cons_of_neg hc, List.reverse_cons, List.dropWhile_append]
    split
    · exact ⟨[], by rw [List.dropWhile_cons_of_neg hc]; rfl⟩
    · exact ⟨(s.toList.reverse.dropWhile isBlank).reverse, by rw [List.reverse_append]; rfl⟩
  obtain ⟨rest, hrest⟩ := hchars
  refine ⟨String.ofList rest, String.toList_inj.mp ?_⟩
  rw [trim, String.toList_ofList, String.toList_append, String.toList_append, String.toList_singleton,
    String.toList_ofList]
  exact hrest

theorem trim_of_isBlankText {s : String} (h : isBlankText s = true) : trim s = "" := by
  have hnone := trim_surrounded "" h (show isBlankText "" = true from rfl)
  rwa [String.append_empty, String.append_empty] at hnone

/-! ## One character -/

/-- A character is taken off the end as often as it stands there. -/
theorem trimEnd_append_replicate (c : Char) (s : String) (n : Nat) :
    trimEnd c (s ++ String.ofList (List.replicate n c)) = trimEnd c s := by
  have hall : ∀ d ∈ (List.replicate n c).reverse, decide (d = c) = true := by
    intro d hd
    exact decide_eq_true (List.eq_of_mem_replicate (List.mem_reverse.mp hd))
  rw [trimEnd, trimEnd, String.toList_append, String.toList_ofList, List.reverse_append,
    List.dropWhile_append_of_pos hall]

/-- Nothing is taken off a text without the character. -/
theorem trimEnd_eq_self {c : Char} {s : String} (h : c ∉ s.toList) : trimEnd c s = s := by
  have hkept : s.toList.reverse.dropWhile (· = c) = s.toList.reverse := by
    cases hchars : s.toList.reverse with
    | nil => rfl
    | cons d rest =>
      have hd : d ∈ s.toList := List.mem_reverse.mp (hchars ▸ List.mem_cons_self)
      exact List.dropWhile_cons_of_neg fun heq => h (of_decide_eq_true heq ▸ hd)
  rw [trimEnd, hkept, List.reverse_reverse, String.ofList_toList]

end RegistryGate.Text
