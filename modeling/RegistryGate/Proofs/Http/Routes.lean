/-
  Paths without names in braces.

  A pattern that has no braces fits its own text and nothing else (`fits_plain_iff`), and no such
  pattern says more than another one that fits the same path.  So among patterns without braces a
  path is looked up as it is (`route?_of_plain`).
-/
import RegistryGate.Http.Route

namespace RegistryGate.Http

namespace RoutePart

/-- Holds of the characters that stand for themselves in a pattern. -/
def isPlain (c : Char) : Bool := c != '{' && c != '}'

/-- A pattern without braces stands for its characters. -/
theorem ofPattern_of_plain {cs : List Char} (h : cs.all isPlain = true) :
    ofPattern cs = cs.map char := by
  -- character by character, of which none opens or closes a variable
  induction cs with
  | nil => rw [ofPattern, List.map_nil]
  | cons c cs ih =>
    obtain ⟨hc, hcs⟩ := Bool.and_eq_true_iff.mp (List.all_cons ▸ h)
    obtain ⟨hopen, hclose⟩ : c ≠ '{' ∧ c ≠ '}' := by simpa [isPlain] using hc
    rw [ofPattern, ih hcs, List.map_cons]
    · exact fun _ h => absurd h hopen
    · exact fun _ h => absurd h hclose
    · exact fun _ h => absurd h hopen
    · exact hopen

/-- Characters fit only themselves. -/
theorem fits_chars_iff {cs path : List Char} : fits (cs.map char) path = true ↔ path = cs := by
  induction cs generalizing path with
  | nil => exact List.isEmpty_iff
  | cons c cs ih =>
    cases path with
    | nil => exact iff_of_false (fun h => nomatch h) fun h => nomatch h
    | cons d path =>
      show (c == d && fits (cs.map char) path) = true ↔ _
      rw [Bool.and_eq_true, beq_iff_eq, ih, List.cons.injEq, eq_comm]

theorem precedes_self (parts : List RoutePart) : precedes parts parts = false := by
  induction parts with
  | nil => rfl
  | cons part parts ih =>
    rw [precedes, if_pos rfl]
    exact ih

/-- So a pattern without braces fits its own text alone. -/
theorem fits_plain_iff {pattern path : String} (h : pattern.toList.all isPlain = true) :
    fits (ofPattern pattern.toList) path.toList = true ↔ pattern = path := by
  rw [ofPattern_of_plain h, fits_chars_iff, String.toList_inj, eq_comm]

end RoutePart

/-- **Among patterns without braces a path is looked up as it is.** -/
theorem route?_of_plain {patterns : List String} {path : String}
    (hplain : ∀ pattern ∈ patterns, pattern.toList.all RoutePart.isPlain = true) :
    route? patterns path = if path ∈ patterns then some path else none := by
  have hfitting : (patterns.filter fun pattern =>
      RoutePart.fits (RoutePart.ofPattern pattern.toList) path.toList)
      = patterns.filter (· == path) := by
    refine List.filter_congr fun pattern hmem => Bool.eq_iff_iff.mpr ?_
    rw [RoutePart.fits_plain_iff (hplain pattern hmem), beq_iff_eq]
  -- what is left are copies of the path, and none precedes itself
  have hfirst : ((List.replicate (patterns.count path) path).all fun other =>
      !RoutePart.precedes (RoutePart.ofPattern other.toList) (RoutePart.ofPattern path.toList))
      = true := by
    refine List.all_eq_true.mpr fun other hmem => ?_
    rw [List.eq_of_mem_replicate hmem, RoutePart.precedes_self]
    rfl
  unfold route?
  dsimp only
  rw [hfitting, List.filter_beq, List.find?_replicate, if_pos hfirst]
  by_cases hmem : path ∈ patterns
  · rw [if_pos hmem, if_neg (Nat.ne_of_gt (List.count_pos_iff.mpr hmem))]
  · rw [if_neg hmem, if_pos (List.count_eq_zero.mpr hmem)]

end RegistryGate.Http
