/-
  White space, as Unicode's property White_Space has it, and trimming.

  Keys, field-list lines, correlation ids and settings are trimmed before they are judged, so what
  counts as white space decides which inputs are accepted.  The class is a table of the property's
  twenty-five characters; `isBlank_of_isWhitespace` ties it to core's smaller class.
-/

namespace RegistryGate.Text

/-- The characters with the property White_Space, as inclusive ranges of code points. -/
def blankRanges : List (Nat × Nat) :=
  [(0x9, 0xD), (0x20, 0x20), (0x85, 0x85), (0xA0, 0xA0), (0x1680, 0x1680), (0x2000, 0x200A),
   (0x2028, 0x2029), (0x202F, 0x202F), (0x205F, 0x205F), (0x3000, 0x3000)]

/-- Holds of a character with the property White_Space. -/
def isBlank (c : Char) : Bool :=
  blankRanges.any fun r => decide (r.1 ≤ c.toNat) && decide (c.toNat ≤ r.2)

theorem isBlank_of_isWhitespace {c : Char} (h : c.isWhitespace = true) : isBlank c = true := by
  simp only [Char.isWhitespace, Bool.or_eq_true, decide_eq_true_eq] at h
  rcases h with ((rfl | rfl) | rfl) | rfl <;> decide

/-- The characters without the white space before the first and after the last other one. -/
def trimChars (cs : List Char) : List Char :=
  ((cs.dropWhile isBlank).reverse.dropWhile isBlank).reverse

/-- A text without white space at either end. -/
def trim (s : String) : String := String.ofList (trimChars s.toList)

/-- Holds of a text that is empty or white space throughout. -/
def isBlankText (s : String) : Bool := s.toList.all isBlank

/-- The words of a text: its longest stretches without white space. -/
def words (s : String) : List String :=
  ((s.toList.splitOnP isBlank).filter fun cs => !cs.isEmpty).map String.ofList

end RegistryGate.Text
