/-
  Which texts are texts of numbers.

  A policy looks a value up by its text, so a number passes for a text that reads like it.  How far
  that goes is settled here: a double always has a point or an `e` in its text and a negative
  integer a sign, so a text of digits belongs to a natural number (`eq_integer_of_text_digits`), and
  it is the canonical one, which reads back (`toDigits_of_text_digits`).  A text of digits that
  is not written canonically, such as `0363`, is the text of no number at all.
-/
import RegistryGate.Json.Basic

namespace RegistryGate

namespace Decimal

/-! ## Doubles -/

theorem point_mem_plainText (d : Decimal) : '.' ∈ d.plainText.toList := by
  unfold plainText
  dsimp only
  split
  · simp
  · split <;> simp

theorem mark_mem_scientificText (style : DecimalStyle) (d : Decimal) (lead : Int) :
    'e' ∈ (d.scientificText style lead).toList := by
  unfold scientificText
  simp

/-- The text of a decimal number is never made of digits alone. -/
theorem exists_not_isDigit_text (style : DecimalStyle) (d : Decimal) :
    ∃ c ∈ (d.text style).toList, c.isDigit = false := by
  unfold text
  dsimp only
  split
  · exact ⟨'.', point_mem_plainText d, rfl⟩
  · exact ⟨'e', mark_mem_scientificText style d _, rfl⟩

end Decimal

namespace Number

/-! ## Integers -/

/-- Only natural numbers have a text of digits. -/
theorem eq_integer_of_text_digits {n : Number} (h : ∀ c ∈ n.text.toList, c.isDigit = true) :
    ∃ k : Nat, n = .integer k ∧ n.text.toList = Nat.toDigits 10 k := by
  cases n with
  | integer value =>
    have htext : (Number.integer value).text = value.repr := Int.toString_eq_repr
    rw [htext, Int.repr_eq_if] at h
    by_cases hsign : 0 ≤ value
    · refine ⟨value.toNat, by rw [Int.toNat_of_nonneg hsign], ?_⟩
      rw [htext, Int.repr_eq_if, if_pos hsign, Nat.toList_repr]
    · -- a sign is no digit
      rw [if_neg hsign] at h
      exact absurd (h '-' (by simp)) (by decide)
  | real value =>
    -- a double has a point or an exponent mark, neither of which is a digit
    obtain ⟨c, hc, hdigit⟩ := Decimal.exists_not_isDigit_text style (Decimal.shortest value)
    have hmem : c ∈ (Number.real value).text.toList := by
      show c ∈ (_ ++ _ : String).toList
      rw [String.toList_append]
      exact List.mem_append_right _ hc
    rw [h c hmem] at hdigit
    cases hdigit

/-- **A text of digits is read off canonically.**  If it is the text of a number, then it is the
text of the natural number that its digits stand for. -/
theorem toDigits_of_text_digits {n : Number} (h : ∀ c ∈ n.text.toList, c.isDigit = true) :
    n.text.toList = Nat.toDigits 10 (Nat.ofDigitChars 10 n.text.toList 0) := by
  obtain ⟨k, -, htext⟩ := eq_integer_of_text_digits h
  have hback : Nat.ofDigitChars 10 n.text.toList 0 = k := by
    rw [htext, Nat.ofDigitChars_ten_toDigits]
  rw [hback, htext]

/-- A text of digits that is not canonical is the text of no number. -/
theorem text_ne_of_digits {s : String} (hdigits : ∀ c ∈ s.toList, c.isDigit = true)
    (hcanonical : s.toList ≠ Nat.toDigits 10 (Nat.ofDigitChars 10 s.toList 0)) (n : Number) :
    n.text ≠ s := by
  intro h
  subst h
  exact hcanonical (toDigits_of_text_digits hdigits)

end Number

end RegistryGate
