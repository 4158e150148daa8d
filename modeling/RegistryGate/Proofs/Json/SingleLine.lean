/-
  A written document stays within its line.

  In the text of a value every control character below the space is escaped, in names and in texts
  and at every depth, and nothing else that is written is one (`staysInLine_chars`).  In UTF-8 such a
  text has no byte below that of the space, since the bytes of longer characters are all great
  (`le_of_mem_encode`).  So a written value has no line feed and no carriage return in it, neither as
  a character nor as a byte.
-/
import RegistryGate.Json.Printer
import RegistryGate.Proofs.Json.Induction
import RegistryGate.Proofs.Text.ByteOrder

namespace RegistryGate

/-! ## Characters and bytes -/

namespace Text

/-- Holds of characters that do not end or disturb a line: none is a control character below the
space. -/
def StaysInLine (cs : List Char) : Prop := ∀ c ∈ cs, 32 ≤ c.toNat

instance (cs : List Char) : Decidable (StaysInLine cs) :=
  List.decidableBAll (fun c : Char => 32 ≤ c.toNat) cs

theorem staysInLine_nil : StaysInLine [] := List.forall_mem_nil _

theorem staysInLine_cons {c : Char} {cs : List Char} :
    StaysInLine (c :: cs) ↔ 32 ≤ c.toNat ∧ StaysInLine cs := List.forall_mem_cons

theorem staysInLine_append {cs ds : List Char} :
    StaysInLine (cs ++ ds) ↔ StaysInLine cs ∧ StaysInLine ds := List.forall_mem_append

theorem StaysInLine.of_isDigit {cs : List Char} (h : ∀ c ∈ cs, c.isDigit = true) :
    StaysInLine cs := by
  intro c hc
  have hdigit := h c hc
  simp only [Char.isDigit, Bool.and_eq_true, decide_eq_true_eq] at hdigit
  have hlow : 48 ≤ c.toNat := hdigit.1
  omega

/-- No byte of a character is below that of the space, unless the character itself is. -/
theorem Utf8.le_of_mem_utf8EncodeChar {c : Char} (h : 32 ≤ c.toNat) {b : UInt8}
    (hb : b ∈ String.utf8EncodeChar c) : 32 ≤ b := by
  have hvalue : 32 ≤ c.val.toNat := h
  -- one byte is the character itself; in longer encodings every byte is at least 128
  have hmax : c.val.toNat < 0x110000 := by
    rcases c.valid with hlow | hhigh <;> omega
  have hbyte {n : Nat} (hlow : 32 ≤ n) (hhigh : n < 256) : 32 ≤ UInt8.ofNat n := by
    rw [UInt8.le_iff_toNat_le, UInt8.toNat_ofNat_of_lt' hhigh]
    exact hlow
  unfold String.utf8EncodeChar at hb
  generalize c.val.toNat = v at *
  dsimp only at hb
  split at hb
  · obtain rfl := List.mem_singleton.mp hb
    exact hbyte hvalue (by omega)
  -- every byte of a longer character has its highest bit set
  · split at hb
    · simp only [List.mem_cons, List.not_mem_nil, or_false] at hb
      rcases hb with rfl | rfl <;> exact hbyte (by omega) (by omega)
    · split at hb
      · simp only [List.mem_cons, List.not_mem_nil, or_false] at hb
        rcases hb with rfl | rfl | rfl <;> exact hbyte (by omega) (by omega)
      · simp only [List.mem_cons, List.not_mem_nil, or_false] at hb
        rcases hb with rfl | rfl | rfl | rfl <;> exact hbyte (by omega) (by omega)

theorem Utf8.le_of_mem_encode {s : String} (h : StaysInLine s.toList) {b : UInt8}
    (hb : b ∈ Utf8.encode s) : 32 ≤ b := by
  rw [Utf8.encode_eq_flatMap] at hb
  obtain ⟨c, hc, hbyte⟩ := List.mem_flatMap.mp hb
  exact Utf8.le_of_mem_utf8EncodeChar (h c hc) hbyte

end Text

open Text (StaysInLine staysInLine_append staysInLine_cons staysInLine_nil)

/-! ## Numbers -/

theorem staysInLine_natRepr (n : Nat) : StaysInLine (toString n).toList := by
  refine .of_isDigit fun c hc => ?_
  rw [Nat.toString_eq_repr, Nat.toList_repr] at hc
  exact Nat.isDigit_of_mem_toDigits (by decide) (by decide) hc

theorem staysInLine_intRepr (n : Int) : StaysInLine (toString n).toList := by
  rw [Int.toString_eq_repr, Int.repr_eq_if]
  split
  · exact staysInLine_natRepr _
  · rw [String.toList_append]
    exact staysInLine_append.mpr ⟨by decide, staysInLine_natRepr _⟩

namespace Decimal

theorem staysInLine_zeros (n : Nat) : StaysInLine (zeros n).toList := by
  rw [zeros, String.toList_ofList]
  intro c hc
  rw [List.eq_of_mem_replicate hc]
  decide

theorem staysInLine_plainText (d : Decimal) : StaysInLine d.plainText.toList := by
  have hdigits := staysInLine_natRepr d.digits
  unfold plainText
  dsimp only
  split
  · -- the point goes behind all digits, before all of them or between two
    simp only [String.toList_append, staysInLine_append]
    exact ⟨⟨hdigits, staysInLine_zeros _⟩, by decide⟩
  · split
    · simp only [String.toList_append, staysInLine_append]
      exact ⟨⟨by decide, staysInLine_zeros _⟩, hdigits⟩
    · simp only [String.toList_append, String.toList_ofList, staysInLine_append]
      exact ⟨⟨fun c hc => hdigits c (List.mem_of_mem_take hc), by decide⟩,
        fun c hc => hdigits c (List.mem_of_mem_drop hc)⟩

theorem staysInLine_scientificText {style : DecimalStyle}
    (hsign : StaysInLine style.exponentSign.toList) (d : Decimal) (lead : Int) :
    StaysInLine (d.scientificText style lead).toList := by
  have hdigits := staysInLine_natRepr d.digits
  unfold scientificText
  simp only [String.toList_append, staysInLine_append]
  refine ⟨⟨?_, by decide⟩, ?_⟩
  · split
    · exact staysInLine_nil
    · rename_i c hchars
      rw [hchars] at hdigits
      rwa [String.toList_singleton]
    · rename_i c rest _ hchars
      rw [hchars] at hdigits
      simp only [String.toList_append, String.toList_ofList, String.toList_singleton,
        staysInLine_append]
      obtain ⟨hfirst, hrest⟩ := staysInLine_cons.mp hdigits
      exact ⟨⟨staysInLine_cons.mpr ⟨hfirst, staysInLine_nil⟩, by decide⟩, hrest⟩
  · split
    · exact staysInLine_intRepr lead
    · rw [String.toList_append]
      exact staysInLine_append.mpr ⟨hsign, staysInLine_intRepr lead⟩

end Decimal

theorem Number.staysInLine_text (n : Number) : StaysInLine n.text.toList := by
  cases n with
  | integer value => exact staysInLine_intRepr value
  | real value =>
    show StaysInLine (_ ++ _ : String).toList
    rw [String.toList_append]
    refine staysInLine_append.mpr ⟨by split <;> decide, ?_⟩
    unfold Decimal.text
    dsimp only
    split
    · exact Decimal.staysInLine_plainText _
    · exact Decimal.staysInLine_scientificText (by decide) _ _

namespace Json

/-! ## Texts -/

/-- A character is written as itself only where it stays in its line. -/
theorem staysInLine_escapeChar (c : Char) : StaysInLine (escapeChar c) := by
  -- the 32 control characters are looked at one by one
  by_cases hcontrol : c.toNat < 32
  · rw [← Char.ofNat_toNat c]
    exact (by decide : ∀ n < 32, StaysInLine (escapeChar (Char.ofNat n))) c.toNat hcontrol
  · unfold escapeChar
    split
    · decide
    · split
      · decide
      · exact staysInLine_cons.mpr ⟨Nat.le_of_not_lt hcontrol, staysInLine_nil⟩

theorem staysInLine_quote (text : String) : StaysInLine (quote text) := by
  refine staysInLine_cons.mpr ⟨by decide, staysInLine_append.mpr ⟨?_, by decide⟩⟩
  intro c hc
  obtain ⟨d, -, hd⟩ := List.mem_flatMap.mp hc
  exact staysInLine_escapeChar d c hd

/-! ## Values -/

theorem staysInLine_charsOfItems : ∀ {items : List Json},
    (∀ item ∈ items, StaysInLine (chars item)) → StaysInLine (charsOfItems items)
  | [], _ => staysInLine_nil
  | [item], h => h item List.mem_cons_self
  | item :: next :: rest, h => by
    obtain ⟨hitem, hrest⟩ := List.forall_mem_cons.mp h
    exact staysInLine_append.mpr
      ⟨hitem, staysInLine_cons.mpr ⟨by decide, staysInLine_charsOfItems hrest⟩⟩

theorem staysInLine_charsOfMembers : ∀ {members : List (String × Json)},
    (∀ member ∈ members, StaysInLine (chars member.2)) → StaysInLine (charsOfMembers members)
  | [], _ => staysInLine_nil
  | [(name, value)], h => staysInLine_append.mpr ⟨staysInLine_quote name,
      staysInLine_cons.mpr ⟨by decide, h (name, value) List.mem_cons_self⟩⟩
  | (name, value) :: next :: rest, h => by
    obtain ⟨hvalue, hrest⟩ := List.forall_mem_cons.mp h
    exact staysInLine_append.mpr ⟨staysInLine_quote name, staysInLine_cons.mpr ⟨by decide,
      staysInLine_append.mpr ⟨hvalue,
        staysInLine_cons.mpr ⟨by decide, staysInLine_charsOfMembers hrest⟩⟩⟩⟩

/-- **A written value stays in its line**, whatever texts and values it holds at any depth.  Texts
are quoted, and a line end in a text is written as an escape. -/
theorem staysInLine_chars (value : Json) : StaysInLine (chars value) := by
  -- on the value: the brackets, commas and colons around the parts stay in their line
  induction value with
  | null => decide
  | bool b => cases b <;> decide
  | number n => exact n.staysInLine_text
  | string s => exact staysInLine_quote s
  | array items ih =>
    exact staysInLine_cons.mpr ⟨by decide,
      staysInLine_append.mpr ⟨staysInLine_charsOfItems ih, by decide⟩⟩
  | object members ih =>
    exact staysInLine_cons.mpr ⟨by decide,
      staysInLine_append.mpr ⟨staysInLine_charsOfMembers ih, by decide⟩⟩

theorem staysInLine_render (value : Json) : StaysInLine value.render.toList := by
  rw [render, String.toList_ofList]
  exact staysInLine_chars value

end Json

end RegistryGate
