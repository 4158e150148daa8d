/-
  Texts in the order of their bytes.

  Texts are compared character by character, wherever a set or a table keeps them in order.  That is
  the order of their UTF-8 bytes as well (`lt_iff_encode_lt`): the bytes of a character do not go on
  where those of another one end, but the two part at some byte, and there the smaller character has
  the smaller byte (`parts_utf8EncodeChar`).
-/
import RegistryGate.Text.Utf8

namespace RegistryGate.Text.Utf8

/-! ## Lists that part -/

/-- Two byte lists part at some byte, where the first one has the smaller byte. -/
def Parts (first second : List UInt8) : Prop :=
  ∃ common a b rest rest', first = common ++ a :: rest ∧ second = common ++ b :: rest' ∧ a < b

/-- What comes behind does not bring parted lists together. -/
theorem Parts.append {first second : List UInt8} (h : Parts first second) (more more' : List UInt8) :
    Parts (first ++ more) (second ++ more') := by
  obtain ⟨common, a, b, rest, rest', rfl, rfl, hlt⟩ := h
  exact ⟨common, a, b, rest ++ more, rest' ++ more', by simp, by simp, hlt⟩

theorem Parts.lt {first second : List UInt8} (h : Parts first second) : first < second := by
  obtain ⟨common, a, b, rest, rest', rfl, rfl, hlt⟩ := h
  exact List.append_left_lt (List.cons_lt_cons_iff.mpr (Or.inl hlt))

/-- Lists part at their first byte, or else behind it. -/
theorem Parts.cons {n m : Nat} {xs ys : List UInt8} (hm : m < 256) (hle : n ≤ m)
    (htail : n = m → Parts xs ys) : Parts (UInt8.ofNat n :: xs) (UInt8.ofNat m :: ys) := by
  by_cases heq : n = m
  · obtain ⟨common, a, b, rest, rest', rfl, rfl, hlt⟩ := htail heq
    rw [heq]
    exact ⟨UInt8.ofNat m :: common, a, b, rest, rest', rfl, rfl, hlt⟩
  · refine ⟨[], UInt8.ofNat n, UInt8.ofNat m, xs, ys, rfl, rfl, ?_⟩
    have hn : n < m := by omega
    rw [UInt8.lt_iff_toNat_lt, UInt8.toNat_ofNat_of_lt' (Nat.lt_trans hn hm),
      UInt8.toNat_ofNat_of_lt' hm]
    exact hn

/-- Lists part at their first byte. -/
theorem Parts.here {n m : Nat} {xs ys : List UInt8} (hm : m < 256) (hlt : n < m) :
    Parts (UInt8.ofNat n :: xs) (UInt8.ofNat m :: ys) :=
  Parts.cons hm (Nat.le_of_lt hlt) fun heq => absurd heq (Nat.ne_of_lt hlt)

/-! ## Characters -/

/-- The bytes of a smaller character part from those of a greater one: at the first byte where they
are of different length, and else at the first digit in base 64 that is smaller. -/
theorem parts_utf8EncodeChar {c d : Char} (h : c < d) :
    Parts (String.utf8EncodeChar c) (String.utf8EncodeChar d) := by
  have hlt : c.val.toNat < d.val.toNat := h
  have hmax : d.val.toNat < 0x110000 := by
    rcases d.valid with hlow | hhigh <;> omega
  -- the number of bytes depends on the range that the number of the character is in
  unfold String.utf8EncodeChar
  generalize c.val.toNat = v at *
  generalize d.val.toNat = w at *
  dsimp only
  by_cases hv1 : v ≤ 0x7f
  · rw [if_pos hv1]
    split
    · exact Parts.here (by omega) hlt
    -- the first byte tells how many there are, and is greater where there are more
    · split
      · exact Parts.here (by omega) (by omega)
      · split <;> exact Parts.here (by omega) (by omega)
  · have hw1 : ¬ w ≤ 0x7f := by omega
    rw [if_neg hv1, if_neg hw1]
    by_cases hv2 : v ≤ 0x7ff
    · rw [if_pos hv2]
      split
      · exact Parts.cons (by omega) (by omega) fun _ => Parts.here (by omega) (by omega)
      · split <;> exact Parts.here (by omega) (by omega)
    · -- a greater character has as many bytes or more
      have hw2 : ¬ w ≤ 0x7ff := by omega
      rw [if_neg hv2, if_neg hw2]
      by_cases hv3 : v ≤ 0xffff
      · rw [if_pos hv3]
        split
        · exact Parts.cons (by omega) (by omega) fun _ =>
            Parts.cons (by omega) (by omega) fun _ => Parts.here (by omega) (by omega)
        · exact Parts.here (by omega) (by omega)
      · have hw3 : ¬ w ≤ 0xffff := by omega
        rw [if_neg hv3, if_neg hw3]
        exact Parts.cons (by omega) (by omega) fun _ =>
          Parts.cons (by omega) (by omega) fun _ =>
            Parts.cons (by omega) (by omega) fun _ => Parts.here (by omega) (by omega)

/-! ## Texts -/

/-- The bytes of a text are those of its characters, one after the other. -/
theorem encode_eq_flatMap (s : String) : encode s = s.toList.flatMap String.utf8EncodeChar := by
  have hbytes : (String.ofList s.toList).toByteArray = s.toList.utf8Encode := rfl
  rw [String.ofList_toList] at hbytes
  show s.toByteArray.data.toList = _
  rw [hbytes]
  simp [List.utf8Encode]

/-- Smaller characters have smaller bytes.  The induction follows the comparison: one list ends, a
character is smaller, or the two go on alike. -/
theorem flatMap_utf8EncodeChar_lt {cs ds : List Char} (h : cs < ds) :
    cs.flatMap String.utf8EncodeChar < ds.flatMap String.utf8EncodeChar := by
  induction h with
  | @nil d ds =>
    -- every character has a byte
    rw [List.flatMap_nil, List.flatMap_cons]
    obtain ⟨byte, rest, hbytes⟩ :=
      List.exists_cons_of_ne_nil (String.utf8EncodeChar_ne_nil (c := d))
    rw [hbytes]
    exact List.nil_lt_cons byte _
  | @rel c cs d ds hlt =>
    rw [List.flatMap_cons, List.flatMap_cons]
    exact ((parts_utf8EncodeChar hlt).append _ _).lt
  | @cons c cs ds _ ih =>
    rw [List.flatMap_cons, List.flatMap_cons]
    exact List.append_left_lt ih

/-- **Texts are in the order of their bytes.** -/
theorem lt_iff_encode_lt {s t : String} : s < t ↔ encode s < encode t := by
  have hforward : ∀ {s t : String}, s < t → encode s < encode t := by
    intro s t h
    rw [encode_eq_flatMap, encode_eq_flatMap]
    exact flatMap_utf8EncodeChar_lt h
  constructor
  · exact hforward
  · intro h
    rcases Std.lt_trichotomy s t with hlt | heq | hgt
    · exact hlt
    · rw [heq] at h
      exact absurd h (List.lt_irrefl _)
    · exact absurd h (List.lt_asymm (hforward hgt))

/-- What comes first in a set or a table has the smaller bytes. -/
theorem compare_eq_lt_iff {s t : String} : compare s t = .lt ↔ encode s < encode t := by
  rw [← lt_iff_encode_lt]
  exact compareOfLessAndEq_eq_lt

end RegistryGate.Text.Utf8
