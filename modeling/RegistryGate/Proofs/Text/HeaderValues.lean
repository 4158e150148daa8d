/-
  Texts as header values.

  A header value is a list of bytes.  A text of plain characters, one byte each, is what its bytes
  are read as (`ofVisibleBytes?_bytesOf`).
-/
import RegistryGate.Text.Ascii

namespace RegistryGate.Text

/-- Holds of the space and the visible characters of ASCII. -/
def isPlain (c : Char) : Bool := decide (32 ≤ c.toNat) && decide (c.toNat < 127)

/-- The bytes of a text of plain characters. -/
def bytesOf (s : String) : List UInt8 := s.toList.map fun c => UInt8.ofNat c.toNat

theorem toNat_byteOf {c : Char} (h : isPlain c = true) : (UInt8.ofNat c.toNat).toNat = c.toNat := by
  simp only [isPlain, Bool.and_eq_true, decide_eq_true_eq] at h
  rw [UInt8.toNat_ofNat']
  exact Nat.mod_eq_of_lt (by omega)

theorem isVisibleByte_byteOf {c : Char} (h : isPlain c = true) :
    isVisibleByte (UInt8.ofNat c.toNat) = true := by
  have hbyte := toNat_byteOf h
  simp only [isPlain, Bool.and_eq_true, decide_eq_true_eq] at h
  simp only [isVisibleByte, Bool.or_eq_true, Bool.and_eq_true, decide_eq_true_eq,
    UInt8.le_iff_toNat_le, UInt8.lt_iff_toNat_lt, hbyte]
  exact Or.inl h

/-- The bytes of plain characters are read as these characters. -/
theorem ofVisibleBytes?_bytesOf {s : String} (h : s.toList.all isPlain = true) :
    ofVisibleBytes? (bytesOf s) = some s := by
  rw [List.all_eq_true] at h
  have hvisible : (bytesOf s).all isVisibleByte = true := by
    rw [bytesOf, List.all_map, List.all_eq_true]
    exact fun c hc => isVisibleByte_byteOf (h c hc)
  have hback : (bytesOf s).map (fun b => Char.ofNat b.toNat) = s.toList := by
    rw [bytesOf, List.map_map, List.map_congr_left (g := id) ?_, List.map_id]
    intro c hc
    show Char.ofNat (UInt8.ofNat c.toNat).toNat = c
    rw [toNat_byteOf (h c hc), Char.ofNat_toNat]
  rw [ofVisibleBytes?, if_pos hvisible, hback, String.ofList_toList]

end RegistryGate.Text
