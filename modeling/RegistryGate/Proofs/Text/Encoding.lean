/-
  Texts and their bytes.

  A text has no more characters than bytes.  Reading bytes as a text and writing the text again
  gives the same bytes (`encode_of_decode?`), so the number of bytes of a text is that of the bytes
  it was read from.
-/
import RegistryGate.Text.Utf8

namespace RegistryGate.Text

/-- Each character takes its own bytes. -/
theorem utf8ByteSize_ofList_cons (c : Char) (cs : List Char) :
    (String.ofList (c :: cs)).utf8ByteSize = c.utf8Size + (String.ofList cs).utf8ByteSize := by
  have hsplit : String.ofList (c :: cs) = String.singleton c ++ String.ofList cs := by
    rw [String.singleton_eq_ofList, ← String.ofList_append]
    rfl
  rw [hsplit, String.utf8ByteSize_append, String.utf8ByteSize_singleton]

/-- Every character takes at least one byte. -/
theorem length_le_utf8ByteSize (s : String) : s.toList.length ≤ s.utf8ByteSize := by
  have hchars : ∀ cs : List Char, cs.length ≤ (String.ofList cs).utf8ByteSize := by
    intro cs
    induction cs with
    | nil => exact Nat.zero_le _
    | cons c cs ih =>
      rw [utf8ByteSize_ofList_cons, List.length_cons]
      have hpos : 0 < c.utf8Size := c.utf8Size_pos
      omega
  have h := hchars s.toList
  rwa [String.ofList_toList] at h

/-- The bytes of joined texts are their bytes, joined. -/
theorem Utf8.encode_append (s t : String) :
    Utf8.encode (s ++ t) = Utf8.encode s ++ Utf8.encode t := by
  show (s ++ t).toByteArray.data.toList = s.toByteArray.data.toList ++ t.toByteArray.data.toList
  rw [String.toByteArray_append, ByteArray.data_append, Array.toList_append]

/-- Bytes that are read as a text are the bytes of that text. -/
theorem Utf8.encode_of_decode? {bytes : List UInt8} {s : String}
    (h : Utf8.decode? bytes = some s) : Utf8.encode s = bytes := by
  unfold Utf8.decode? String.fromUTF8? at h
  split at h
  · cases h
    rfl
  · cases h

end RegistryGate.Text
