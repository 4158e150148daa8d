/-
  Texts as byte lists and back.

  Ciphers and digests work on bytes; texts reach them in UTF-8.  `decode?` refuses a byte list that
  is not UTF-8, and `decode?_encode` says that nothing is lost on the way there and back.
-/

namespace RegistryGate.Text.Utf8

/-- The bytes of a text in UTF-8. -/
def encode (s : String) : List UInt8 := s.toUTF8.data.toList

/-- The text that a byte list is the UTF-8 form of. -/
def decode? (bytes : List UInt8) : Option String := String.fromUTF8? ⟨bytes.toArray⟩

theorem decode?_encode (s : String) : decode? (encode s) = some s := by
  have h : (⟨(encode s).toArray⟩ : ByteArray) = s.toByteArray := rfl
  rw [decode?, h]
  exact dif_pos s.isValidUTF8

theorem encode_injective {s t : String} (h : encode s = encode t) : s = t :=
  Option.some.inj (by rw [← decode?_encode s, ← decode?_encode t, h])

/-- The number of bytes of a text in UTF-8. -/
theorem length_encode (s : String) : (encode s).length = s.utf8ByteSize := rfl

end RegistryGate.Text.Utf8
