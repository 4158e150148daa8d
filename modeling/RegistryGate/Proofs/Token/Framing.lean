/-
  What a tag authenticates can be read in one way only.

  The bytes that go into a tag are the length of the correlation id, in eight bytes, then the id and
  the identifier.  A number that fits is determined by its bytes (`bigEndian_injective`), so the
  length tells where the id ends, and the framed bytes determine both parts (`frame_injective`).
  Moving bytes from the identifier into the id, or back, always changes what is authenticated.
-/
import RegistryGate.Token.Cipher

namespace RegistryGate

namespace Digest

/-! ## Numbers in bytes -/

theorem length_bigEndian (count n : Nat) : (bigEndian count n).length = count := by
  rw [bigEndian, List.length_map, List.length_reverse, List.length_range]

/-- The last byte holds what is left over by 256, the bytes before it hold the quotient. -/
theorem bigEndian_succ (count n : Nat) :
    bigEndian (count + 1) n = bigEndian count (n / 256) ++ [UInt8.ofNat n] := by
  have hdigit : ∀ i, n / Nat.pow 256 (i + 1) = n / 256 / Nat.pow 256 i := by
    intro i
    show n / (Nat.pow 256 i * 256) = n / 256 / Nat.pow 256 i
    rw [Nat.div_div_eq_div_mul, Nat.mul_comm]
  have hzero : n / Nat.pow 256 0 = n := Nat.div_one n
  simp only [bigEndian, List.range_succ_eq_map, List.reverse_cons, List.map_append,
    List.map_reverse, List.map_map, List.map_cons, List.map_nil, hzero]
  congr 3
  funext i
  exact congrArg UInt8.ofNat (hdigit i)

/-- **A number that fits is determined by its bytes.** -/
theorem bigEndian_injective {count n m : Nat} (hn : n < Nat.pow 256 count)
    (hm : m < Nat.pow 256 count) (h : bigEndian count n = bigEndian count m) : n = m := by
  -- by induction on the number of bytes, taking the last one off
  induction count generalizing n m with
  | zero =>
    have hone : Nat.pow 256 0 = 1 := rfl
    omega
  | succ count ih =>
    rw [bigEndian_succ, bigEndian_succ] at h
    obtain ⟨hfront, hlast⟩ := List.append_inj' h rfl
    have hpow : Nat.pow 256 (count + 1) = Nat.pow 256 count * 256 := rfl
    have hquotient : n / 256 = m / 256 :=
      ih (Nat.div_lt_of_lt_mul (by omega)) (Nat.div_lt_of_lt_mul (by omega)) hfront
    have hremainder : n % 256 = m % 256 := by
      have hbyte := congrArg UInt8.toNat (List.cons.inj hlast).1
      rwa [UInt8.toNat_ofNat', UInt8.toNat_ofNat'] at hbyte
    omega

end Digest

namespace Token.KeyPair

/-! ## Framed bytes -/

/-- **Framing is injective**, for correlation ids whose length fits its eight bytes. -/
theorem frame_injective {correlation correlation' : String} {plain plain' : List UInt8}
    (hfits : correlation.utf8ByteSize < UInt64.size)
    (hfits' : correlation'.utf8ByteSize < UInt64.size)
    (h : frame correlation plain = frame correlation' plain') :
    correlation = correlation' ∧ plain = plain' := by
  -- the length comes first, in the same eight bytes of both
  rw [frame, frame, List.append_assoc, List.append_assoc] at h
  obtain ⟨hlead, hrest⟩ := List.append_inj h (by
    rw [Digest.length_bigEndian, Digest.length_bigEndian])
  have hsize : (Text.Utf8.encode correlation).length < Nat.pow 256 8 := hfits
  have hsize' : (Text.Utf8.encode correlation').length < Nat.pow 256 8 := hfits'
  have hlength := Digest.bigEndian_injective hsize hsize' hlead
  -- the ids have the same length, so they end at the same place
  obtain ⟨hid, hplain⟩ := List.append_inj hrest hlength
  exact ⟨Text.Utf8.encode_injective hid, hplain⟩

end Token.KeyPair

end RegistryGate
