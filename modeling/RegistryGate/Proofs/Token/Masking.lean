/-
  A mask is a stream of bytes, and masking twice gives the data back.

  Masking goes block by block and cuts the last block to what is left of the data.  `stream` is the
  mask without the data: the hashed blocks one after the other.  Masking is one pass over data and
  stream (`maskBlocks_eq_zipWith`), wherever the blocks of the data end, so both laws of a mask are
  laws of that pass: it keeps the number of bytes (`length_applyMask`), and it is its own inverse
  (`applyMask_applyMask`), whatever the hash computes.
-/
import RegistryGate.Token.Cipher

namespace RegistryGate.Token.KeyPair

open Digest (KeyedHash)

variable (hash : KeyedHash) (keys : KeyPair) (tag : List UInt8)

/-! ## The mask as a stream -/

/-- The first `count` blocks of a mask, from the block numbered `index` on. -/
def stream : Nat → Nat → List UInt8
  | 0, _ => []
  | count + 1, index =>
    hash.run keys.encryption (tag ++ Digest.bigEndian 4 index) ++ stream count (index + 1)

theorem length_stream (count index : Nat) :
    (keys.stream hash tag count index).length = count * Digest.hashLength := by
  -- block by block, and every block is as long as a hash
  induction count generalizing index with
  | zero =>
    show 0 = 0 * Digest.hashLength
    rw [Nat.zero_mul]
  | succ count ih =>
    rw [stream, List.length_append, hash.length_run, ih, Nat.succ_mul, Nat.add_comm]

/-- A stream has at least a byte for each of its blocks. -/
theorem le_length_stream (count index : Nat) :
    count ≤ (keys.stream hash tag count index).length := by
  rw [length_stream, Digest.hashLength]
  omega

/-- Combining with two parts is combining with the first part, and what is left with the second. -/
theorem zipWith_append_right (f : UInt8 → UInt8 → UInt8) (data front rest : List UInt8) :
    data.zipWith f (front ++ rest)
      = data.zipWith f front ++ (data.drop front.length).zipWith f rest := by
  -- along the front, which takes the data byte by byte
  induction front generalizing data with
  | nil =>
    rw [List.nil_append, List.zipWith_nil_right, List.length_nil, List.drop_zero, List.nil_append]
  | cons b front ih =>
    cases data with
    | nil => rfl
    | cons a data =>
      show f a b :: data.zipWith f (front ++ rest) = _
      rw [ih]
      rfl

/-- Masking block by block is one pass over data and stream. -/
theorem maskBlocks_eq_zipWith (fuel index : Nat) (data : List UInt8) :
    keys.maskBlocks hash tag fuel index data
      = data.zipWith (· ^^^ ·) (keys.stream hash tag fuel index) := by
  -- one block of the stream for each round; the data may end before the stream does
  induction fuel generalizing index data with
  | zero => rw [maskBlocks, stream, List.zipWith_nil_right]
  | succ fuel ih =>
    rw [stream, zipWith_append_right, hash.length_run, ← ih]
    cases data with
    | nil =>
      -- the walk ends at once; with more fuel it would end in the next block
      have hnone : keys.maskBlocks hash tag fuel (index + 1) [] = [] := by
        cases fuel with
        | zero => rfl
        | succ fuel => rfl
      rw [List.drop_nil, hnone]
      rfl
    | cons byte rest => rfl

/-! ## Laws of a mask -/

theorem length_applyMask (data : List UInt8) :
    (keys.applyMask hash tag data).length = data.length := by
  have henough := le_length_stream hash keys tag data.length 0
  rw [applyMask, maskBlocks_eq_zipWith, List.length_zipWith]
  omega

/-- The same bytes put on twice are taken off again.  Two equal bytes cancel out, and the data is no
longer than the mask. -/
theorem zipWith_xor_xor {data mask : List UInt8} (h : data.length ≤ mask.length) :
    (data.zipWith (· ^^^ ·) mask).zipWith (· ^^^ ·) mask = data := by
  induction data generalizing mask with
  | nil => rfl
  | cons a data ih =>
    cases mask with
    | nil => exact absurd h (Nat.not_succ_le_zero _)
    | cons b mask =>
      have hbyte : a ^^^ b ^^^ b = a := by rw [UInt8.xor_assoc, UInt8.xor_self, UInt8.xor_zero]
      show (a ^^^ b ^^^ b) :: _ = a :: data
      rw [hbyte, ih (Nat.le_of_succ_le_succ h)]

/-- **Masking is its own inverse.** -/
theorem applyMask_applyMask (data : List UInt8) :
    keys.applyMask hash tag (keys.applyMask hash tag data) = data := by
  have hlength := length_applyMask hash keys tag data
  rw [applyMask, hlength, applyMask, maskBlocks_eq_zipWith, maskBlocks_eq_zipWith]
  exact zipWith_xor_xor (le_length_stream hash keys tag data.length 0)

end RegistryGate.Token.KeyPair
