/-
  The SHA-2 digests of 256 and 512 bits.

  Both are one construction over words of 32 or of 64 bits: the message is padded to whole blocks of
  sixteen words, each block is stretched to one word per round, and the rounds stir the block into
  eight registers.  `Family` holds what differs between the two; the construction is written once.
-/

namespace RegistryGate.Digest

/-! ## The construction -/

/-- The eight words that a digest is computed in. -/
structure Registers (W : Type) where
  /-- The first register. -/
  a : W
  /-- The second register. -/
  b : W
  /-- The third register. -/
  c : W
  /-- The fourth register. -/
  d : W
  /-- The fifth register. -/
  e : W
  /-- The sixth register. -/
  f : W
  /-- The seventh register. -/
  g : W
  /-- The eighth register. -/
  h : W

/-- What tells one digest of the family from another. -/
structure Family (W : Type) where
  /-- Bytes of a word. -/
  wordBytes : Nat
  /-- The word that a list of bytes spells, most significant byte first. -/
  ofBytes : List UInt8 → W
  /-- The bytes of a word, most significant byte first. -/
  toBytes : W → List UInt8
  /-- Mixes register `a` in every round. -/
  upperA : W → W
  /-- Mixes register `e` in every round. -/
  upperE : W → W
  /-- Mixes an earlier word while a block is stretched. -/
  lowerEarly : W → W
  /-- Mixes a late word while a block is stretched. -/
  lowerLate : W → W
  /-- One constant per round. -/
  rounds : List W
  /-- The registers before the first block. -/
  start : Registers W

variable {W : Type} [Inhabited W] [Add W] [AndOp W] [XorOp W] [Complement W]

/-- Stretches a block by `n` words; the newest word comes first. -/
def Family.stretch (fam : Family W) : Nat → List W → List W
  | 0, ws => ws
  | n + 1, ws =>
    let word (i : Nat) : W := (ws[i]?).getD default
    let next := fam.lowerLate (word 1) + word 6 + fam.lowerEarly (word 14) + word 15
    fam.stretch n (next :: ws)

/-- One round with its constant and its word. -/
def Family.round (fam : Family W) (r : Registers W) (constant word : W) : Registers W :=
  let choice := (r.e &&& r.f) ^^^ (~~~r.e &&& r.g)
  let majority := (r.a &&& r.b) ^^^ (r.a &&& r.c) ^^^ (r.b &&& r.c)
  let t := r.h + fam.upperE r.e + choice + constant + word
  let u := fam.upperA r.a + majority
  ⟨t + u, r.a, r.b, r.c, r.d + t, r.e, r.f, r.g⟩

/-- Cuts a list into parts of `size` elements; the fuel bounds their number. -/
def chunks {α : Type} (size : Nat) : Nat → List α → List (List α)
  | 0, _ => []
  | _ + 1, [] => []
  | fuel + 1, x :: xs => (x :: xs).take size :: chunks size fuel ((x :: xs).drop size)

/-- Stirs one block into the registers. -/
def Family.absorb (fam : Family W) (r : Registers W) (block : List UInt8) : Registers W :=
  let words := (chunks fam.wordBytes 16 block).map fam.ofBytes
  -- stretching puts the newest word first, the rounds take the oldest one first
  let schedule := (fam.stretch (fam.rounds.length - 16) words.reverse).reverse
  let s := (fam.rounds.zip schedule).foldl (fun s kw => fam.round s kw.1 kw.2) r
  ⟨r.a + s.a, r.b + s.b, r.c + s.c, r.d + s.d, r.e + s.e, r.f + s.f, r.g + s.g, r.h + s.h⟩

/-- `n` in `count` bytes, most significant byte first. -/
def bigEndian (count n : Nat) : List UInt8 :=
  (List.range count).reverse.map fun i => UInt8.ofNat (n / Nat.pow 256 i)

/-- The message with a set bit, zeros and its length in bits, filling whole blocks. -/
def pad (wordBytes : Nat) (message : List UInt8) : List UInt8 :=
  let block := 16 * wordBytes
  let lengthBytes := 2 * wordBytes
  -- where the length does not fit behind the message, the zeros run on through another block
  let zeros := (block - (message.length + 1 + lengthBytes) % block) % block
  message ++ 0x80 :: (List.replicate zeros 0 ++ bigEndian lengthBytes (8 * message.length))

/-- The registers after the whole message. -/
def Family.registers (fam : Family W) (message : List UInt8) : Registers W :=
  let padded := pad fam.wordBytes message
  (chunks (16 * fam.wordBytes) padded.length padded).foldl fam.absorb fam.start

/-- The digest: the registers one after the other. -/
def Family.digest (fam : Family W) (message : List UInt8) : List UInt8 :=
  let r := fam.registers message
  fam.toBytes r.a ++ fam.toBytes r.b ++ fam.toBytes r.c ++ fam.toBytes r.d
    ++ fam.toBytes r.e ++ fam.toBytes r.f ++ fam.toBytes r.g ++ fam.toBytes r.h

/-! ## Words of 32 bits -/

/-- Turns a word to the right. -/
def rotate32 (x : UInt32) (n : UInt32) : UInt32 := (x >>> n) ||| (x <<< (32 - n))

/-- The bytes of a 32-bit word. -/
def bytes32 (x : UInt32) : List UInt8 :=
  [(x >>> 24).toUInt8, (x >>> 16).toUInt8, (x >>> 8).toUInt8, x.toUInt8]

/-- The member of the family with digests of 256 bits. -/
def family256 : Family UInt32 where
  wordBytes := 4
  ofBytes bytes := bytes.foldl (fun w b => (w <<< 8) ||| b.toUInt32) 0
  toBytes := bytes32
  upperA x := rotate32 x 2 ^^^ rotate32 x 13 ^^^ rotate32 x 22
  upperE x := rotate32 x 6 ^^^ rotate32 x 11 ^^^ rotate32 x 25
  lowerEarly x := rotate32 x 7 ^^^ rotate32 x 18 ^^^ (x >>> 3)
  lowerLate x := rotate32 x 17 ^^^ rotate32 x 19 ^^^ (x >>> 10)
  rounds := [
   0x428a2f98, 0x71374491, 0xb5c0fbcf, 0xe9b5dba5, 0x3956c25b, 0x59f111f1,
   0x923f82a4, 0xab1c5ed5, 0xd807aa98, 0x12835b01, 0x243185be, 0x550c7dc3,
   0x72be5d74, 0x80deb1fe, 0x9bdc06a7, 0xc19bf174, 0xe49b69c1, 0xefbe4786,
   0x0fc19dc6, 0x240ca1cc, 0x2de92c6f, 0x4a7484aa, 0x5cb0a9dc, 0x76f988da,
   0x983e5152, 0xa831c66d, 0xb00327c8, 0xbf597fc7, 0xc6e00bf3, 0xd5a79147,
   0x06ca6351, 0x14292967, 0x27b70a85, 0x2e1b2138, 0x4d2c6dfc, 0x53380d13,
   0x650a7354, 0x766a0abb, 0x81c2c92e, 0x92722c85, 0xa2bfe8a1, 0xa81a664b,
   0xc24b8b70, 0xc76c51a3, 0xd192e819, 0xd6990624, 0xf40e3585, 0x106aa070,
   0x19a4c116, 0x1e376c08, 0x2748774c, 0x34b0bcb5, 0x391c0cb3, 0x4ed8aa4a,
   0x5b9cca4f, 0x682e6ff3, 0x748f82ee, 0x78a5636f, 0x84c87814, 0x8cc70208,
   0x90befffa, 0xa4506ceb, 0xbef9a3f7, 0xc67178f2]
  start := ⟨
   0x6a09e667, 0xbb67ae85, 0x3c6ef372, 0xa54ff53a,
   0x510e527f, 0x9b05688c, 0x1f83d9ab, 0x5be0cd19⟩

/-- The SHA-256 digest of a message. -/
def sha256 (message : List UInt8) : List UInt8 := family256.digest message

theorem length_sha256 (message : List UInt8) : (sha256 message).length = 32 := by
  simp [sha256, Family.digest, family256, bytes32]

/-! ## Words of 64 bits -/

/-- Turns a word to the right. -/
def rotate64 (x : UInt64) (n : UInt64) : UInt64 := (x >>> n) ||| (x <<< (64 - n))

/-- The bytes of a 64-bit word. -/
def bytes64 (x : UInt64) : List UInt8 :=
  [(x >>> 56).toUInt8, (x >>> 48).toUInt8, (x >>> 40).toUInt8, (x >>> 32).toUInt8,
   (x >>> 24).toUInt8, (x >>> 16).toUInt8, (x >>> 8).toUInt8, x.toUInt8]

/-- The member of the family with digests of 512 bits. -/
def family512 : Family UInt64 where
  wordBytes := 8
  ofBytes bytes := bytes.foldl (fun w b => (w <<< 8) ||| b.toUInt64) 0
  toBytes := bytes64
  upperA x := rotate64 x 28 ^^^ rotate64 x 34 ^^^ rotate64 x 39
  upperE x := rotate64 x 14 ^^^ rotate64 x 18 ^^^ rotate64 x 41
  lowerEarly x := rotate64 x 1 ^^^ rotate64 x 8 ^^^ (x >>> 7)
  lowerLate x := rotate64 x 19 ^^^ rotate64 x 61 ^^^ (x >>> 6)
  rounds := [
   0x428a2f98d728ae22, 0x7137449123ef65cd, 0xb5c0fbcfec4d3b2f, 0xe9b5dba58189dbbc,
   0x3956c25bf348b538, 0x59f111f1b605d019, 0x923f82a4af194f9b, 0xab1c5ed5da6d8118,
   0xd807aa98a3030242, 0x12835b0145706fbe, 0x243185be4ee4b28c, 0x550c7dc3d5ffb4e2,
   0x72be5d74f27b896f, 0x80deb1fe3b1696b1, 0x9bdc06a725c71235, 0xc19bf174cf692694,
   0xe49b69c19ef14ad2, 0xefbe4786384f25e3, 0x0fc19dc68b8cd5b5, 0x240ca1cc77ac9c65,
   0x2de92c6f592b0275, 0x4a7484aa6ea6e483, 0x5cb0a9dcbd41fbd4, 0x76f988da831153b5,
   0x983e5152ee66dfab, 0xa831c66d2db43210, 0xb00327c898fb213f, 0xbf597fc7beef0ee4,
   0xc6e00bf33da88fc2, 0xd5a79147930aa725, 0x06ca6351e003826f, 0x142929670a0e6e70,
   0x27b70a8546d22ffc, 0x2e1b21385c26c926, 0x4d2c6dfc5ac42aed, 0x53380d139d95b3df,
   0x650a73548baf63de, 0x766a0abb3c77b2a8, 0x81c2c92e47edaee6, 0x92722c851482353b,
   0xa2bfe8a14cf10364, 0xa81a664bbc423001, 0xc24b8b70d0f89791, 0xc76c51a30654be30,
   0xd192e819d6ef5218, 0xd69906245565a910, 0xf40e35855771202a, 0x106aa07032bbd1b8,
   0x19a4c116b8d2d0c8, 0x1e376c085141ab53, 0x2748774cdf8eeb99, 0x34b0bcb5e19b48a8,
   0x391c0cb3c5c95a63, 0x4ed8aa4ae3418acb, 0x5b9cca4f7763e373, 0x682e6ff3d6b2b8a3,
   0x748f82ee5defb2fc, 0x78a5636f43172f60, 0x84c87814a1f0ab72, 0x8cc702081a6439ec,
   0x90befffa23631e28, 0xa4506cebde82bde9, 0xbef9a3f7b2c67915, 0xc67178f2e372532b,
   0xca273eceea26619c, 0xd186b8c721c0c207, 0xeada7dd6cde0eb1e, 0xf57d4f7fee6ed178,
   0x06f067aa72176fba, 0x0a637dc5a2c898a6, 0x113f9804bef90dae, 0x1b710b35131c471b,
   0x28db77f523047d84, 0x32caab7b40c72493, 0x3c9ebe0a15c9bebc, 0x431d67c49c100d4c,
   0x4cc5d4becb3e42b6, 0x597f299cfc657e2a, 0x5fcb6fab3ad6faec, 0x6c44198c4a475817]
  start := ⟨
   0x6a09e667f3bcc908, 0xbb67ae8584caa73b, 0x3c6ef372fe94f82b, 0xa54ff53a5f1d36f1,
   0x510e527fade682d1, 0x9b05688c2b3e6c1f, 0x1f83d9abfb41bd6b, 0x5be0cd19137e2179⟩

/-- The SHA-512 digest of a message. -/
def sha512 (message : List UInt8) : List UInt8 := family512.digest message

/-- The member of the family that starts from other registers and of whose digest 384 bits count. -/
def family384 : Family UInt64 :=
  { family512 with start := ⟨
   0xcbbb9d5dc1059ed8, 0x629a292a367cd507, 0x9159015a3070dd17, 0x152fecd8f70e5939,
   0x67332667ffc00b31, 0x8eb44a8768581511, 0xdb0c2e0d64f98fa7, 0x47b5481dbefa4fa4⟩ }

/-- The SHA-384 digest of a message. -/
def sha384 (message : List UInt8) : List UInt8 := (family384.digest message).take 48

end RegistryGate.Digest
