/-
  Base64url texts and byte lists are in one-to-one correspondence.

  A digit stands for its number (`value?_digit`), and what stands for a number is its digit
  (`digit_of_value?`).  Both carry over to whole texts by the groups of four characters that three
  bytes make: what was written is read back (`decode?_encode`), and what is read is the written
  form of what it is read as (`encode_of_decode?`), because the unused bits of a short last group
  have to be zero.  So a byte list has exactly one text (`decode?_eq_some_iff`).  Its characters are
  those of the alphabet, and their number depends on the number of bytes alone.
-/
import RegistryGate.Text.Base64Url
import RegistryGate.Proofs.Text.Encoding

namespace RegistryGate.Text.Base64Url

/-! ## Single characters -/

/-- The sixty-four characters: letters, digits, the hyphen and the low line. -/
def InAlphabet (c : Char) : Prop := c.isAlphanum = true ∨ c = '-' ∨ c = '_'

theorem value?_digit {n : Nat} (h : n < 64) : value? (digit n) = some n :=
  (by decide : ∀ n < 64, value? (digit n) = some n) n h

theorem inAlphabet_digit {n : Nat} (h : n < 64) : InAlphabet (digit n) :=
  (by decide : ∀ n < 64, (digit n).isAlphanum = true ∨ digit n = '-' ∨ digit n = '_') n h

/-- A digit takes one byte. -/
theorem utf8Size_digit {n : Nat} (h : n < 64) : (digit n).utf8Size = 1 :=
  (by decide : ∀ n < 64, (digit n).utf8Size = 1) n h

/-- Only the digit of a number stands for it. -/
theorem digit_of_value? {c : Char} {n : Nat} (h : value? c = some n) : n < 64 ∧ digit n = c := by
  -- the ranges in turn: upper case, lower case, decimal digits, then the two single characters
  unfold value? at h
  dsimp only at h
  split at h
  · rename_i hupper
    obtain rfl : c.toNat - 65 = n := Option.some.inj h
    refine ⟨by omega, ?_⟩
    rw [digit, if_pos (by omega), show 65 + (c.toNat - 65) = c.toNat by omega, Char.ofNat_toNat]
  · split at h
    · rename_i hlower
      obtain rfl : c.toNat - 97 + 26 = n := Option.some.inj h
      refine ⟨by omega, ?_⟩
      rw [digit, if_neg (by omega), if_pos (by omega),
        show 97 + (c.toNat - 97 + 26 - 26) = c.toNat by omega, Char.ofNat_toNat]
    · split at h
      · rename_i hdecimal
        obtain rfl : c.toNat - 48 + 52 = n := Option.some.inj h
        refine ⟨by omega, ?_⟩
        rw [digit, if_neg (by omega), if_neg (by omega), if_pos (by omega),
          show 48 + (c.toNat - 48 + 52 - 52) = c.toNat by omega, Char.ofNat_toNat]
      · split at h
        · rename_i hhyphen
          obtain rfl : 62 = n := Option.some.inj h
          exact ⟨by omega, hhyphen.symm⟩
        · split at h
          · rename_i hline
            obtain rfl : 63 = n := Option.some.inj h
            exact ⟨by omega, hline.symm⟩
          · cases h

/-! ## What was written is read back -/

/-- A number that is a byte's number makes that byte. -/
theorem ofNat_eq_of_toNat {b : UInt8} {n : Nat} (h : n = b.toNat) : UInt8.ofNat n = b := by
  rw [h, UInt8.ofNat_toNat]

/-- **What was written is read back**, whatever is left over behind the last group of three bytes.
-/
theorem decodeChars_encodeChars (bytes : List UInt8) :
    decodeChars (encodeChars bytes) = some bytes := by
  -- by groups of three bytes: the digits of a group are sums, and dividing them gives its bytes
  -- back
  fun_induction encodeChars bytes with
  | case1 => rfl
  | case2 a =>
    have ha : a.toNat < 256 := a.toNat_lt
    have hx : value? (digit (a.toNat / 4)) = some (a.toNat / 4) := value?_digit (by omega)
    have hy : value? (digit (a.toNat % 4 * 16)) = some (a.toNat % 4 * 16) :=
      value?_digit (by omega)
    have hfirst : UInt8.ofNat (a.toNat / 4 * 4 + a.toNat % 4 * 16 / 16) = a :=
      ofNat_eq_of_toNat (by omega)
    simp only [decodeChars, hx, hy, Option.bind_eq_bind, Option.bind_some]
    rw [if_pos (by omega), hfirst]
  | case3 a b =>
    have ha : a.toNat < 256 := a.toNat_lt
    have hb : b.toNat < 256 := b.toNat_lt
    have hx : value? (digit (a.toNat / 4)) = some (a.toNat / 4) := value?_digit (by omega)
    have hy : value? (digit (a.toNat % 4 * 16 + b.toNat / 16))
        = some (a.toNat % 4 * 16 + b.toNat / 16) := value?_digit (by omega)
    have hz : value? (digit (b.toNat % 16 * 4)) = some (b.toNat % 16 * 4) :=
      value?_digit (by omega)
    have hfirst : UInt8.ofNat (a.toNat / 4 * 4 + (a.toNat % 4 * 16 + b.toNat / 16) / 16) = a :=
      ofNat_eq_of_toNat (by omega)
    have hsecond : UInt8.ofNat ((a.toNat % 4 * 16 + b.toNat / 16) % 16 * 16
        + b.toNat % 16 * 4 / 4) = b := ofNat_eq_of_toNat (by omega)
    simp only [decodeChars, hx, hy, hz, Option.bind_eq_bind, Option.bind_some]
    rw [if_pos (by omega), hfirst, hsecond]
  | case4 a b c rest ih =>
    have ha : a.toNat < 256 := a.toNat_lt
    have hb : b.toNat < 256 := b.toNat_lt
    have hc : c.toNat < 256 := c.toNat_lt
    have hx : value? (digit (a.toNat / 4)) = some (a.toNat / 4) := value?_digit (by omega)
    have hy : value? (digit (a.toNat % 4 * 16 + b.toNat / 16))
        = some (a.toNat % 4 * 16 + b.toNat / 16) := value?_digit (by omega)
    have hz : value? (digit (b.toNat % 16 * 4 + c.toNat / 64))
        = some (b.toNat % 16 * 4 + c.toNat / 64) := value?_digit (by omega)
    have hw : value? (digit (c.toNat % 64)) = some (c.toNat % 64) := value?_digit (by omega)
    have hfirst : UInt8.ofNat (a.toNat / 4 * 4 + (a.toNat % 4 * 16 + b.toNat / 16) / 16) = a :=
      ofNat_eq_of_toNat (by omega)
    have hsecond : UInt8.ofNat ((a.toNat % 4 * 16 + b.toNat / 16) % 16 * 16
        + (b.toNat % 16 * 4 + c.toNat / 64) / 4) = b := ofNat_eq_of_toNat (by omega)
    have hthird : UInt8.ofNat ((b.toNat % 16 * 4 + c.toNat / 64) % 4 * 64 + c.toNat % 64) = c :=
      ofNat_eq_of_toNat (by omega)
    simp only [decodeChars, hx, hy, hz, hw, ih, Option.bind_eq_bind, Option.bind_some]
    rw [hfirst, hsecond, hthird]

/-! ## What is read was written -/

/-- A number below 256 is that of its byte. -/
theorem toNat_ofNat_of_lt {n : Nat} (h : n < 256) : (UInt8.ofNat n).toNat = n := by
  rw [UInt8.toNat_ofNat']
  exact Nat.mod_eq_of_lt h

/-- **What is read was written**: a last group is only read if its unused bits are zero. -/
theorem encodeChars_of_decodeChars {cs : List Char} {bytes : List UInt8}
    (h : decodeChars cs = some bytes) : encodeChars bytes = cs := by
  -- by groups of four characters, as they are read
  fun_induction decodeChars cs generalizing bytes with
  | case1 =>
    cases h
    rfl
  | case2 => cases h
  | case3 a b =>
    obtain ⟨x, hx, h⟩ := Option.bind_eq_some_iff.mp h
    obtain ⟨y, hy, h⟩ := Option.bind_eq_some_iff.mp h
    split at h
    · -- the unused bits were found to be zero, so writing gives this very digit
      rename_i hunused
      cases h
      obtain ⟨hx64, hxa⟩ := digit_of_value? hx
      obtain ⟨hy64, hyb⟩ := digit_of_value? hy
      have hfirst : (UInt8.ofNat (x * 4 + y / 16)).toNat = x * 4 + y / 16 :=
        toNat_ofNat_of_lt (by omega)
      rw [encodeChars, hfirst, show (x * 4 + y / 16) / 4 = x by omega,
        show (x * 4 + y / 16) % 4 * 16 = y by omega, hxa, hyb]
    · cases h
  | case4 a b c =>
    obtain ⟨x, hx, h⟩ := Option.bind_eq_some_iff.mp h
    obtain ⟨y, hy, h⟩ := Option.bind_eq_some_iff.mp h
    obtain ⟨z, hz, h⟩ := Option.bind_eq_some_iff.mp h
    split at h
    · rename_i hunused
      cases h
      obtain ⟨hx64, hxa⟩ := digit_of_value? hx
      obtain ⟨hy64, hyb⟩ := digit_of_value? hy
      obtain ⟨hz64, hzc⟩ := digit_of_value? hz
      have hfirst : (UInt8.ofNat (x * 4 + y / 16)).toNat = x * 4 + y / 16 :=
        toNat_ofNat_of_lt (by omega)
      have hsecond : (UInt8.ofNat (y % 16 * 16 + z / 4)).toNat = y % 16 * 16 + z / 4 :=
        toNat_ofNat_of_lt (by omega)
      rw [encodeChars, hfirst, hsecond, show (x * 4 + y / 16) / 4 = x by omega,
        show (x * 4 + y / 16) % 4 * 16 + (y % 16 * 16 + z / 4) / 16 = y by omega,
        show (y % 16 * 16 + z / 4) % 16 * 4 = z by omega, hxa, hyb, hzc]
    · cases h
  | case5 a b c d rest ih =>
    obtain ⟨x, hx, h⟩ := Option.bind_eq_some_iff.mp h
    obtain ⟨y, hy, h⟩ := Option.bind_eq_some_iff.mp h
    obtain ⟨z, hz, h⟩ := Option.bind_eq_some_iff.mp h
    obtain ⟨w, hw, h⟩ := Option.bind_eq_some_iff.mp h
    obtain ⟨tail, htail, h⟩ := Option.bind_eq_some_iff.mp h
    cases h
    obtain ⟨hx64, hxa⟩ := digit_of_value? hx
    obtain ⟨hy64, hyb⟩ := digit_of_value? hy
    obtain ⟨hz64, hzc⟩ := digit_of_value? hz
    obtain ⟨hw64, hwd⟩ := digit_of_value? hw
    have hfirst : (UInt8.ofNat (x * 4 + y / 16)).toNat = x * 4 + y / 16 :=
      toNat_ofNat_of_lt (by omega)
    have hsecond : (UInt8.ofNat (y % 16 * 16 + z / 4)).toNat = y % 16 * 16 + z / 4 :=
      toNat_ofNat_of_lt (by omega)
    have hthird : (UInt8.ofNat (z % 4 * 64 + w)).toNat = z % 4 * 64 + w :=
      toNat_ofNat_of_lt (by omega)
    rw [encodeChars, hfirst, hsecond, hthird, show (x * 4 + y / 16) / 4 = x by omega,
      show (x * 4 + y / 16) % 4 * 16 + (y % 16 * 16 + z / 4) / 16 = y by omega,
      show (y % 16 * 16 + z / 4) % 16 * 4 + (z % 4 * 64 + w) / 64 = z by omega,
      show (z % 4 * 64 + w) % 64 = w by omega, hxa, hyb, hzc, hwd, ih htail]

/-! ## Whole texts -/

theorem decode?_encode (bytes : List UInt8) : decode? (encode bytes) = some bytes := by
  rw [decode?, encode, String.toList_ofList]
  exact decodeChars_encodeChars bytes

theorem encode_of_decode? {text : String} {bytes : List UInt8} (h : decode? text = some bytes) :
    encode bytes = text := by
  rw [encode, encodeChars_of_decodeChars h, String.ofList_toList]

/-- **Every byte list has one text**, and no other text is read as it. -/
theorem decode?_eq_some_iff {text : String} {bytes : List UInt8} :
    decode? text = some bytes ↔ text = encode bytes := by
  constructor
  · intro h
    exact (encode_of_decode? h).symm
  · intro h
    rw [h]
    exact decode?_encode bytes

/-! ## The form of a text -/

/-- Every written character is the digit of a number. -/
theorem exists_digit_of_mem {bytes : List UInt8} {c : Char} (h : c ∈ encodeChars bytes) :
    ∃ n < 64, c = digit n := by
  fun_induction encodeChars bytes with
  | case1 => cases h
  | case2 a =>
    have ha : a.toNat < 256 := a.toNat_lt
    simp only [List.mem_cons, List.not_mem_nil, or_false] at h
    rcases h with rfl | rfl
    · exact ⟨_, by omega, rfl⟩
    · exact ⟨_, by omega, rfl⟩
  | case3 a b =>
    have ha : a.toNat < 256 := a.toNat_lt
    have hb : b.toNat < 256 := b.toNat_lt
    simp only [List.mem_cons, List.not_mem_nil, or_false] at h
    rcases h with rfl | rfl | rfl
    · exact ⟨_, by omega, rfl⟩
    · exact ⟨_, by omega, rfl⟩
    · exact ⟨_, by omega, rfl⟩
  | case4 a b c rest ih =>
    have ha : a.toNat < 256 := a.toNat_lt
    have hb : b.toNat < 256 := b.toNat_lt
    have hc : c.toNat < 256 := c.toNat_lt
    simp only [List.mem_cons] at h
    rcases h with rfl | rfl | rfl | rfl | hrest
    · exact ⟨_, by omega, rfl⟩
    · exact ⟨_, by omega, rfl⟩
    · exact ⟨_, by omega, rfl⟩
    · exact ⟨_, by omega, rfl⟩
    · exact ih hrest

/-- The first character of a text comes from the upper bits of the first byte. -/
theorem head?_encode (first : UInt8) (rest : List UInt8) :
    (encode (first :: rest)).toList.head? = some (digit (first.toNat / 4)) := by
  rw [encode, String.toList_ofList]
  -- the first digit is the same in all three kinds of group
  match rest with
  | [] | [_] | _ :: _ :: _ => rw [encodeChars, List.head?_cons]

/-- A text has characters of the alphabet only; there is no padding. -/
theorem inAlphabet_of_mem_encode {bytes : List UInt8} {c : Char}
    (h : c ∈ (encode bytes).toList) : InAlphabet c := by
  rw [encode, String.toList_ofList] at h
  obtain ⟨n, hn, rfl⟩ := exists_digit_of_mem h
  exact inAlphabet_digit hn

/-- Three bytes take four characters, and a rest of them as few as it needs. -/
theorem length_encodeChars (bytes : List UInt8) :
    (encodeChars bytes).length = (4 * bytes.length + 2) / 3 := by
  fun_induction encodeChars bytes with
  | case1 => rfl
  | case2 a => simp
  | case3 a b => simp
  | case4 a b c rest ih =>
    simp only [List.length_cons, ih]
    omega

theorem length_toList_encode (bytes : List UInt8) :
    (encode bytes).toList.length = (4 * bytes.length + 2) / 3 := by
  rw [encode, String.toList_ofList, length_encodeChars]

/-- Every character of a text takes one byte. -/
theorem utf8ByteSize_encode (bytes : List UInt8) :
    (encode bytes).utf8ByteSize = (encode bytes).toList.length := by
  have hchars : ∀ cs : List Char, (∀ c ∈ cs, c.utf8Size = 1) →
      (String.ofList cs).utf8ByteSize = cs.length := by
    intro cs hcs
    induction cs with
    | nil => rfl
    | cons c cs ih =>
      rw [utf8ByteSize_ofList_cons, hcs c List.mem_cons_self,
        ih fun d hd => hcs d (List.mem_cons_of_mem c hd), List.length_cons]
      omega
  rw [encode, String.toList_ofList]
  refine hchars _ fun c hc => ?_
  obtain ⟨n, hn, rfl⟩ := exists_digit_of_mem hc
  exact utf8Size_digit hn

end RegistryGate.Text.Base64Url
