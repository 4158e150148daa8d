/-
  Bodies that are read within a limit.

  The chunks of a body are kept one after the other, as long as all that is kept stays within the
  limit.  Whether the limit is exceeded does not depend on how the body is cut into chunks: the loop
  refuses a body exactly when the chunks together are too long (`foldlM_keep`).  So there are three
  ends of a reading.  A body that is declared or turns out too long is refused; one that is not, but
  breaks off, ends with what went wrong; and every other body is read as a whole.

  What the loop has in its buffer on the way is `Arrival.Holds`.  Each step keeps the buffer within the
  limit (`Arrival.Holds.size_le`), whatever was declared, and the steps are those of the loop
  (`Arrival.holds_iff`).  Adding up sizes in machine words, which stop at the largest word,
  makes no difference to the limit (`foldlM_keepInWords`).  Together this is `size_limit_exact`.
-/
import RegistryGate.Proofs.Fallible
import RegistryGate.Register.Exchange

namespace RegistryGate.Register

open Proxy (RegisterError)

/-! ## Chunks -/

/-- The number of bytes of some chunks together. -/
def chunkBytes : List ByteArray → Nat
  | [] => 0
  | chunk :: rest => chunk.size + chunkBytes rest

/-- The chunks, one behind the other. -/
def joinChunks (chunks : List ByteArray) : ByteArray := chunks.foldl (· ++ ·) ByteArray.empty

/-- **Chunks are kept together or not at all.**  On top of what was kept within the limit, all chunks
are kept when they fit together, however the bytes are cut into chunks. -/
theorem foldlM_keep {limit : Nat} (chunks : List ByteArray) {kept : ByteArray}
    (hkept : kept.size ≤ limit) :
    chunks.foldlM (keep limit) kept
      = if limit < kept.size + chunkBytes chunks then .error tooLong
        else .ok (chunks.foldl (· ++ ·) kept) := by
  -- on the chunks, with whatever was kept so far
  induction chunks generalizing kept with
  | nil =>
    have hfits : ¬ limit < kept.size + chunkBytes [] := Nat.not_lt.mpr hkept
    rw [if_neg hfits]
    rfl
  | cons chunk rest ih =>
    have htotal : chunkBytes (chunk :: rest) = chunk.size + chunkBytes rest := rfl
    rw [List.foldlM_cons, htotal]
    by_cases hlong : limit < kept.size + chunk.size
    · -- the loop stops here, and what is left of the chunks only adds to the length
      have hmore : limit < kept.size + (chunk.size + chunkBytes rest) := by omega
      rw [if_pos hmore, keep, if_pos hlong]
      rfl
    · have hsize : (kept ++ chunk).size = kept.size + chunk.size := ByteArray.size_append
      have hnext := ih (show (kept ++ chunk).size ≤ limit by omega)
      rw [keep, if_neg hlong]
      show rest.foldlM (keep limit) (kept ++ chunk) = _
      rw [hnext, hsize, Nat.add_assoc]
      rfl

theorem size_foldl_append (chunks : List ByteArray) (kept : ByteArray) :
    (chunks.foldl (· ++ ·) kept).size = kept.size + chunkBytes chunks := by
  induction chunks generalizing kept with
  | nil => rfl
  | cons chunk rest ih =>
    rw [List.foldl_cons, ih, ByteArray.size_append, Nat.add_assoc]
    rfl

theorem size_joinChunks (chunks : List ByteArray) :
    (joinChunks chunks).size = chunkBytes chunks := by
  rw [joinChunks, size_foldl_append, ByteArray.size_empty, Nat.zero_add]

theorem keep_eq_ok_iff {limit : Nat} {kept chunk more : ByteArray} :
    keep limit kept chunk = .ok more ↔ kept.size + chunk.size ≤ limit ∧ more = kept ++ chunk := by
  unfold keep
  split
  · rename_i hlong
    exact iff_of_false (fun h => nomatch h) fun ⟨hfits, _⟩ => absurd hfits (Nat.not_le.mpr hlong)
  · rename_i hfits
    constructor
    · intro h
      exact ⟨Nat.not_lt.mp hfits, (Except.ok.inj h).symm⟩
    · rintro ⟨-, rfl⟩
      rfl

/-! ### Sizes in machine words -/

/-- The largest machine word. -/
def maxWord : Nat := Nat.pow 2 64 - 1

/-- The sum of two machine words, or the largest one where the sum is beyond it. -/
def addInWords (a b : Nat) : Nat := min (a + b) maxWord

/-- Keeps one more chunk, with the sizes added in machine words. -/
def keepInWords (limit : Nat) (kept chunk : ByteArray) : Except RegisterError ByteArray :=
  if limit < addInWords kept.size chunk.size then .error tooLong else .ok (kept ++ chunk)

/-- The largest word is above every smaller limit, and no sum of words within it is cut short. -/
theorem keepInWords_eq {limit : Nat} {kept chunk : ByteArray}
    (h : limit < maxWord ∨ kept.size + chunk.size ≤ maxWord) :
    keepInWords limit kept chunk = keep limit kept chunk := by
  have hsame : limit < addInWords kept.size chunk.size ↔ limit < kept.size + chunk.size := by
    -- a sum is cut short only above every limit that matters
    unfold addInWords
    omega
  unfold keepInWords keep
  simp only [hsame]

/-- The loop comes to the same with sizes in machine words. -/
theorem foldlM_keepInWords {limit : Nat} (chunks : List ByteArray) {kept : ByteArray}
    (h : limit < maxWord ∨ kept.size + chunkBytes chunks ≤ maxWord) :
    chunks.foldlM (keepInWords limit) kept = chunks.foldlM (keep limit) kept := by
  -- on the chunks; each step of one loop is that step of the other
  induction chunks generalizing kept with
  | nil => rfl
  | cons chunk rest ih =>
    have htotal : chunkBytes (chunk :: rest) = chunk.size + chunkBytes rest := rfl
    have hstep : keepInWords limit kept chunk = keep limit kept chunk := keepInWords_eq (by omega)
    rw [List.foldlM_cons, List.foldlM_cons, hstep]
    cases hkeep : keep limit kept chunk with
    | error fault => rfl
    | ok more =>
      obtain ⟨-, rfl⟩ := keep_eq_ok_iff.mp hkeep
      have hsize : (kept ++ chunk).size = kept.size + chunk.size := ByteArray.size_append
      exact ih (by omega)

/-! ## Bodies -/

namespace Arrival

variable {limit : Nat} {body : Arrival}

/-- More bytes are declared, or arrive, than the limit allows. -/
def TooLong (limit : Nat) (body : Arrival) : Prop :=
  (∃ length, body.declared = some length ∧ limit < length) ∨ limit < chunkBytes body.chunks

/-- No more is declared than the limit allows. -/
theorem not_any_declared_iff :
    ¬ (body.declared.any fun length => decide (limit < length)) = true ↔
      ∀ length, body.declared = some length → length ≤ limit := by
  simp only [Option.any_eq_true, decide_eq_true_eq, not_exists, not_and, Nat.not_lt]

/-- What is too long is refused, whatever else is wrong with it. -/
theorem readLimited_of_tooLong (h : body.TooLong limit) :
    body.readLimited limit = .error tooLong := by
  unfold readLimited
  rcases h with ⟨length, hdeclared, hlong⟩ | hlong
  · rw [hdeclared, if_pos (by simpa using hlong)]
  · split
    · rfl
    · have hempty : ByteArray.empty.size ≤ limit := Nat.zero_le limit
      have hmore : limit < ByteArray.empty.size + chunkBytes body.chunks := by
        rw [ByteArray.size_empty]
        omega
      rw [foldlM_keep body.chunks hempty, if_pos hmore]

/-- The loop keeps all chunks of what is not too long. -/
theorem readLimited_of_not_tooLong (h : ¬ body.TooLong limit) :
    body.readLimited limit
      = match body.fault with
        | some fault => .error fault.toRegisterError
        | none => .ok (joinChunks body.chunks) := by
  have hdeclared := not_any_declared_iff.mpr fun length hlength =>
    Nat.not_lt.mp fun hlong => h (Or.inl ⟨length, hlength, hlong⟩)
  have hfits : ¬ limit < ByteArray.empty.size + chunkBytes body.chunks := by
    intro hlong
    rw [ByteArray.size_empty] at hlong
    exact h (Or.inr (by omega))
  unfold readLimited
  rw [if_neg hdeclared, foldlM_keep body.chunks (Nat.zero_le limit), if_neg hfits]
  cases body.fault <;> rfl

/-! ### The buffer -/

/-- At some time the reading of a body has the bytes in its buffer, with the chunks still to come. -/
inductive Holds (limit : Nat) (body : Arrival) : ByteArray → List ByteArray → Prop where
  /-- The buffer is empty at first; where too much is declared, there is none. -/
  | start : (∀ length, body.declared = some length → length ≤ limit) →
    Holds limit body ByteArray.empty body.chunks
  /-- The next chunk is kept. -/
  | next {kept chunk more : ByteArray} {rest : List ByteArray} :
    Holds limit body kept (chunk :: rest) → keep limit kept chunk = .ok more →
    Holds limit body more rest

variable {kept bytes : ByteArray} {rest : List ByteArray}

/-- **The buffer never holds more than the limit.** -/
theorem Holds.size_le (h : body.Holds limit kept rest) : kept.size ≤ limit := by
  -- by the steps of the loop, each of which checks the limit before it appends
  induction h with
  | start _ => exact Nat.zero_le limit
  | next _ hkeep _ =>
    obtain ⟨hfits, rfl⟩ := keep_eq_ok_iff.mp hkeep
    rw [ByteArray.size_append]
    exact hfits

/-- Chunks that the loop keeps get the buffer to what the loop makes of them. -/
theorem Holds.of_foldlM {front : List ByteArray} (h : body.Holds limit kept (front ++ rest))
    (hloop : front.foldlM (keep limit) kept = .ok bytes) : body.Holds limit bytes rest := by
  -- on the chunks that are taken in this stretch
  induction front generalizing kept with
  | nil =>
    cases hloop
    exact h
  | cons chunk front ih =>
    rw [List.foldlM_cons] at hloop
    obtain ⟨more, hkeep, hloop⟩ := Fallible.bind_eq_ok_iff.mp hloop
    exact ih (h.next hkeep) hloop

/-- **The buffer holds what the loop makes of the chunks so far.** -/
theorem holds_iff :
    body.Holds limit kept rest ↔
      (∀ length, body.declared = some length → length ≤ limit) ∧
        ∃ front, body.chunks = front ++ rest ∧
          front.foldlM (keep limit) ByteArray.empty = .ok kept := by
  constructor
  · intro h
    induction h with
    | start hdeclared => exact ⟨hdeclared, [], rfl, rfl⟩
    | @next kept chunk more rest _ hkeep ih =>
      obtain ⟨hdeclared, front, hchunks, hloop⟩ := ih
      refine ⟨hdeclared, front ++ [chunk], by rw [hchunks, List.append_assoc]; rfl, ?_⟩
      rw [List.foldlM_append, hloop]
      show [chunk].foldlM (keep limit) kept = .ok more
      rw [List.foldlM_cons, hkeep]
      rfl
  · rintro ⟨hdeclared, front, hchunks, hloop⟩
    have hstart : body.Holds limit ByteArray.empty body.chunks := .start hdeclared
    rw [hchunks] at hstart
    exact hstart.of_foldlM hloop

/-- When nothing is to come, the loop has gone through all chunks. -/
theorem holds_nil_iff :
    body.Holds limit bytes [] ↔
      (∀ length, body.declared = some length → length ≤ limit) ∧
        body.chunks.foldlM (keep limit) ByteArray.empty = .ok bytes := by
  rw [holds_iff]
  refine and_congr_right fun _ => ⟨?_, fun hloop => ⟨body.chunks, (List.append_nil _).symm, hloop⟩⟩
  rintro ⟨front, hchunks, hloop⟩
  rwa [hchunks, List.append_nil]

/-- A reading succeeds with what the buffer holds then, unless the body breaks off. -/
theorem readLimited_eq_ok_iff :
    body.readLimited limit = .ok bytes ↔ body.Holds limit bytes [] ∧ body.fault = none := by
  rw [holds_nil_iff, ← not_any_declared_iff]
  unfold readLimited
  constructor
  · intro h
    split at h
    · cases h
    · rename_i hdeclared
      split at h
      · cases h
      · cases h
      · rename_i hloop hfault
        cases h
        exact ⟨⟨hdeclared, hloop⟩, hfault⟩
  · rintro ⟨⟨hdeclared, hloop⟩, hfault⟩
    rw [if_neg hdeclared, hloop, hfault]

/-! ### The limit -/

/-- A body that does not break off and declares its own length, or none, is read when it is within the
limit, and refused when it is not. -/
theorem readLimited_of_declared (limit : Nat) (hfault : body.fault = none)
    (hdeclared : ∀ length, body.declared = some length → length = (joinChunks body.chunks).size) :
    body.readLimited limit
      = if (joinChunks body.chunks).size ≤ limit then .ok (joinChunks body.chunks)
        else .error tooLong := by
  rw [size_joinChunks] at hdeclared ⊢
  split
  · rename_i hfits
    have hnot : ¬ body.TooLong limit := by
      rintro (⟨length, hlength, hlong⟩ | hlong)
      · rw [hdeclared length hlength] at hlong
        exact Nat.not_lt.mpr hfits hlong
      · exact Nat.not_lt.mpr hfits hlong
    rw [readLimited_of_not_tooLong hnot, hfault]
  · rename_i hlong
    exact readLimited_of_tooLong (Or.inr (Nat.not_le.mp hlong))

/-- The loop alone comes to the same. -/
theorem foldlM_keep_eq (limit : Nat) (chunks : List ByteArray) :
    chunks.foldlM (keep limit) ByteArray.empty
      = if (joinChunks chunks).size ≤ limit then .ok (joinChunks chunks) else .error tooLong := by
  rw [foldlM_keep chunks (Nat.zero_le limit), ByteArray.size_empty, Nat.zero_add, size_joinChunks]
  simp only [← Nat.not_le]
  rw [ite_not]
  rfl

/-- **The size limit is exact.**  A body that does not break off, and declares its own length or none,
is read as a whole if it is no longer than the limit, and is refused as too long otherwise, however it
is cut into chunks; looking at the declared length first never changes what the loop alone would come
to.  Whatever is declared, and whether or not the body breaks off, the buffer never holds more than the
limit: it holds what the loop makes of the chunks so far, and a reading succeeds with what it holds at
the end.  Nor does it matter that sizes are added in machine words, where the limit is below the largest
one or the body fits into it. -/
theorem size_limit_exact (limit : Nat) :
    (∀ body : Arrival, body.fault = none →
      (∀ length, body.declared = some length → length = (joinChunks body.chunks).size) →
      (body.readLimited limit
        = if (joinChunks body.chunks).size ≤ limit then .ok (joinChunks body.chunks)
          else .error tooLong) ∧
      body.readLimited limit = body.chunks.foldlM (keep limit) ByteArray.empty) ∧
    (∀ (body : Arrival) (kept : ByteArray) (rest : List ByteArray),
      body.Holds limit kept rest → kept.size ≤ limit) ∧
    (∀ (body : Arrival) (kept : ByteArray) (rest : List ByteArray),
      body.Holds limit kept rest ↔
        (∀ length, body.declared = some length → length ≤ limit) ∧
          ∃ front, body.chunks = front ++ rest ∧
            front.foldlM (keep limit) ByteArray.empty = .ok kept) ∧
    (∀ (body : Arrival) (bytes : ByteArray),
      body.readLimited limit = .ok bytes ↔ body.Holds limit bytes [] ∧ body.fault = none) ∧
    ∀ chunks : List ByteArray, limit < maxWord ∨ (joinChunks chunks).size ≤ maxWord →
      chunks.foldlM (keepInWords limit) ByteArray.empty
        = chunks.foldlM (keep limit) ByteArray.empty := by
  refine ⟨fun body hfault hdeclared => ?_, fun _ _ _ => Holds.size_le, fun _ _ _ => holds_iff,
    fun _ _ => readLimited_eq_ok_iff, fun chunks hwords => foldlM_keepInWords chunks ?_⟩
  · have hread := readLimited_of_declared limit hfault hdeclared
    exact ⟨hread, hread.trans (foldlM_keep_eq limit body.chunks).symm⟩
  · rw [ByteArray.size_empty, Nat.zero_add, ← size_joinChunks]
    exact hwords

/-- A body of three bytes in two chunks. -/
def threeBytes : Arrival := ⟨some 3, [⟨#[91, 49]⟩, ⟨#[93]⟩], none⟩

/-- It is read when three bytes are allowed, and refused when two are; the first chunk is then in the
buffer, within the limit. -/
theorem size_limit_exact_of_three :
    threeBytes.readLimited 3 = .ok ⟨#[91, 49, 93]⟩ ∧ threeBytes.readLimited 2 = .error tooLong ∧
      (∃ rest, Holds 2 { threeBytes with declared := some 1 } ⟨#[91, 49]⟩ rest ∧
        (⟨#[91, 49]⟩ : ByteArray).size ≤ 2) ∧
      threeBytes.chunks.foldlM (keepInWords 2) ByteArray.empty = .error tooLong := by
  have hdeclared : ∀ length, threeBytes.declared = some length →
      length = (joinChunks threeBytes.chunks).size := by
    intro length hlength
    cases hlength
    rfl
  obtain ⟨hthree, -⟩ := size_limit_exact 3
  obtain ⟨htwo, hbuffer, -, -, hwords⟩ := size_limit_exact 2
  have hholds : Holds 2 { threeBytes with declared := some 1 } ⟨#[91, 49]⟩ [⟨#[93]⟩] := by
    refine .next (.start fun length hlength => ?_) rfl
    cases hlength
    decide
  refine ⟨(hthree threeBytes rfl hdeclared).1, (htwo threeBytes rfl hdeclared).1,
    ⟨_, hholds, hbuffer _ _ _ hholds⟩, ?_⟩
  rw [hwords threeBytes.chunks (Or.inl (by decide))]
  rfl

end Arrival

end RegistryGate.Register
