/-
  No token is a run of digits.

  A raw identifier is a run of digits.  The first character of a token is made of the upper bits of
  its version, and is a letter (`head?_tokenText`).  Since an accepted text is the token of some key,
  no run of digits is accepted, however long it is, whatever the keys are and whatever the hash
  computes (`not_digitRun_of_decrypt`); and none is made (`not_digitRun_of_encrypt`).
-/
import RegistryGate.Proofs.Token.Canonical

namespace RegistryGate

/-- Holds of a text that consists of ASCII digits, and of at least one. -/
def Text.DigitRun (text : String) : Prop := text ≠ "" ∧ ∀ c ∈ text.toList, '0' ≤ c ∧ c ≤ '9'

namespace Token.Cipher

open Digest (KeyedHash)

variable {cipher : Cipher} {token correlation identifier : String}

/-- Every token starts with the letter of its version. -/
theorem head?_tokenText (hash : KeyedHash) (keys : KeyPair) (correlation : String)
    (plain : List UInt8) : (tokenText hash keys correlation plain).toList.head? = some 'A' := by
  rw [tokenText, tokenBytes, Text.Base64Url.head?_encode]
  rfl

theorem not_digitRun_tokenText (hash : KeyedHash) (keys : KeyPair) (correlation : String)
    (plain : List UInt8) : ¬ Text.DigitRun (tokenText hash keys correlation plain) := by
  rintro ⟨-, hdigits⟩
  -- its first character would be a digit
  have hfirst := List.mem_of_head? (head?_tokenText hash keys correlation plain)
  exact absurd (hdigits 'A' hfirst).2 (by decide)

/-- **No run of digits is accepted.** -/
theorem not_digitRun_of_decrypt (h : cipher.decrypt token correlation = .ok identifier) :
    ¬ Text.DigitRun token := by
  obtain ⟨keys, -, rfl⟩ := exists_tokenText_of_decrypt h
  exact not_digitRun_tokenText _ _ _ _

/-- **No run of digits is made.** -/
theorem not_digitRun_of_encrypt (h : cipher.encrypt identifier correlation = .ok token) :
    ¬ Text.DigitRun token := by
  obtain ⟨-, key, rest, -, rfl⟩ := encrypt_eq_ok_iff.mp h
  exact not_digitRun_tokenText _ _ _ _

end Token.Cipher

end RegistryGate
