/-
  Rotating keys.

  A new key is put in front of the old ones, and an old one stays for as long as its tokens are to
  be read.  A key *authenticates* a token when it computes, from the bytes that it unmasks, the tag
  that the token carries (`KeyPair.Authenticates`); no other key has a part in that, and it does not
  matter whether the bytes are a text.

  A cipher tries its keys in order.  A key that does not authenticate the token is passed over as if
  it were not there (`decrypt_cons_of_not`), and one that does ends the search, even if its bytes are
  no text (`decrypt_cons_of_authenticates`).  So the first key that authenticates the token answers,
  wherever it stands (`decrypt_of_first`).  A key authenticates the tokens that it has made
  (`authenticates_tokenText`), and a token is therefore read after any rotation that keeps its key,
  unless a newer key happens to authenticate it as well (`decrypt_rotated`).
-/
import RegistryGate.Proofs.Token.Canonical

namespace RegistryGate.Token

open Digest (KeyedHash)

/-- Holds when a key finds the bytes in a token and computes the token's tag from them. -/
def KeyPair.Authenticates (hash : KeyedHash) (correlation token : String) (keys : KeyPair)
    (plain : List UInt8) : Prop :=
  ∃ tag masked, Cipher.split token = .ok (tag, masked) ∧
    keys.applyMask hash tag masked = plain ∧ keys.tag hash correlation plain = tag

namespace Cipher

variable {hash : KeyedHash} {correlation token : String} {key : KeyPair} {keys : List KeyPair}
  {plain : List UInt8}

/-- What a cipher answers once a key has authenticated bytes. -/
def readPlain (plain : List UInt8) : Except TokenError String :=
  match Text.Utf8.decode? plain with
  | none => .error (.malformed .notUtf8)
  | some identifier => .ok identifier

theorem readPlain_encode (identifier : String) :
    readPlain (Text.Utf8.encode identifier) = .ok identifier := by
  rw [readPlain, Text.Utf8.decode?_encode]

/-! ## One key -/

/-- A token that can be taken apart is authenticated by the keys that open its parts. -/
theorem authenticates_iff_of_split {tag masked : List UInt8} (h : split token = .ok (tag, masked)) :
    key.Authenticates hash correlation token plain ↔
      open? hash correlation tag masked key = some plain := by
  constructor
  · rintro ⟨tag', masked', hsplit, rfl, htag⟩
    obtain ⟨rfl, rfl⟩ := Prod.mk.inj (Except.ok.inj (h.symm.trans hsplit))
    exact if_pos htag
  · intro hopen
    unfold open? at hopen
    dsimp only at hopen
    split at hopen
    · rename_i htag
      obtain rfl := Option.some.inj hopen
      exact ⟨tag, masked, h, rfl, htag⟩
    · cases hopen

/-- Whether a key authenticates a token is found by trying it. -/
instance : Decidable (∃ plain, key.Authenticates hash correlation token plain) :=
  match hsplit : split token with
  | .error _ => isFalse fun ⟨_, _, _, hok, _⟩ => nomatch hsplit.symm.trans hok
  | .ok (tag, masked) =>
    decidable_of_iff ((open? hash correlation tag masked key).isSome = true) <| by
      rw [Option.isSome_iff_exists]
      exact exists_congr fun plain => (authenticates_iff_of_split hsplit).symm

/-- **A key authenticates the tokens that it has made.** -/
theorem authenticates_tokenText (hash : KeyedHash) (key : KeyPair) (correlation : String)
    {identifier : String} (hsize : identifier.utf8ByteSize ≤ maxIdentifierLength) :
    key.Authenticates hash correlation
      (tokenText hash key correlation (Text.Utf8.encode identifier))
      (Text.Utf8.encode identifier) := by
  have hfits := utf8ByteSize_tokenText_le hash key correlation hsize
  have hsplit := split_eq_ok_iff.mpr
    ⟨hfits, KeyPair.length_tag hash key correlation (Text.Utf8.encode identifier), rfl⟩
  exact (authenticates_iff_of_split hsplit).mpr ((open?_eq_some_iff hsplit).mpr rfl)

/-! ## One key after the other -/

/-- A key that authenticates the token ends the search. -/
theorem decrypt_cons_of_authenticates (h : key.Authenticates hash correlation token plain) :
    (Cipher.mk hash (key :: keys)).decrypt token correlation = readPlain plain := by
  -- the key opens the parts, and the keys behind it are not tried
  obtain ⟨tag, masked, hsplit, -⟩ := id h
  have hopen := (authenticates_iff_of_split hsplit).mp h
  unfold decrypt
  rw [hsplit]
  dsimp only
  rw [List.findSome?_cons, hopen]
  rfl

/-- A key that does not authenticate the token is passed over. -/
theorem decrypt_cons_of_not (h : ∀ plain, ¬ key.Authenticates hash correlation token plain) :
    (Cipher.mk hash (key :: keys)).decrypt token correlation
      = (Cipher.mk hash keys).decrypt token correlation := by
  unfold decrypt
  cases hsplit : split token with
  | error fault => rfl
  | ok parts =>
    obtain ⟨tag, masked⟩ := parts
    have hopen : open? hash correlation tag masked key = none := by
      -- were bytes found, the key would authenticate them
      rw [Option.eq_none_iff_forall_ne_some]
      intro plain hsome
      exact h plain ((authenticates_iff_of_split hsplit).mpr hsome)
    dsimp only
    rw [List.findSome?_cons, hopen]

/-- Any number of such keys is passed over. -/
theorem decrypt_append {before : List KeyPair}
    (h : ∀ newer ∈ before, ∀ plain, ¬ newer.Authenticates hash correlation token plain) :
    (Cipher.mk hash (before ++ keys)).decrypt token correlation
      = (Cipher.mk hash keys).decrypt token correlation := by
  -- key by key, from the front
  induction before with
  | nil => rfl
  | cons newer rest ih =>
    have hnewer := h newer List.mem_cons_self
    have hrest : ∀ other ∈ rest, ∀ plain, ¬ other.Authenticates hash correlation token plain :=
      fun other hother => h other (List.mem_cons_of_mem newer hother)
    rw [List.cons_append, decrypt_cons_of_not hnewer, ih hrest]

/-- The first key that authenticates the token answers, whatever stands behind it. -/
theorem decrypt_of_first {before : List KeyPair}
    (hbefore : ∀ newer ∈ before, ∀ plain, ¬ newer.Authenticates hash correlation token plain)
    (hkey : key.Authenticates hash correlation token plain) :
    (Cipher.mk hash (before ++ key :: keys)).decrypt token correlation = readPlain plain := by
  rw [decrypt_append hbefore, decrypt_cons_of_authenticates hkey]

/-- Of the keys that authenticate a token one comes first. -/
theorem exists_first_authenticating {raws : List Key} {raw : Key} (hraw : raw ∈ raws)
    (h : (KeyPair.derive hash raw).Authenticates hash correlation token plain) :
    ∃ earlier first later found, raws = earlier ++ first :: later ∧
      (∀ newer ∈ earlier, ∀ plain,
        ¬ (KeyPair.derive hash newer).Authenticates hash correlation token plain) ∧
      (KeyPair.derive hash first).Authenticates hash correlation token found := by
  -- the first key that opens the parts, found by trying them in order
  obtain ⟨tag, masked, hsplit, -⟩ := id h
  let tried : Key → Option (List UInt8) :=
    fun raw => open? hash correlation tag masked (KeyPair.derive hash raw)
  have hopens : (raws.findSome? tried).isSome = true := by
    rw [List.findSome?_isSome_iff]
    refine ⟨raw, hraw, ?_⟩
    rw [show tried raw = some plain from (authenticates_iff_of_split hsplit).mp h]
    rfl
  obtain ⟨found, hfound⟩ := Option.isSome_iff_exists.mp hopens
  obtain ⟨earlier, first, later, hraws, hfirst, hearlier⟩ := List.findSome?_eq_some_iff.mp hfound
  refine ⟨earlier, first, later, found, hraws, ?_, (authenticates_iff_of_split hsplit).mpr hfirst⟩
  -- a key before it has been tried and has opened nothing
  intro newer hnewer other hother
  have hopen : tried newer = some other := (authenticates_iff_of_split hsplit).mp hother
  rw [hearlier newer hnewer] at hopen
  cases hopen

/-! ## Rotation -/

/-- Of raw keys, too, the first one that authenticates the token answers. -/
theorem decrypt_of_first_derived {earlier later : List Key} {first : Key}
    (hearlier : ∀ newer ∈ earlier, ∀ plain,
      ¬ (KeyPair.derive hash newer).Authenticates hash correlation token plain)
    (hfirst : (KeyPair.derive hash first).Authenticates hash correlation token plain) :
    (Cipher.mk hash ((earlier ++ first :: later).map (KeyPair.derive hash))).decrypt token
        correlation = readPlain plain := by
  -- a derived key comes from a raw one that does not authenticate the token either
  have hpairs : ∀ pair ∈ earlier.map (KeyPair.derive hash), ∀ plain,
      ¬ pair.Authenticates hash correlation token plain := by
    intro pair hpair
    obtain ⟨raw, hraw, rfl⟩ := List.mem_map.mp hpair
    exact hearlier raw hraw
  rw [List.map_append, List.map_cons]
  exact decrypt_of_first hpairs hfirst

/-- **Rotating keys keeps old tokens readable.**  Whatever keys are put before the one that made a
token, and whatever keys behind it, the token is read as before, unless one of the keys before it
authenticates the token as well.  New tokens are those of the first key.  In any case the first key
that authenticates the token answers, as it would answer alone. -/
theorem decrypt_rotated (hash : KeyedHash) (key : Key) (minting before after : List Key)
    (correlation : String) {identifier : String} (hsize : identifier.utf8ByteSize ≤ 256) :
    ∃ minter rotated token,
      ofKeys hash (key :: minting) = .ok minter ∧
      ofKeys hash (before ++ key :: after) = .ok rotated ∧
      minter.encrypt identifier correlation = .ok token ∧
      ((∀ newer ∈ before, ∀ plain,
          ¬ (KeyPair.derive hash newer).Authenticates hash correlation token plain) →
        rotated.decrypt token correlation = .ok identifier) ∧
      (∃ first rest, before ++ key :: after = first :: rest ∧
        ∀ other visit, rotated.encrypt other visit
          = (Cipher.mk hash [KeyPair.derive hash first]).encrypt other visit) ∧
      ∃ earlier first later plain, before ++ key :: after = earlier ++ first :: later ∧
        (∀ newer ∈ earlier, ∀ plain,
          ¬ (KeyPair.derive hash newer).Authenticates hash correlation token plain) ∧
        (KeyPair.derive hash first).Authenticates hash correlation token plain ∧
        rotated.decrypt token correlation = readPlain plain ∧
        rotated.decrypt token correlation
          = (Cipher.mk hash [KeyPair.derive hash first]).decrypt token correlation := by
  let token := tokenText hash (KeyPair.derive hash key) correlation (Text.Utf8.encode identifier)
  have hkey : (KeyPair.derive hash key).Authenticates hash correlation token _ :=
    authenticates_tokenText hash (KeyPair.derive hash key) correlation hsize
  have hkeys : (before ++ key :: after).isEmpty = false := by
    rw [List.isEmpty_eq_false_iff]
    exact List.append_ne_nil_of_right_ne_nil before (List.cons_ne_nil key after)
  refine ⟨⟨hash, (key :: minting).map (KeyPair.derive hash)⟩,
    ⟨hash, (before ++ key :: after).map (KeyPair.derive hash)⟩, token, rfl, ?_,
    encrypt_eq_ok_iff.mpr ⟨hsize, KeyPair.derive hash key, _, rfl, rfl⟩, ?_, ?_, ?_⟩
  · show (if (before ++ key :: after).isEmpty = true then _ else _) = _
    rw [hkeys]
    rfl
  · intro hbefore
    rw [decrypt_of_first_derived hbefore hkey, readPlain_encode]
  · -- the first key makes the new tokens, be it a newer one or the old one
    cases before with
    | nil => exact ⟨key, after, rfl, fun _ _ => rfl⟩
    | cons first rest => exact ⟨first, rest ++ key :: after, rfl, fun _ _ => rfl⟩
  · -- the old key authenticates the token, so there is a first one that does
    have hmem : key ∈ before ++ key :: after := List.mem_append_right before List.mem_cons_self
    obtain ⟨earlier, first, later, found, hraws, hearlier, hfirst⟩ :=
      exists_first_authenticating hmem hkey
    have hfound : (Cipher.mk hash ((before ++ key :: after).map (KeyPair.derive hash))).decrypt token
        correlation = readPlain found := by
      rw [hraws]
      exact decrypt_of_first_derived hearlier hfirst
    have halone : (Cipher.mk hash [KeyPair.derive hash first]).decrypt token correlation
        = readPlain found := decrypt_cons_of_authenticates hfirst
    exact ⟨earlier, first, later, found, hraws, hearlier, hfirst, hfound, hfound.trans halone.symm⟩

/-- A token of the old key is read once a new key stands before the old one. -/
theorem decrypt_rotated_of_renewed :
    ∃ minter rotated token,
      ofKeys Digest.hmacSha256 [repeatedKey 2] = .ok minter ∧
      ofKeys Digest.hmacSha256 [repeatedKey 3, repeatedKey 2] = .ok rotated ∧
      minter.encrypt "999990019" "visit-1" = .ok token ∧
      rotated.decrypt token "visit-1" = .ok "999990019" := by
  obtain ⟨minter, rotated, token, hminter, hrotated, htoken, hread, -⟩ :=
    decrypt_rotated Digest.hmacSha256 (repeatedKey 2) [] [repeatedKey 3] [] "visit-1"
      (by decide : "999990019".utf8ByteSize ≤ 256)
  refine ⟨minter, rotated, token, hminter, hrotated, htoken, hread ?_⟩
  have hmade : (minter.encrypt "999990019" "visit-1").toOption
      = some "ASTayO8mJDF1ffUWTLHG22udwE9zOzxmBTc" := by
    cases hminter
    decide +kernel
  rw [htoken] at hmade
  obtain rfl : token = "ASTayO8mJDF1ffUWTLHG22udwE9zOzxmBTc" := Option.some.inj hmade
  intro newer hnewer
  obtain rfl := List.mem_singleton.mp hnewer
  exact not_exists.mp (by decide +kernel)

/-- A keyed hash under which all keys compute one tag, and mask each in its own way. -/
def sharedTagHash : KeyedHash where
  run key message := List.replicate Digest.hashLength <|
    if message = Text.Utf8.encode "brp-gate/mac" then 0 else key.headD 0
  length_run _ _ := List.length_replicate

/-- Nothing less keeps the old tokens readable: a newer key that authenticates one answers first. -/
example :
    ((ofKeys sharedTagHash [repeatedKey 1]).toOption.bind fun minter =>
      (minter.encrypt "7" "visit-1").toOption.bind fun token =>
        (ofKeys sharedTagHash [repeatedKey 2, repeatedKey 1]).toOption.bind fun rotated =>
          (rotated.decrypt token "visit-1").toOption) = some "4" := by
  decide +kernel

end Cipher

end RegistryGate.Token
