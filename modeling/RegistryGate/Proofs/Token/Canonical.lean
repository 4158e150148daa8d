/-
  Which texts a cipher accepts.

  Under one key, a correlation id and an identifier have exactly one token, `tokenText`.  Reading a
  token takes it apart (`split_eq_ok_iff`), takes the mask off and computes the tag anew; what a key
  opens is therefore the token of that key and of nothing else (`open?_eq_some_iff`).  A cipher
  accepts a token exactly when it is that of one of its keys and of no earlier one
  (`decrypt_eq_ok_iff`).  From this one statement follow that what was hidden comes back
  (`decrypt_encrypt`), that accepted tokens are canonical, and that a token which is accepted under
  another correlation id shows two framed inputs with one tag (`decrypt_canonical`).
-/
import RegistryGate.Proofs.Fallible
import RegistryGate.Proofs.Text.Base64Url
import RegistryGate.Proofs.Token.Masking
import RegistryGate.Proofs.Token.Framing

namespace RegistryGate.Token

open Digest (KeyedHash)

variable {hash : KeyedHash} {keys : KeyPair} {token correlation : String} {plain : List UInt8}

/-! ## The token of one key -/

/-- Every tag has the same length. -/
theorem KeyPair.length_tag (hash : KeyedHash) (keys : KeyPair) (correlation : String)
    (plain : List UInt8) : (keys.tag hash correlation plain).length = tagLength := by
  rw [tag, List.length_take, hash.length_run]
  rfl

namespace Cipher

/-- The token that one key gives to bytes under a correlation id. -/
def tokenText (hash : KeyedHash) (keys : KeyPair) (correlation : String) (plain : List UInt8) :
    String :=
  Text.Base64Url.encode (tokenBytes hash keys correlation plain)

theorem length_tokenBytes (hash : KeyedHash) (keys : KeyPair) (correlation : String)
    (plain : List UInt8) :
    (tokenBytes hash keys correlation plain).length = plain.length + (tagLength + 1) := by
  rw [tokenBytes, List.length_cons, List.length_append, KeyPair.length_tag,
    KeyPair.length_applyMask]
  omega

/-- The characters of a token, counted from the bytes that it hides. -/
theorem length_tokenText (hash : KeyedHash) (keys : KeyPair) (correlation : String)
    (plain : List UInt8) :
    (tokenText hash keys correlation plain).toList.length
      = (4 * (plain.length + (tagLength + 1)) + 2) / 3 := by
  rw [tokenText, Text.Base64Url.length_toList_encode, length_tokenBytes]

/-! ## Taking a token apart -/

/-- The parts of a token are those of a text that is short enough and of the known version.
Base64url has one text for each byte list, so the parts determine the text. -/
theorem split_eq_ok_iff {tag masked : List UInt8} :
    split token = .ok (tag, masked) ↔
      token.utf8ByteSize ≤ maxTokenLength ∧ tag.length = tagLength ∧
        token = Text.Base64Url.encode (version :: (tag ++ masked)) := by
  unfold split
  constructor
  · -- a token passes four checks: its size, its alphabet, its version and its length
    intro h
    split at h
    · cases h
    · rename_i hsize
      cases hdecode : Text.Base64Url.decode? token with
      | none =>
        rw [hdecode] at h
        cases h
      | some bytes =>
        rw [hdecode] at h
        have htext : token = Text.Base64Url.encode bytes :=
          Text.Base64Url.decode?_eq_some_iff.mp hdecode
        cases bytes with
        | nil => cases h
        | cons found rest =>
          dsimp only at h
          split at h
          · cases h
          · rename_i hversion
            split at h
            · cases h
            · rename_i hlength
              cases h
              obtain rfl : found = version := Classical.not_not.mp hversion
              refine ⟨by omega, ?_, ?_⟩
              · rw [List.length_take]
                omega
              · rw [List.take_append_drop]
                exact htext
  · rintro ⟨hsize, hlength, rfl⟩
    rw [if_neg (by omega), Text.Base64Url.decode?_encode]
    have henough : ¬ (tag ++ masked).length < tagLength := by
      rw [List.length_append]
      omega
    dsimp only
    rw [if_neg (not_not_intro rfl), if_neg henough, List.take_left' hlength,
      List.drop_left' hlength]

/-- **What a key opens is its own token.** -/
theorem open?_eq_some_iff {tag masked : List UInt8} (h : split token = .ok (tag, masked)) :
    open? hash correlation tag masked keys = some plain ↔
      token = tokenText hash keys correlation plain := by
  obtain ⟨-, hlength, htoken⟩ := split_eq_ok_iff.mp h
  unfold open?
  dsimp only
  constructor
  · intro hopen
    split at hopen
    · rename_i htag
      obtain rfl := Option.some.inj hopen
      -- the mask that was taken off is the one that the token has on
      rw [htoken, tokenText, tokenBytes, htag, KeyPair.applyMask_applyMask]
    · cases hopen
  · -- two equal texts have the same bytes, and these fall into the same parts
    intro htext
    have hbytes : version :: (tag ++ masked) = tokenBytes hash keys correlation plain := by
      have hsame := htoken.symm.trans htext
      have hdecoded := congrArg Text.Base64Url.decode? hsame
      rw [tokenText, Text.Base64Url.decode?_encode, Text.Base64Url.decode?_encode] at hdecoded
      exact Option.some.inj hdecoded
    have hparts : tag ++ masked = keys.tag hash correlation plain
        ++ keys.applyMask hash (keys.tag hash correlation plain) plain :=
      (List.cons.inj hbytes).2
    obtain ⟨rfl, rfl⟩ := List.append_inj hparts (by rw [hlength, KeyPair.length_tag])
    rw [KeyPair.applyMask_applyMask, if_pos rfl]

/-! ## Accepted tokens -/

/-- Once a token is taken apart, it is accepted for the bytes that the first fitting key finds. -/
theorem decrypt_of_split {cipher : Cipher} {identifier : String} {tag masked : List UInt8}
    (h : split token = .ok (tag, masked)) :
    cipher.decrypt token correlation = .ok identifier ↔
      cipher.keys.findSome? (open? cipher.hash correlation tag masked)
        = some (Text.Utf8.encode identifier) := by
  unfold decrypt
  rw [h]
  dsimp only
  cases cipher.keys.findSome? (open? cipher.hash correlation tag masked) with
  | none => exact iff_of_false (fun hnone => nomatch hnone) fun hnone => nomatch hnone
  | some plain =>
    dsimp only
    constructor
    · intro haccepted
      split at haccepted
      · cases haccepted
      · rename_i decoded hdecoded
        cases haccepted
        rw [Text.Utf8.encode_of_decode? hdecoded]
    · intro hplain
      rw [Option.some.inj hplain, Text.Utf8.decode?_encode]

/-- **A cipher accepts exactly the tokens of its keys**, each for the first key that it belongs to.
The first key that opens the parts answers; it opens them exactly when the text is its own token,
and no key before it has opened them. -/
theorem decrypt_eq_ok_iff {cipher : Cipher} {identifier : String} :
    cipher.decrypt token correlation = .ok identifier ↔
      token.utf8ByteSize ≤ maxTokenLength ∧
        ∃ before keys after, cipher.keys = before ++ keys :: after ∧
          token = tokenText cipher.hash keys correlation (Text.Utf8.encode identifier) ∧
          ∀ earlier ∈ before, ∀ plain, token ≠ tokenText cipher.hash earlier correlation plain := by
  constructor
  · intro h
    cases hsplit : split token with
    | error fault =>
      unfold decrypt at h
      rw [hsplit] at h
      cases h
    | ok parts =>
      obtain ⟨tag, masked⟩ := parts
      obtain ⟨before, keys, after, hkeys, hopen, hbefore⟩ :=
        List.findSome?_eq_some_iff.mp ((decrypt_of_split hsplit).mp h)
      refine ⟨(split_eq_ok_iff.mp hsplit).1, before, keys, after, hkeys,
        (open?_eq_some_iff hsplit).mp hopen, ?_⟩
      -- an earlier key would have opened its own token
      intro earlier hearlier other hother
      have hopens := (open?_eq_some_iff hsplit).mpr hother
      rw [hbefore earlier hearlier] at hopens
      cases hopens
  · rintro ⟨hsize, before, keys, after, hkeys, htoken, hbefore⟩
    -- the parts of the token are those that the key has put into it
    have hsplit := split_eq_ok_iff.mpr ⟨hsize,
      KeyPair.length_tag cipher.hash keys correlation (Text.Utf8.encode identifier), htoken⟩
    refine (decrypt_of_split hsplit).mpr (List.findSome?_eq_some_iff.mpr
      ⟨before, keys, after, hkeys, (open?_eq_some_iff hsplit).mpr htoken, ?_⟩)
    intro earlier hearlier
    rw [Option.eq_none_iff_forall_not_mem]
    intro other hother
    exact hbefore earlier hearlier other ((open?_eq_some_iff hsplit).mp hother)

/-- An accepted token is the token of one of the cipher's keys. -/
theorem exists_tokenText_of_decrypt {cipher : Cipher} {identifier : String}
    (h : cipher.decrypt token correlation = .ok identifier) :
    ∃ keys ∈ cipher.keys,
      token = tokenText cipher.hash keys correlation (Text.Utf8.encode identifier) := by
  obtain ⟨-, before, keys, after, hkeys, htoken, -⟩ := decrypt_eq_ok_iff.mp h
  refine ⟨keys, ?_, htoken⟩
  rw [hkeys]
  exact List.mem_append_right before List.mem_cons_self

/-- **A token is longer than what it hides.**  No token therefore hides itself, and taking a token
off twice is never the same as taking it off once. -/
theorem decrypt_shortens {cipher : Cipher} {identifier : String}
    (h : cipher.decrypt token correlation = .ok identifier) :
    identifier.utf8ByteSize < token.utf8ByteSize := by
  obtain ⟨keys, -, htoken⟩ := exists_tokenText_of_decrypt h
  -- a token has more characters than it hides bytes, and no more characters than bytes
  have hlength := length_tokenText cipher.hash keys correlation (Text.Utf8.encode identifier)
  rw [← htoken, Text.Utf8.length_encode] at hlength
  have hchars := Text.length_le_utf8ByteSize token
  omega

/-! ## Tokens that are made -/

/-- A cipher makes the token of its first key, of every identifier that is short enough. -/
theorem encrypt_eq_ok_iff {cipher : Cipher} {identifier : String} :
    cipher.encrypt identifier correlation = .ok token ↔
      identifier.utf8ByteSize ≤ maxIdentifierLength ∧ ∃ key rest, cipher.keys = key :: rest ∧
        token = tokenText cipher.hash key correlation (Text.Utf8.encode identifier) := by
  unfold encrypt
  dsimp only
  rw [Text.Utf8.length_encode]
  by_cases hsize : identifier.utf8ByteSize > maxIdentifierLength
  · rw [if_pos hsize]
    exact iff_of_false (fun h => nomatch h) fun h => absurd h.1 (Nat.not_le_of_gt hsize)
  · rw [if_neg hsize]
    cases hkeys : cipher.keys with
    | nil => exact iff_of_false (fun h => nomatch h) fun ⟨_, _, _, h, _⟩ => nomatch h
    | cons key rest =>
      constructor
      · intro h
        exact ⟨Nat.le_of_not_gt hsize, key, rest, rfl, (Except.ok.inj h).symm⟩
      · rintro ⟨-, first, others, hsame, rfl⟩
        obtain ⟨rfl, -⟩ := List.cons.inj hsame
        rfl

/-- A token can be made when there is a key and the identifier is short enough. -/
theorem exists_encrypt_iff {cipher : Cipher} {identifier : String} :
    (∃ token, cipher.encrypt identifier correlation = .ok token) ↔
      cipher.keys ≠ [] ∧ identifier.utf8ByteSize ≤ maxIdentifierLength := by
  constructor
  · rintro ⟨token, h⟩
    obtain ⟨hsize, key, rest, hkeys, -⟩ := encrypt_eq_ok_iff.mp h
    exact ⟨hkeys ▸ List.cons_ne_nil key rest, hsize⟩
  · rintro ⟨hkeys, hsize⟩
    obtain ⟨key, rest, hcons⟩ := List.exists_cons_of_ne_nil hkeys
    exact ⟨_, encrypt_eq_ok_iff.mpr ⟨hsize, key, rest, hcons, rfl⟩⟩

/-! ## Round trip -/

/-- What a token may carry fits the longest text that is read. -/
theorem utf8ByteSize_tokenText_le (hash : KeyedHash) (keys : KeyPair) (correlation : String)
    {identifier : String} (hsize : identifier.utf8ByteSize ≤ maxIdentifierLength) :
    (tokenText hash keys correlation (Text.Utf8.encode identifier)).utf8ByteSize
      ≤ maxTokenLength := by
  -- a token of 273 bytes takes 364 characters, each of one byte
  rw [tokenText, Text.Base64Url.utf8ByteSize_encode, ← tokenText, length_tokenText,
    Text.Utf8.length_encode]
  unfold maxIdentifierLength at hsize
  unfold tagLength maxTokenLength
  omega

/-- What a cipher has made, it accepts: the key that made it is the first one that it tries. -/
theorem decrypt_of_encrypt {cipher : Cipher} {identifier : String}
    (h : cipher.encrypt identifier correlation = .ok token) :
    cipher.decrypt token correlation = .ok identifier := by
  obtain ⟨hsize, key, rest, hkeys, rfl⟩ := encrypt_eq_ok_iff.mp h
  have hfits := utf8ByteSize_tokenText_le cipher.hash key correlation hsize
  refine decrypt_eq_ok_iff.mpr ⟨hfits, [], key, rest, hkeys, rfl, ?_⟩
  intro earlier hearlier
  exact absurd hearlier List.not_mem_nil

/-- **Tokens round-trip.**  Raw keys, however many, make a cipher; it makes a token of every
identifier that is short enough, in the alphabet and in the length that it reads, and under the same
correlation id it gives the identifier back. -/
theorem decrypt_encrypt (hash : KeyedHash) {keys : List Key} (hkeys : keys ≠ [])
    (correlation : String) {identifier : String} (hsize : identifier.utf8ByteSize ≤ 256) :
    ∃ cipher token, Cipher.ofKeys hash keys = .ok cipher ∧
      cipher.encrypt identifier correlation = .ok token ∧
      token.toList.length ≤ 512 ∧
      (∀ c ∈ token.toList, Text.Base64Url.InAlphabet c) ∧
      cipher.decrypt token correlation = .ok identifier := by
  have hcipher : Cipher.ofKeys hash keys = .ok ⟨hash, keys.map (KeyPair.derive hash)⟩ := by
    rw [ofKeys, if_neg fun h => hkeys (List.isEmpty_iff.mp h)]
  obtain ⟨token, htoken⟩ : ∃ token,
      (Cipher.mk hash (keys.map (KeyPair.derive hash))).encrypt identifier correlation
        = .ok token :=
    exists_encrypt_iff.mpr ⟨fun h => hkeys (List.map_eq_nil_iff.mp h), hsize⟩
  refine ⟨_, token, hcipher, htoken, ?_, ?_, decrypt_of_encrypt htoken⟩
  all_goals obtain ⟨-, key, rest, -, rfl⟩ := encrypt_eq_ok_iff.mp htoken
  · exact Nat.le_trans (Text.length_le_utf8ByteSize _) (utf8ByteSize_tokenText_le _ _ _ hsize)
  · intro c hc
    exact Text.Base64Url.inAlphabet_of_mem_encode hc

/-- A number comes back from its token. -/
theorem decrypt_encrypt_of_number :
    ∃ cipher token,
      Cipher.ofKeys Digest.hmacSha256 [⟨List.replicate keyLength 7, List.length_replicate⟩,
        ⟨List.replicate keyLength 8, List.length_replicate⟩] = .ok cipher ∧
      cipher.encrypt "999993653" "visit-1" = .ok token ∧
      token.toList.length ≤ 512 ∧
      (∀ c ∈ token.toList, Text.Base64Url.InAlphabet c) ∧
      cipher.decrypt token "visit-1" = .ok "999993653" :=
  decrypt_encrypt Digest.hmacSha256 (List.cons_ne_nil _ _) "visit-1" (by decide)

/-- The raw key that repeats one byte. -/
def repeatedKey (byte : UInt8) : Key := ⟨List.replicate keyLength byte, List.length_replicate⟩

/-- The cipher of a single key. -/
def sampleCipher : Cipher :=
  ⟨Digest.hmacSha256, [KeyPair.derive Digest.hmacSha256 (repeatedKey 2)]⟩

/-- The token of a number of one digit. -/
def sampleToken : String := "ARRdO4EnJGsfKTTIElaSntiB"

theorem encrypt_sampleCipher : sampleCipher.encrypt "7" "visit-1" = .ok sampleToken :=
  Fallible.eq_ok_of_toOption (by decide +kernel)

/-! ## Canonical tokens -/

/-- One text has the same tag, whoever it is the token of. -/
theorem tag_eq_of_tokenText_eq {keys' : KeyPair} {correlation' : String} {plain' : List UInt8}
    (h : tokenText hash keys correlation plain = tokenText hash keys' correlation' plain') :
    keys.tag hash correlation plain = keys'.tag hash correlation' plain' := by
  -- two equal texts have the same bytes, and the tags have the same place in them
  have hdecoded := congrArg Text.Base64Url.decode? h
  rw [tokenText, tokenText, Text.Base64Url.decode?_encode, Text.Base64Url.decode?_encode]
    at hdecoded
  have hrest := (List.cons.inj (Option.some.inj hdecoded)).2
  exact (List.append_inj hrest (by rw [KeyPair.length_tag, KeyPair.length_tag])).1

/-- **Only canonical tokens are accepted, and nowhere but where they were made.**  An accepted text
is the base64url text of version, tag and masked identifier under one of the keys, and no other text
is accepted for that key and that identifier.  What a tag authenticates determines the correlation
id and the identifier, as long as eight bytes can count the bytes of the id.  So a token that is
accepted under another correlation id than the one it was made under, by a cipher with the same keys
or with others, is two different authenticated inputs with one tag. -/
theorem decrypt_canonical (hash : KeyedHash) (keys : List KeyPair) :
    (∀ token correlation identifier,
      (Cipher.mk hash keys).decrypt token correlation = .ok identifier →
      ∃ key ∈ keys,
        (key.tag hash correlation (Text.Utf8.encode identifier)).length = 16 ∧
        token = Text.Base64Url.encode (1 ::
          (key.tag hash correlation (Text.Utf8.encode identifier)
            ++ key.applyMask hash (key.tag hash correlation (Text.Utf8.encode identifier))
              (Text.Utf8.encode identifier))) ∧
        ∀ other, (Cipher.mk hash [key]).decrypt other correlation = .ok identifier →
          other = token) ∧
    (∀ (correlation correlation' : String) (plain plain' : List UInt8),
      correlation.utf8ByteSize < UInt64.size → correlation'.utf8ByteSize < UInt64.size →
      (correlation, plain) ≠ (correlation', plain') →
      KeyPair.frame correlation plain ≠ KeyPair.frame correlation' plain') ∧
    (∀ (makers : List KeyPair) (correlation correlation' identifier identifier' token : String),
      correlation.utf8ByteSize < UInt64.size → correlation'.utf8ByteSize < UInt64.size →
      correlation' ≠ correlation →
      (Cipher.mk hash makers).encrypt identifier correlation = .ok token →
      (Cipher.mk hash keys).decrypt token correlation' = .ok identifier' →
      ∃ maker ∈ makers, ∃ key ∈ keys,
        KeyPair.frame correlation (Text.Utf8.encode identifier)
          ≠ KeyPair.frame correlation' (Text.Utf8.encode identifier') ∧
        (hash.run maker.authentication
            (KeyPair.frame correlation (Text.Utf8.encode identifier))).take 16
          = (hash.run key.authentication
            (KeyPair.frame correlation' (Text.Utf8.encode identifier'))).take 16) := by
  refine ⟨?_, ?_, ?_⟩
  · intro token correlation identifier h
    obtain ⟨key, hkey, htoken⟩ := exists_tokenText_of_decrypt h
    refine ⟨key, hkey, KeyPair.length_tag .., htoken, fun other hother => ?_⟩
    obtain ⟨only, honly, hsame⟩ := exists_tokenText_of_decrypt hother
    obtain rfl := List.mem_singleton.mp honly
    exact hsame.trans htoken.symm
  · intro correlation correlation' plain plain' hfits hfits' hne hframe
    obtain ⟨hid, hplain⟩ := KeyPair.frame_injective hfits hfits' hframe
    exact hne (Prod.ext hid hplain)
  · intro makers correlation correlation' identifier identifier' token hfits hfits' hne hmade htaken
    obtain ⟨-, maker, others, hmakers, hmaketoken⟩ := encrypt_eq_ok_iff.mp hmade
    obtain ⟨key, hkey, htoken⟩ := exists_tokenText_of_decrypt htaken
    have hmaker : maker ∈ makers := by
      obtain rfl : makers = maker :: others := hmakers
      exact List.mem_cons_self
    refine ⟨maker, hmaker, key, hkey, fun hframe => ?_, ?_⟩
    · exact hne (KeyPair.frame_injective hfits hfits' hframe).1.symm
    · exact tag_eq_of_tokenText_eq (hmaketoken.symm.trans htoken)

/-- HMAC-SHA-256, but for one key under which no two messages are told apart. -/
def collidingHash : KeyedHash where
  run key message :=
    if key = [2] then List.replicate Digest.hashLength 0 else Digest.hmacSha256.run key message
  length_run key message := by
    split
    · exact List.length_replicate
    · exact Digest.hmacSha256.length_run key message

/-- A cipher that authenticates with that key, and masks with another one. -/
def collidingCipher : Cipher := ⟨collidingHash, [⟨[1], [2]⟩]⟩

/-- Where all tags are the same, the token of one visit is accepted at another: its text is still
the only one, and the two authenticated inputs are different ones with the same tag. -/
theorem decrypt_canonical_of_collision :
    collidingCipher.encrypt "7" "visit-1" = .ok "AQAAAAAAAAAAAAAAAAAAAACN" ∧
      collidingCipher.decrypt "AQAAAAAAAAAAAAAAAAAAAACN" "visit-2" = .ok "7" ∧
      (∀ other, collidingCipher.decrypt other "visit-2" = .ok "7" →
        other = "AQAAAAAAAAAAAAAAAAAAAACN") ∧
      KeyPair.frame "visit-1" (Text.Utf8.encode "7") ≠ KeyPair.frame "visit-17" [] ∧
      KeyPair.frame "visit-1" (Text.Utf8.encode "7")
        ≠ KeyPair.frame "visit-2" (Text.Utf8.encode "7") ∧
      (collidingHash.run [2] (KeyPair.frame "visit-1" (Text.Utf8.encode "7"))).take 16
        = (collidingHash.run [2] (KeyPair.frame "visit-2" (Text.Utf8.encode "7"))).take 16 := by
  have hmade : collidingCipher.encrypt "7" "visit-1" = .ok "AQAAAAAAAAAAAAAAAAAAAACN" :=
    Fallible.eq_ok_of_toOption (by decide +kernel)
  have htaken : collidingCipher.decrypt "AQAAAAAAAAAAAAAAAAAAAACN" "visit-2" = .ok "7" :=
    Fallible.eq_ok_of_toOption (by decide +kernel)
  obtain ⟨hcanonical, hframe, hforeign⟩ := decrypt_canonical collidingHash collidingCipher.keys
  refine ⟨hmade, htaken, ?_, ?_, ?_⟩
  · obtain ⟨key, hkey, -, -, honly⟩ := hcanonical _ _ _ htaken
    obtain rfl := List.mem_singleton.mp hkey
    exact honly
  · exact hframe _ _ _ _ (by decide) (by decide) (by decide)
  · obtain ⟨maker, hmaker, key, hkey, hdifferent, hcollide⟩ :=
      hforeign collidingCipher.keys _ _ _ _ _ (by decide) (by decide) (by decide) hmade htaken
    obtain rfl := List.mem_singleton.mp hmaker
    obtain rfl := List.mem_singleton.mp hkey
    exact ⟨hdifferent, hcollide⟩

end Cipher

end RegistryGate.Token
