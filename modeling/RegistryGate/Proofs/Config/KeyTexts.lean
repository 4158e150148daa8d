/-
  Keys as texts.

  A key has one text, of letters, digits, hyphens and low lines only.  So neither a comma nor white
  space nor padding is ever part of it, and a key text is read as the key that is left when these are
  taken off (`decode_eq_ok_iff`).  A list of keys may therefore be laid out with commas, white space,
  padding and blank entries in any amount (`Listed`): cutting it apart and reading its entries gives
  the keys back, in their order.
-/
import Mathlib.Data.List.Forall2
import RegistryGate.Config.Resources
import RegistryGate.Proofs.Fallible
import RegistryGate.Proofs.Text.Base64Url
import RegistryGate.Proofs.Text.Cutting
import RegistryGate.Proofs.Text.Trimming

namespace RegistryGate

namespace Token

/-! ## One key -/

/-- No character of a key's text is padding, a separator or white space. -/
theorem Key.plain_of_mem_encode {key : Key} {c : Char} (h : c ∈ key.encode.toList) :
    c ≠ '=' ∧ c ≠ ',' ∧ Text.isBlank c = false := by
  rw [Key.encode, Text.Base64Url.encode, String.toList_ofList] at h
  obtain ⟨n, hn, rfl⟩ := Text.Base64Url.exists_digit_of_mem h
  exact (by decide : ∀ n < 64, Text.Base64Url.digit n ≠ '=' ∧ Text.Base64Url.digit n ≠ ',' ∧
    Text.isBlank (Text.Base64Url.digit n) = false) n hn

/-- A key's text is that of no other key. -/
theorem Key.encode_injective {key key' : Key} (h : key.encode = key'.encode) : key = key' := by
  have hbytes : some key.bytes = some key'.bytes := by
    rw [← Text.Base64Url.decode?_encode, ← Text.Base64Url.decode?_encode, ← Key.encode, h, Key.encode]
  cases key
  cases key'
  cases hbytes
  rfl

theorem Key.encode_ne_empty (key : Key) : key.encode ≠ "" := by
  intro h
  have hlength := Text.Base64Url.length_toList_encode key.bytes
  rw [← Key.encode, h, key.length_bytes] at hlength
  cases hlength

/-- **A text is read as the key whose text it is**, once white space around it and padding behind it
are taken off. -/
theorem Key.decode_eq_ok_iff {text : String} {key : Key} :
    Key.decode text = .ok key ↔ Text.trimEnd '=' (Text.trim text) = key.encode := by
  unfold Key.decode
  constructor
  · intro h
    split at h
    · cases h
    · rename_i bytes hbytes
      split at h
      · cases h
        exact (Text.Base64Url.encode_of_decode? hbytes).symm
      · cases h
  · intro h
    rw [h, Key.encode, Text.Base64Url.decode?_encode]
    dsimp only
    rw [dif_pos key.length_bytes]

/-! ## A text with padding -/

/-- A key's text with padding directly behind it. -/
def Key.padded (key : Key) (padding : Nat) : String :=
  key.encode ++ String.ofList (List.replicate padding '=')

theorem Key.plain_of_mem_padded {key : Key} {padding : Nat} {c : Char}
    (h : c ∈ (key.padded padding).toList) : c ≠ ',' ∧ Text.isBlank c = false := by
  rw [Key.padded, String.toList_append, String.toList_ofList, List.mem_append] at h
  rcases h with h | h
  · exact (Key.plain_of_mem_encode h).2
  · rw [List.eq_of_mem_replicate h]
    decide

theorem Key.trim_padded (key : Key) (padding : Nat) :
    Text.trim (key.padded padding) = key.padded padding :=
  Text.trim_eq_self_of_forall fun _ hc => (Key.plain_of_mem_padded hc).2

theorem Key.isEmpty_padded (key : Key) (padding : Nat) : (key.padded padding).isEmpty = false := by
  rw [Bool.eq_false_iff]
  intro h
  have happend : key.padded padding = "" := String.isEmpty_iff.mp h
  rw [Key.padded, String.append_eq_empty_iff] at happend
  exact key.encode_ne_empty happend.1

/-- Padding does not count. -/
theorem Key.decode_padded (key : Key) (padding : Nat) : Key.decode (key.padded padding) = .ok key := by
  have hplain : '=' ∉ key.encode.toList := fun h => (Key.plain_of_mem_encode h).1 rfl
  rw [Key.decode_eq_ok_iff, Key.trim_padded, Key.padded, Text.trimEnd_append_replicate,
    Text.trimEnd_eq_self hplain]

/-! ## Several keys -/

/-- Texts are read as keys one by one, wherever the count starts. -/
theorem Key.decodeAll_of_forall₂ {texts : List String} {keys : List Key}
    (h : List.Forall₂ (fun text key => Key.decode text = .ok key) texts keys) (position : Nat) :
    Key.decodeAll position texts = .ok keys := by
  -- the induction is on the two lists together; in the rest only the count is another
  induction h generalizing position with
  | nil => rfl
  | cons htext _ ih =>
    rw [Key.decodeAll, htext]
    dsimp only
    rw [ih (position + 1)]
    rfl

/-- Texts that are read as keys, of which there is one, make a cipher. -/
theorem Cipher.ofTexts_of_decodeAll {hash : Digest.KeyedHash} {texts : List String} {keys : List Key}
    (h : Key.decodeAll 0 texts = .ok keys) (hne : keys ≠ []) :
    Cipher.ofTexts hash texts = .ok ⟨hash, keys.map (KeyPair.derive hash)⟩ := by
  unfold Cipher.ofTexts
  rw [h]
  show Cipher.ofKeys hash keys = _
  rw [Cipher.ofKeys, if_neg fun hempty => hne (List.isEmpty_iff.mp hempty)]

end Token

namespace Config

open Digest (KeyedHash)
open Token (Cipher Key KeyPair)

/-! ## Lists of keys -/

/-- How keys are laid out as parts between commas: every key stands in a part of its own, in order,
with any padding directly behind it and white space around that, and blank parts may come
anywhere. -/
inductive Listed : List Key → List String → Prop where
  /-- There is nothing left. -/
  | nil : Listed [] []
  /-- A blank part. -/
  | blank {keys : List Key} {parts : List String} {part : String} :
    Text.isBlankText part = true → Listed keys parts → Listed keys (part :: parts)
  /-- The part of a key. -/
  | key {keys : List Key} {parts : List String} {before after : String} (key : Key) (padding : Nat) :
    Text.isBlankText before = true → Text.isBlankText after = true → Listed keys parts →
    Listed (key :: keys) ((before ++ key.padded padding ++ after) :: parts)

theorem comma_not_mem_of_isBlankText {s : String} (h : Text.isBlankText s = true) :
    ',' ∉ s.toList := by
  intro hmem
  have hblank := List.all_eq_true.mp h ',' hmem
  revert hblank
  decide

/-- No part holds a comma. -/
theorem Listed.comma_not_mem {keys : List Key} {parts : List String} (h : Listed keys parts) :
    ∀ part ∈ parts, ',' ∉ part.toList := by
  -- a part is blank, or has one key with blanks around it
  induction h with
  | nil => exact fun _ hpart => absurd hpart List.not_mem_nil
  | blank hblank _ ih => exact List.forall_mem_cons.mpr ⟨comma_not_mem_of_isBlankText hblank, ih⟩
  | key key padding hbefore hafter _ ih =>
    refine List.forall_mem_cons.mpr ⟨?_, ih⟩
    rw [String.toList_append, String.toList_append, List.mem_append, List.mem_append]
    rintro ((hmem | hmem) | hmem)
    · exact comma_not_mem_of_isBlankText hbefore hmem
    · exact (Key.plain_of_mem_padded hmem).1 rfl
    · exact comma_not_mem_of_isBlankText hafter hmem

/-- What is left of the parts, when they are trimmed and the blank ones are left out, are texts of
the keys.  A blank part becomes empty and is left out, and the part of a key becomes its padded
text, so the induction follows the two kinds of parts. -/
theorem Listed.decodes {keys : List Key} {parts : List String} (h : Listed keys parts) :
    List.Forall₂ (fun text key => Key.decode text = .ok key)
      ((parts.map Text.trim).filter fun text => !text.isEmpty) keys := by
  induction h with
  | nil => exact .nil
  | blank hblank _ ih =>
    rw [List.map_cons, Text.trim_of_isBlankText hblank, List.filter_cons_of_neg (by decide)]
    exact ih
  | key key padding hbefore hafter _ ih =>
    have htrim := Text.trim_surrounded (key.padded padding) hbefore hafter
    rw [List.map_cons, htrim, key.trim_padded,
      List.filter_cons_of_pos (by rw [key.isEmpty_padded]; rfl)]
    exact .cons (key.decode_padded padding) ih

/-- The texts that a list of keys is split into are texts of these keys. -/
theorem Listed.decodes_splitKeys {keys : List Key} {parts : List String} (h : Listed keys parts) :
    List.Forall₂ (fun text key => Key.decode text = .ok key)
      (splitKeys (Text.joinWith "," parts)) keys := by
  unfold splitKeys
  by_cases hne : parts = []
  · -- nothing is joined to the empty text, which is one blank part
    have hone : Listed keys ("" :: parts) := .blank rfl h
    rw [hne] at hone ⊢
    exact hone.decodes
  · have hcut : Text.splitOn ',' (Text.joinWith "," parts) = parts :=
      Text.splitOn_joinWith hne h.comma_not_mem
    rw [hcut]
    exact h.decodes

/-! ## The settings -/

/-- Holds of settings that take the keys from a text, which stands in a file or in an environment
variable. -/
def TokenizationSettings.ReadsKeys (s : TokenizationSettings) (env : Environment) (text : String) :
    Prop :=
  s.keys = [] ∧
    ((∃ path, s.keysPath = some path ∧ readSecret env path = .ok text) ∨
      (s.keysPath = none ∧ readVariable env s.keysEnv = .ok text))

/-- Such settings have the keys of the text, if these are not too many. -/
theorem TokenizationSettings.ReadsKeys.keyTexts {s : TokenizationSettings} {env : Environment}
    {text : String} (h : s.ReadsKeys env text) (hne : splitKeys text ≠ [])
    (hmany : (splitKeys text).length ≤ maxTokenizationKeys) :
    s.keyTexts env = .ok (splitKeys text) := by
  obtain ⟨hkeys, hsource⟩ := h
  have hsome : (splitKeys text).isEmpty = false := by simpa using hne
  rcases hsource with ⟨path, hpath, hread⟩ | ⟨hpath, hread⟩
  -- the two sources differ in where the text is read, and in nothing after that
  all_goals
    unfold TokenizationSettings.keyTexts
    simp only [hkeys, hpath, hread, List.isEmpty_nil, Bool.not_true, Bool.false_eq_true, if_false]
    show (if (splitKeys text).isEmpty then _ else _) = _
    rw [hsome, if_neg Bool.false_ne_true, if_neg (Nat.not_lt.mpr hmany)]
    rfl

/-! ## Generated keys -/

/-- **Keys load back from their texts.**  Up to sixteen keys may be laid out with commas, white space,
padding and blank entries as one likes: what is cut out of that is read as these keys in their order,
by the cipher as well as by settings that take the text from a file or a variable.  A key text is
accepted exactly when, with white space around it and then all padding behind it taken off, it is the
text of a key, which is then the only one. -/
theorem listed_keys_load (hash : KeyedHash) :
    (∀ (keys : List Key) (parts : List String), 1 ≤ keys.length → keys.length ≤ 16 →
      Listed keys parts →
      Key.decodeAll 0 (splitKeys (Text.joinWith "," parts)) = .ok keys ∧
      Cipher.ofTexts hash (splitKeys (Text.joinWith "," parts))
        = .ok ⟨hash, keys.map (KeyPair.derive hash)⟩ ∧
      ∀ (s : TokenizationSettings) (env : Environment),
        s.ReadsKeys env (Text.joinWith "," parts) →
        s.cipher env = .ok ⟨Digest.hmacSha256, keys.map (KeyPair.derive Digest.hmacSha256)⟩) ∧
    (∀ (text : String) (key : Key),
      Key.decode text = .ok key ↔ Text.trimEnd '=' (Text.trim text) = key.encode) ∧
    (∀ text : String, (∃ key, Key.decode text = .ok key) ↔
      ∃! key : Key, Text.trimEnd '=' (Text.trim text) = key.encode) := by
  refine ⟨?_, fun _ _ => Key.decode_eq_ok_iff, ?_⟩
  · -- the parts are texts of the keys, and all the rest follows from that
    intro keys parts hsome hmany hlisted
    have hdecodes := hlisted.decodes_splitKeys
    have hkeys := Key.decodeAll_of_forall₂ hdecodes 0
    have hcipher (hash : KeyedHash) : Cipher.ofTexts hash (splitKeys (Text.joinWith "," parts))
        = .ok ⟨hash, keys.map (KeyPair.derive hash)⟩ :=
      Cipher.ofTexts_of_decodeAll hkeys (List.ne_nil_of_length_pos hsome)
    refine ⟨hkeys, hcipher hash, fun s env hreads => ?_⟩
    have hlength := hdecodes.length_eq
    have htexts := hreads.keyTexts (List.ne_nil_of_length_pos (hlength ▸ hsome)) (hlength ▸ hmany)
    refine Fallible.bind_eq_ok_iff.mpr ⟨_, htexts, ?_⟩
    rw [hcipher]
    rfl
  · intro text
    constructor
    · rintro ⟨key, hkey⟩
      have htext := Key.decode_eq_ok_iff.mp hkey
      exact ⟨key, htext, fun other hother => Key.encode_injective (hother.symm.trans htext)⟩
    · rintro ⟨key, hkey, -⟩
      exact ⟨key, Key.decode_eq_ok_iff.mpr hkey⟩

/-- A key whose bytes are all the same. -/
def uniformKey (byte : UInt8) : Key := ⟨List.replicate Token.keyLength byte, List.length_replicate⟩

/-- Two keys as a person may write them. -/
def sampleKeyText : String :=
  "\n BwcHBwcHBwcHBwcHBwcHBwcHBwcHBwcHBwcHBwcHBwc== ,, \t,CAgICAgICAgICAgICAgICAgICAgICAgICAgICAgICAg\r\n"

/-- A machine without files, where the text is in the variable for keys. -/
def sampleKeyEnvironment : Environment where
  files := ⟨fun _ => .error .notFound, fun _ => .error .notFound, fun _ => false,
    fun _ => .error .notFound⟩
  valueOf? := fun name => if name = "BRP_GATE_ENCRYPTION_KEYS" then some sampleKeyText else none

/-- The two keys load from that text, also by way of the variable; and one of the entries is the text
of the second key alone. -/
theorem listed_keys_load_of_two :
    Listed [uniformKey 7, uniformKey 8]
        ["\n " ++ (uniformKey 7).padded 2 ++ " ", "", " \t",
          "" ++ (uniformKey 8).padded 0 ++ "\r\n"] ∧
      Key.decodeAll 0 (splitKeys sampleKeyText) = .ok [uniformKey 7, uniformKey 8] ∧
      ({} : TokenizationSettings).cipher sampleKeyEnvironment
        = .ok ⟨Digest.hmacSha256,
          [uniformKey 7, uniformKey 8].map (KeyPair.derive Digest.hmacSha256)⟩ ∧
      ∃! key : Key, Text.trimEnd '=' (Text.trim " CAgICAgICAgICAgICAgICAgICAgICAgICAgICAgICAg=\r\n")
        = key.encode := by
  have hlisted : Listed [uniformKey 7, uniformKey 8]
      ["\n " ++ (uniformKey 7).padded 2 ++ " ", "", " \t",
        "" ++ (uniformKey 8).padded 0 ++ "\r\n"] :=
    .key _ _ rfl rfl (.blank rfl (.blank rfl (.key _ _ rfl rfl .nil)))
  have htext : Text.joinWith "," ["\n " ++ (uniformKey 7).padded 2 ++ " ", "", " \t",
      "" ++ (uniformKey 8).padded 0 ++ "\r\n"] = sampleKeyText := rfl
  obtain ⟨hload, -, haccepted⟩ := listed_keys_load Digest.hmacSha256
  obtain ⟨hkeys, -, hsettings⟩ := hload _ _ (by decide) (by decide) hlisted
  rw [htext] at hkeys hsettings
  have hreads : ({} : TokenizationSettings).ReadsKeys sampleKeyEnvironment sampleKeyText :=
    ⟨rfl, .inr ⟨rfl, rfl⟩⟩
  exact ⟨hlisted, hkeys, hsettings {} sampleKeyEnvironment hreads,
    (haccepted _).mp ⟨uniformKey 8, rfl⟩⟩

end Config

end RegistryGate
