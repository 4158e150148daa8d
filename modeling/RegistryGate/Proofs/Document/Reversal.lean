/-
  Tokens can be taken out again.

  The walk that replaces texts keeps everything else: scalars are the same, lists are as long and
  objects are still objects (`kept_of_replaceTexts`).  So a second walk comes by the same texts under
  the same names, and where its replacement takes the first one back, it gives the document back
  (`replaceTexts_replaceTexts`), whatever the replacements are.

  For the tokens of a cipher this says what becomes of a document at every place (`Tokenized`).  The
  walk fails for one reason only, a text that is too long for a token; and taking every token off
  again gives the document back (`tokenized_exactly`).
-/
import RegistryGate.Proofs.Document.Provenance
import RegistryGate.Proofs.Token.Canonical

namespace RegistryGate.Document

open Token (Cipher TokenError)

variable {ε : Type} {fields : List String} {replacement restoration : String → Except ε String}

/-! ## What the walk keeps -/

/-- The walk keeps a value on the outside, and goes on inside. -/
theorem kept_of_replaceTexts {value out : Json}
    (h : replaceTexts fields replacement value = .ok out) : Kept value out := by
  cases value with
  | null | bool | number | string =>
    cases h
    rfl
  | array items =>
    obtain ⟨shown, hshown, rfl⟩ := replaceTexts_array.mp h
    exact (Fallible.length_eq_of_mapM hshown).symm
  | object members =>
    obtain ⟨shown, -, rfl⟩ := replaceTexts_object.mp h
    trivial

/-! ## Taking replacements back -/

section

variable (hback : ∀ text token, replacement text = .ok token → restoration token = .ok text)

include hback

/-- The second walk treats a member as the first one did, and takes back what became of it. -/
theorem replaceMember_replaceMember {name : String} {value out : Json}
    (hinside : replaceTexts fields replacement value = .ok out →
      replaceTexts fields restoration out = .ok value)
    (h : replaceMember fields replacement name value = .ok out) :
    replaceMember fields restoration name out = .ok value := by
  cases value with
  | string text =>
    rw [replaceMember] at h
    split at h
    · rename_i hname
      obtain ⟨token, htoken, rfl⟩ := Fallible.map_eq_ok_iff.mp h
      rw [replaceMember, if_pos hname]
      exact Fallible.map_eq_ok_iff.mpr ⟨text, hback text token htoken, rfl⟩
    · rename_i hname
      cases h
      rw [replaceMember, if_neg hname]
  | null | bool | number =>
    cases h
    rfl
  | array items =>
    obtain ⟨shown, -, rfl⟩ := replaceTexts_array.mp h
    exact hinside h
  | object members =>
    obtain ⟨shown, -, rfl⟩ := replaceTexts_object.mp h
    exact hinside h

/-- **A walk is undone by a walk that takes each replacement back.**  Members keep their names, so
the second walk replaces at the very places where the first one did, and each value there is taken
back. -/
theorem replaceTexts_replaceTexts {document out : Json}
    (h : replaceTexts fields replacement document = .ok out) :
    replaceTexts fields restoration out = .ok document := by
  -- by induction on the document, for whatever the first walk made of it
  induction document generalizing out with
  | null | bool | number | string =>
    cases h
    rfl
  | array items ih =>
    obtain ⟨shown, hshown, rfl⟩ := replaceTexts_array.mp h
    exact replaceTexts_array.mpr
      ⟨items, Fallible.mapM_eq_ok_of_mapM hshown fun item hitem out hout => ih item hitem hout, rfl⟩
  | object members ih =>
    obtain ⟨shown, hshown, rfl⟩ := replaceTexts_object.mp h
    refine replaceTexts_object.mpr
      ⟨members, Fallible.mapM_eq_ok_of_mapM hshown fun member hmember entry hentry => ?_, rfl⟩
    -- a member keeps its name, so the second walk treats it alike
    obtain ⟨out, hout, rfl⟩ := Fallible.map_eq_ok_iff.mp hentry
    exact Fallible.map_eq_ok_iff.mpr
      ⟨member.2, replaceMember_replaceMember hback (ih member hmember) hout, rfl⟩

/-- What was found at a place was treated as the last step to it says. -/
theorem exists_replaced {document out sent : Json} {place : Position}
    (h : replaceTexts fields replacement document = .ok out)
    (hsent : document.nested? place = some sent) :
    ∃ found, out.nested? place = some found ∧
      replaceBehind fields replacement place.getLast? sent = .ok found := by
  obtain ⟨found, hfound, -⟩ :=
    exists_nested?_of_replaceTexts (replaceTexts_replaceTexts hback h) hsent
  obtain ⟨before, hbefore, hreplaced⟩ := exists_nested?_of_replaceTexts h hfound
  obtain rfl := Option.some.inj (hbefore.symm.trans hsent)
  exact ⟨found, hfound, hreplaced⟩

end

/-! ## Tokens -/

variable {cipher : Cipher} {correlation : String}

/-- What a place of a document holds before and after texts are replaced by tokens. -/
inductive Tokenized (fields : List String) (cipher : Cipher) (correlation : String)
    (place : Position) : Json → Json → Prop where
  /-- A text that is the value of a named member gives way to its token. -/
  | token {plain token : String} (hnamed : Replaces fields place (.string plain))
    (hmade : cipher.encrypt plain correlation = .ok token) :
    Tokenized fields cipher correlation place (.string plain) (.string token)
  /-- Anything else is kept. -/
  | other {sent found : Json} (hother : ¬ Replaces fields place sent) (hkept : Kept sent found) :
    Tokenized fields cipher correlation place sent found

/-- What the walk makes of a value that it comes by. -/
theorem tokenized_of_replaceBehind {place : Position} {sent found : Json}
    (h : replaceBehind fields (cipher.encrypt · correlation) place.getLast? sent = .ok found) :
    Tokenized fields cipher correlation place sent found := by
  -- a text that is the value of a named member is the only thing that is replaced
  by_cases hreplaces : Replaces fields place sent
  · obtain ⟨name, plain, hlast, hname, rfl⟩ := id hreplaces
    rw [hlast, replaceBehind, replaceMember, if_pos (List.contains_iff_mem.mpr hname)] at h
    obtain ⟨token, htoken, rfl⟩ := Fallible.map_eq_ok_iff.mp h
    exact .token hreplaces htoken
  · rw [replaceBehind_of_not_replaces hreplaces] at h
    exact .other hreplaces (kept_of_replaceTexts h)

/-- Tokens can be made of all texts that are to be replaced when none of them is too long. -/
theorem exists_tokenized_iff (hkeys : cipher.keys ≠ []) {document : Json} :
    (∃ out, replaceTexts fields (cipher.encrypt · correlation) document = .ok out) ↔
      ∀ text, HasText fields text document → text.utf8ByteSize ≤ 256 :=
  exists_replaceTexts_iff.trans <| forall_congr' fun _ => imp_congr_right fun _ =>
    Token.Cipher.exists_encrypt_iff.trans (and_iff_right hkeys)

/-- **Replacing texts by tokens is exact, and can be taken back.**  A cipher with a key fails on a
document exactly when a text under one of the names, at some depth, is longer than 256 bytes.
Otherwise the document has the same places as before.  At each place a text that is the value of a
named member has given way to its token, and anything else is kept: a scalar as it is, a list with as
many items, an object as an object.  Replacing each of these texts by what it stands for, under the
same correlation id, gives the document back. -/
theorem tokenized_exactly (fields : List String) {cipher : Cipher} (hkeys : cipher.keys ≠ [])
    (correlation : String) (document : Json) :
    ((∃ fault, replaceTexts fields (cipher.encrypt · correlation) document = .error fault) ↔
      ∃ text, HasText fields text document ∧ 256 < text.utf8ByteSize) ∧
    ∀ out, replaceTexts fields (cipher.encrypt · correlation) document = .ok out →
      (∀ place, Option.Rel (Tokenized fields cipher correlation place)
        (document.nested? place) (out.nested? place)) ∧
      replaceTexts fields (cipher.decrypt · correlation) out = .ok document := by
  have hback : ∀ text token, cipher.encrypt text correlation = .ok token →
      cipher.decrypt token correlation = .ok text :=
    fun _ _ htoken => Token.Cipher.decrypt_of_encrypt htoken
  refine ⟨?_, fun out h => ⟨fun place => ?_, replaceTexts_replaceTexts hback h⟩⟩
  · -- the walk fails at the texts that cannot be encrypted, which are the long ones
    rw [Fallible.exists_eq_error_iff, exists_tokenized_iff hkeys]
    simp only [Classical.not_forall, exists_prop, Nat.not_le]
  · cases hsent : document.nested? place with
    | none =>
      cases hfound : out.nested? place with
      | none => exact .none
      | some found =>
        obtain ⟨sent, hthere, -⟩ := exists_nested?_of_replaceTexts h hfound
        cases hsent.symm.trans hthere
    | some sent =>
      obtain ⟨found, hfound, hreplaced⟩ := exists_replaced hback h hsent
      rw [hfound]
      exact .some (tokenized_of_replaceBehind hreplaced)

/-- A person with a child, of whom two have a number; one number stands where it is no number. -/
def numberedFamily : Json :=
  .object [("bsn", .string "7"), ("kinderen", .array [.object [("bsn", .string "7")], .string "7"])]

/-- The same family with its numbers hidden. -/
def hiddenFamily : Json :=
  .object [("bsn", .string Token.Cipher.sampleToken),
    ("kinderen", .array [.object [("bsn", .string Token.Cipher.sampleToken)], .string "7"])]

/-- The numbers of a family are hidden and come back; a number of 257 digits cannot be hidden. -/
theorem tokenized_exactly_of_family :
    Token.Cipher.sampleCipher.keys ≠ [] ∧
      replaceTexts ["bsn"] (Token.Cipher.sampleCipher.encrypt · "visit-1") numberedFamily
        = .ok hiddenFamily ∧
      Tokenized ["bsn"] Token.Cipher.sampleCipher "visit-1"
        [.member "kinderen", .item 0, .member "bsn"] (.string "7")
        (.string Token.Cipher.sampleToken) ∧
      replaceTexts ["bsn"] (Token.Cipher.sampleCipher.decrypt · "visit-1") hiddenFamily
        = .ok numberedFamily ∧
      ∃ fault, replaceTexts ["bsn"] (Token.Cipher.sampleCipher.encrypt · "visit-1")
        (.array [.object [("bsn", .string (String.ofList (List.replicate 257 '7')))]])
          = .error fault := by
  have hkeys : Token.Cipher.sampleCipher.keys ≠ [] := List.cons_ne_nil _ _
  have hhidden : replaceTexts ["bsn"] (Token.Cipher.sampleCipher.encrypt · "visit-1") numberedFamily
      = .ok hiddenFamily := Fallible.eq_ok_of_toOption (by decide +kernel)
  obtain ⟨-, hexact⟩ := tokenized_exactly ["bsn"] hkeys "visit-1" numberedFamily
  obtain ⟨hplaces, hback⟩ := hexact hiddenFamily hhidden
  obtain ⟨hlong, -⟩ := tokenized_exactly ["bsn"] hkeys "visit-1"
    (.array [.object [("bsn", .string (String.ofList (List.replicate 257 '7')))]])
  refine ⟨hkeys, hhidden, ?_, hback, hlong.mpr ⟨_, .item List.mem_cons_self
    (.here List.mem_cons_self List.mem_cons_self), by decide +kernel⟩⟩
  have hchild := hplaces [.member "kinderen", .item 0, .member "bsn"]
  cases hchild with
  | some h => exact h

end RegistryGate.Document
