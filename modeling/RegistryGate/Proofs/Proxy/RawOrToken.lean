/-
  A text is a raw identifier or a token, and is never taken for the other.

  What a cipher accepts or makes is no run of digits.  So wherever a request carries a raw identifier,
  it still carries it after tokens are put back, also where the request is refused half-way
  (`valueAt?_of_digitRun`).  A token of whatever cipher that stands in a listed parameter passes only
  as a token of the caller's own correlation id, never as a raw identifier; and since what a token
  stands for is shorter, it does not stand there any more (`exists_restored_of_valueAt?`), however
  often the parameter is listed.
-/
import RegistryGate.Proofs.Proxy.RestoredParameters

namespace RegistryGate.Proxy

open Token (Cipher)

variable {cipher : Cipher} {allowRaw : Bool} {correlation parameter text name : String}
variable {replace : String → Except TokenDenial String} {payload : Payload} {place : Place}

/-! ## Raw identifiers -/

/-- A run of digits stands for itself, where it is let through. -/
theorem eq_of_detokenize_digitRun (hrun : Text.DigitRun text) {out : String}
    (h : detokenize cipher allowRaw correlation parameter text = .ok out) : out = text := by
  obtain ⟨-, rfl⟩ := detokenize_eq_ok_iff.mp h
  unfold standsFor
  cases hdecrypt : cipher.decrypt text correlation with
  | ok identifier => exact absurd hrun (Token.Cipher.not_digitRun_of_decrypt hdecrypt)
  | error reason => rfl

/-- An item that stands for itself stays, whatever becomes of the others.  Until the first item that
is denied it is replaced by itself, and from there on nothing is changed. -/
theorem getElem?_detokenizeItems_of_kept (hkept : ∀ out, replace text = .ok out → out = text)
    {items : List Json} {index : Nat} (h : items[index]? = some (.string text)) :
    (detokenizeItems replace items).1[index]? = some (.string text) := by
  -- on the items, up to the first one that is denied
  fun_induction detokenizeItems replace items generalizing index with
  | case1 => cases h
  | case2 => exact h
  | case3 first rest identifier hidentifier restItems restDenial hrest ih =>
    rw [hrest] at ih
    cases index with
    | zero =>
      cases h
      rw [hkept identifier hidentifier]
      rfl
    | succ index => exact ih h
  | case4 item rest hother restItems restDenial hrest ih =>
    rw [hrest] at ih
    cases index with
    | zero => exact h
    | succ index => exact ih h

/-- A text that stands for itself stays where it is. -/
theorem at?_detokenizeValue_of_kept (hkept : ∀ out, replace text = .ok out → out = text)
    {value : Json} (h : value.at? place = some (.string text)) :
    (detokenizeValue replace value).1.at? place = some (.string text) := by
  cases value with
  | string held =>
    cases place with
    | item index => cases h
    | whole =>
      cases h
      unfold detokenizeValue
      dsimp only
      split
      · rfl
      · rename_i out hout
        rw [hkept out hout]
        rfl
  | array items =>
    cases place with
    | whole => cases h
    | item index => exact getElem?_detokenizeItems_of_kept hkept h
  | null | bool | number | object => exact h

/-- **A raw identifier is never changed**, whether the request is let through or refused.  A run of
digits does not decrypt; it stands for itself or is denied, and stays in either case, and a turn for
another parameter does not touch its place. -/
theorem valueAt?_of_digitRun (hrun : Text.DigitRun text) {parameters : List String}
    (h : valueAt? payload name place = some (.string text)) :
    valueAt? (detokenizeParameters cipher allowRaw correlation parameters payload).1 name place
      = some (.string text) := by
  -- on the parameters; a refused one ends the treatment and leaves what there is
  induction parameters generalizing payload with
  | nil => exact h
  | cons parameter rest ih =>
    unfold detokenizeParameters
    split
    · exact ih h
    · rename_i value hvalue
      -- one parameter keeps the text, whether its value is let through or not
      have hkept : ∀ restored denial,
          detokenizeValue (detokenize cipher allowRaw correlation parameter) value
            = (restored, denial) →
          valueAt? (payload.insert parameter restored) name place = some (.string text) := by
        intro restored denial hrestored
        by_cases hname : name = parameter
        · subst hname
          rw [valueAt?_of_get? hvalue] at h
          have hplace : (detokenizeValue (detokenize cipher allowRaw correlation name) value).1.at?
              place = some (.string text) :=
            at?_detokenizeValue_of_kept (fun out => eq_of_detokenize_digitRun hrun) h
          rw [hrestored] at hplace
          rw [valueAt?_insert_self]
          exact hplace
        · rw [valueAt?_insert_of_ne hname]
          exact h
      split
      · rename_i restored hrestored
        exact ih (hkept restored none hrestored)
      · rename_i restored denial hrestored
        exact hkept restored _ hrestored

/-! ## Tokens -/

/-- A text of a value that is let through is acceptable, and what it stands for takes its place. -/
theorem restored_of_at? {value out : Json}
    (h : detokenizeValue (detokenize cipher allowRaw correlation parameter) value = (out, none))
    (hat : value.at? place = some (.string text)) :
    Acceptable cipher allowRaw correlation text ∧
      out.at? place = some (.string (standsFor cipher correlation text)) := by
  obtain ⟨shown, hshown, hplace⟩ := exists_replacement_of_at? h hat
  obtain ⟨haccepted, rfl⟩ := detokenize_eq_ok_iff.mp hshown
  exact ⟨haccepted, hplace⟩

/-- What a text stands for is no longer than the text. -/
theorem utf8ByteSize_standsFor_le (cipher : Cipher) (correlation text : String) :
    (standsFor cipher correlation text).utf8ByteSize ≤ text.utf8ByteSize := by
  unfold standsFor
  -- decrypting takes something off, and what cannot be decrypted stands for itself
  cases hdecrypt : cipher.decrypt text correlation with
  | ok identifier => exact Nat.le_of_lt (Token.Cipher.decrypt_shortens hdecrypt)
  | error reason => exact Nat.le_refl _

/-- A text that is no raw identifier is acceptable as a token only. -/
theorem exists_decrypt_of_acceptable (h : Acceptable cipher allowRaw correlation text)
    (hrun : ¬ Text.DigitRun text) :
    (∃ identifier, cipher.decrypt text correlation = .ok identifier) ∧
      (standsFor cipher correlation text).utf8ByteSize < text.utf8ByteSize := by
  obtain ⟨identifier, hdecrypt⟩ := h.resolve_right fun hraw => hrun hraw.1
  refine ⟨⟨identifier, hdecrypt⟩, ?_⟩
  rw [standsFor, hdecrypt]
  exact Token.Cipher.decrypt_shortens hdecrypt

/-- **What becomes of a text in a request that is let through.**  Its place holds a text that is no
longer.  In a listed parameter it is shorter, unless it was a raw identifier, for then the text was
a token of the correlation id.  What a token stands for is shorter than the token.  A text that is
treated again, because its parameter is listed again, can only become shorter still. -/
theorem exists_restored_of_valueAt? {parameters : List String} {out : Payload}
    (h : detokenizeParameters cipher allowRaw correlation parameters payload = (out, none))
    (hat : valueAt? payload name place = some (.string text)) :
    ∃ shown, valueAt? out name place = some (.string shown) ∧
      shown.utf8ByteSize ≤ text.utf8ByteSize ∧
      (name ∈ parameters → ¬ Text.DigitRun text →
        (∃ identifier, cipher.decrypt text correlation = .ok identifier) ∧
          shown.utf8ByteSize < text.utf8ByteSize) := by
  -- by induction on the listed parameters, for every text to start from
  induction parameters generalizing payload text with
  | nil =>
    cases h
    exact ⟨text, hat, Nat.le_refl _, fun hname => absurd hname List.not_mem_nil⟩
  | cons parameter rest ih =>
    obtain ⟨habsent, h⟩ | ⟨value, restored, hvalue, hrestored, h⟩ :=
      cases_of_detokenizeParameters h
    · obtain ⟨shown, hshown, hsize, hlisted⟩ := ih h hat
      refine ⟨shown, hshown, hsize, fun hname => hlisted ?_⟩
      refine (List.mem_cons.mp hname).resolve_left ?_
      rintro rfl
      rw [valueAt?_of_get?_none habsent] at hat
      cases hat
    · by_cases hname : name = parameter
      · -- what the text stands for goes on through the other parameters
        subst hname
        rw [valueAt?_of_get? hvalue] at hat
        obtain ⟨haccepted, hplace⟩ := restored_of_at? hrestored hat
        have hbetween : valueAt? (Members.insert name restored payload) name place
            = some (.string (standsFor cipher correlation text)) := by
          rw [valueAt?_insert_self]
          exact hplace
        obtain ⟨shown, hshown, hsize, -⟩ := ih h hbetween
        have hle := utf8ByteSize_standsFor_le cipher correlation text
        refine ⟨shown, hshown, Nat.le_trans hsize hle, fun _ hrun => ?_⟩
        obtain ⟨hdecrypt, hlt⟩ := exists_decrypt_of_acceptable haccepted hrun
        exact ⟨hdecrypt, Nat.lt_of_le_of_lt hsize hlt⟩
      · -- another parameter is treated, and the place is not touched
        have hframe : valueAt? (Members.insert parameter restored payload) name place
            = some (.string text) := by
          rw [valueAt?_insert_of_ne hname]
          exact hat
        obtain ⟨shown, hshown, hsize, hlisted⟩ := ih h hframe
        exact ⟨shown, hshown, hsize,
          fun hmem => hlisted ((List.mem_cons.mp hmem).resolve_left hname)⟩

/-! ## Requests -/

/-- **Tokens and raw identifiers never overlap.**  No cipher accepts a run of digits, under any
correlation id, and none makes one.  Hence a raw identifier that a request carries, in whatever
parameter, still stands in its place after tokens are put back, also in a request that is refused.
And whatever cipher made a token: in a listed parameter of a request that is let through, it is a
token that the gateway's cipher accepts under the caller's correlation id, and it does not stand in
its place any more. -/
theorem raw_or_token (cipher : Cipher) (correlation : String) :
    (∀ text, Text.DigitRun text → ∃ fault, cipher.decrypt text correlation = .error fault) ∧
    (∀ plain token, cipher.encrypt plain correlation = .ok token → ¬ Text.DigitRun token) ∧
    (∀ rule granted payload out denial name place text,
      detokenizeRequest rule cipher granted correlation payload = (out, denial) →
      Text.DigitRun text → valueAt? payload name place = some (.string text) →
      valueAt? out name place = some (.string text)) ∧
    ∀ rule granted payload out,
      detokenizeRequest rule cipher granted correlation payload = (out, none) →
      ∀ name ∈ rule.parameters, ∀ place (maker : Cipher) origin plain token,
        maker.encrypt plain origin = .ok token →
        valueAt? payload name place = some (.string token) →
        (∃ identifier, cipher.decrypt token correlation = .ok identifier) ∧
          valueAt? out name place ≠ some (.string token) := by
  refine ⟨fun text hrun => ?_, fun plain token => Token.Cipher.not_digitRun_of_encrypt,
    fun rule granted payload out denial name place text h hrun hat => ?_,
    fun rule granted payload out h name hname place maker origin plain token hmade hat => ?_⟩
  · cases hdecrypt : cipher.decrypt text correlation with
    | ok identifier => exact absurd hrun (Token.Cipher.not_digitRun_of_decrypt hdecrypt)
    | error fault => exact ⟨fault, rfl⟩
  · have hkept : valueAt? (detokenizeRequest rule cipher granted correlation payload).1 name place
        = some (.string text) := valueAt?_of_digitRun hrun hat
    rw [h] at hkept
    exact hkept
  · obtain ⟨shown, hshown, -, hlisted⟩ := exists_restored_of_valueAt? h hat
    obtain ⟨hdecrypt, hlt⟩ := hlisted hname (Token.Cipher.not_digitRun_of_encrypt hmade)
    refine ⟨hdecrypt, fun hsame => ?_⟩
    rw [hshown] at hsame
    cases hsame
    exact Nat.lt_irrefl _ hlt

/-- With the scope for raw identifiers the token of a list gives way to what it stands for, and
without it the number beside it is denied: it stands in its place either way. -/
theorem raw_or_token_of_numbers :
    Text.DigitRun "12" ∧
      (∃ fault, Token.Cipher.sampleCipher.decrypt "12" "visit-1" = .error fault) ∧
      Token.Cipher.sampleCipher.encrypt "7" "visit-1" = .ok Token.Cipher.sampleToken ∧
      ¬ Text.DigitRun Token.Cipher.sampleToken ∧
      detokenizeRequest numberRule Token.Cipher.sampleCipher .empty "visit-1" numberPayload
        = (restoredNumbers, some (.rawIdentifier "bsn")) ∧
      valueAt? numberPayload "bsn" (.item 1) = some (.string "12") ∧
      valueAt? restoredNumbers "bsn" (.item 1) = some (.string "12") ∧
      detokenizeRequest numberRule Token.Cipher.sampleCipher (SortedSet.singleton "raw") "visit-1"
        numberPayload = (restoredNumbers, none) ∧
      valueAt? numberPayload "bsn" (.item 0) = some (.string Token.Cipher.sampleToken) ∧
      (∃ identifier, Token.Cipher.sampleCipher.decrypt Token.Cipher.sampleToken "visit-1"
        = .ok identifier) ∧
      valueAt? restoredNumbers "bsn" (.item 0) ≠ some (.string Token.Cipher.sampleToken) := by
  have hrun : Text.DigitRun "12" := looksRaw_iff.mp (by decide +kernel)
  have hmade := Token.Cipher.encrypt_sampleCipher
  have hrefused := detokenize_numbers_refused
  have hgranted := detokenize_numbers_granted
  have hnumber : valueAt? numberPayload "bsn" (.item 1) = some (.string "12") := by rfl
  have htoken : valueAt? numberPayload "bsn" (.item 0)
      = some (.string Token.Cipher.sampleToken) := by rfl
  obtain ⟨hdecrypt, hencrypt, hkept, hgone⟩ := raw_or_token Token.Cipher.sampleCipher "visit-1"
  obtain ⟨htaken, hchanged⟩ := hgone numberRule (SortedSet.singleton "raw") numberPayload
    restoredNumbers hgranted "bsn" List.mem_cons_self (.item 0) Token.Cipher.sampleCipher "visit-1"
    "7" _ hmade htoken
  exact ⟨hrun, hdecrypt "12" hrun, hmade, hencrypt "7" _ hmade, hrefused, hnumber,
    hkept numberRule .empty numberPayload restoredNumbers _ "bsn" (.item 1) "12" hrefused hrun
      hnumber, hgranted, htoken, htaken, hchanged⟩

end RegistryGate.Proxy
