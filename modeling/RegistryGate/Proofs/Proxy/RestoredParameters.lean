/-
  Which requests with tokens are let through, and as what.

  A text is acceptable when it is a token of the caller's correlation id, or looks raw where raw
  identifiers are allowed; it then stands for one text (`detokenize_eq_ok_iff`), and any other text
  is denied for one reason (`detokenize_eq_error_iff`).  The loop through the listed parameters ends
  at the first one with a text that is denied (`detokenizeParameters_snd`), and as long as it goes on
  it puts what the texts stand for in their places (`get?_detokenizeParameters`).

  A parameter that is listed twice would be treated twice, so the statement on requests,
  `restored_exactly`, takes the listed parameters to be distinct.
-/
import RegistryGate.Proofs.Proxy.Detokenization
import RegistryGate.Proofs.Token.DigitRuns

namespace RegistryGate.Proxy

open Token (Cipher TokenError)

variable {cipher : Cipher} {allowRaw : Bool} {correlation parameter text : String}

/-! ## One text -/

/-- What looks raw is a run of digits. -/
theorem looksRaw_iff : looksRaw text = true ↔ Text.DigitRun text := by
  have hdigit : ∀ c : Char, c.isDigit = true ↔ '0' ≤ c ∧ c ≤ '9' := fun c => by
    simp [Char.isDigit, Char.le_def]
  rw [looksRaw, Bool.and_eq_true, Bool.not_eq_true', List.all_eq_true, String.isEmpty_eq_false_iff]
  exact and_congr_right fun _ => forall₂_congr fun c _ => hdigit c

/-- Holds of a text that is let through: a token of the correlation id, or a run of digits where raw
identifiers are allowed. -/
def Acceptable (cipher : Cipher) (allowRaw : Bool) (correlation text : String) : Prop :=
  (∃ identifier, cipher.decrypt text correlation = .ok identifier) ∨
    Text.DigitRun text ∧ allowRaw = true

/-- What an acceptable text stands for: what its token hides, or the text itself. -/
def standsFor (cipher : Cipher) (correlation text : String) : String :=
  (cipher.decrypt text correlation).toOption.getD text

/-- Why a text is denied: a run of digits is a raw identifier, and any other text is no token of the
correlation id. -/
inductive Denied (cipher : Cipher) (correlation parameter text : String) : TokenDenial → Prop where
  /-- The text is a raw identifier. -/
  | raw (h : Text.DigitRun text) :
    Denied cipher correlation parameter text (.rawIdentifier parameter)
  /-- The text cannot be decrypted. -/
  | undecryptable {reason : TokenError} (h : ¬ Text.DigitRun text)
    (hreason : cipher.decrypt text correlation = .error reason) :
    Denied cipher correlation parameter text (.undecryptable parameter reason)

/-- An acceptable text is replaced by what it stands for. -/
theorem detokenize_eq_ok_iff {out : String} :
    detokenize cipher allowRaw correlation parameter text = .ok out ↔
      Acceptable cipher allowRaw correlation text ∧ out = standsFor cipher correlation text := by
  unfold detokenize Acceptable standsFor
  -- a token stands for what it hides, whether raw identifiers are allowed or not
  cases hdecrypt : cipher.decrypt text correlation with
  | ok identifier =>
    exact ⟨fun h => ⟨Or.inl ⟨identifier, rfl⟩, (Except.ok.inj h).symm⟩,
      fun h => congrArg Except.ok h.2.symm⟩
  | error reason =>
    dsimp only
    rw [← looksRaw_iff]
    cases looksRaw text with
    | false => simp
    | true => cases allowRaw <;> simp [Except.toOption, eq_comm]

/-- Any other text is denied.  A text is let through as what it decrypts to, or as itself where the
caller may send raw identifiers and it is a run of digits; what is left is denied for one of two
reasons. -/
theorem detokenize_eq_error_iff {denial : TokenDenial} :
    detokenize cipher allowRaw correlation parameter text = .error denial ↔
      ¬ Acceptable cipher allowRaw correlation text ∧
        Denied cipher correlation parameter text denial := by
  constructor
  · intro h
    refine ⟨fun hacceptable => ?_, ?_⟩
    · rw [detokenize_eq_ok_iff.mpr ⟨hacceptable, rfl⟩] at h
      cases h
    · unfold detokenize at h
      split at h
      · cases h
      · rename_i reason hreason
        split at h
        · rename_i hraw
          split at h
          · cases h
          · cases h
            exact .raw (looksRaw_iff.mp hraw)
        · rename_i hraw
          cases h
          exact .undecryptable (fun hrun => hraw (looksRaw_iff.mpr hrun)) hreason
  · -- a text that cannot be decrypted is denied as raw or as undecryptable, never as both
    rintro ⟨hunacceptable, hdenied⟩
    unfold detokenize
    cases hdenied with
    | raw hrun =>
      cases hdecrypt : cipher.decrypt text correlation with
      | ok identifier => exact absurd (Or.inl ⟨identifier, hdecrypt⟩) hunacceptable
      | error reason =>
        dsimp only
        rw [if_pos (looksRaw_iff.mpr hrun), if_neg fun h => hunacceptable (Or.inr ⟨hrun, h⟩)]
    | undecryptable hrun hreason =>
      rw [hreason]
      dsimp only
      rw [if_neg fun h => hrun (looksRaw_iff.mp h)]

/-! ## All parameters -/

/-- The texts that a parameter of a payload holds, in order. -/
def heldBy (payload : Payload) (parameter : String) : List String :=
  ((Members.get? parameter payload).map heldTexts).getD []

/-- The denial of a parameter: that of the first text of it that is denied. -/
def denialOf? (cipher : Cipher) (allowRaw : Bool) (correlation : String) (payload : Payload)
    (parameter : String) : Option TokenDenial :=
  (heldBy payload parameter).findSome? (denial? (detokenize cipher allowRaw correlation parameter))

/-- What is found in a list depends on what is looked for in its items only. -/
theorem findSome?_congr {α β : Type} {f g : α → Option β} {xs : List α}
    (h : ∀ x ∈ xs, f x = g x) : xs.findSome? f = xs.findSome? g := by
  induction xs with
  | nil => rfl
  | cons x xs ih =>
    obtain ⟨hx, hxs⟩ := List.forall_mem_cons.mp h
    rw [List.findSome?_cons, List.findSome?_cons, hx, ih hxs]

/-- The listed parameters are treated up to the first one that is denied. -/
theorem detokenizeParameters_snd {parameters : List String} (hdistinct : parameters.Nodup)
    (payload : Payload) :
    (detokenizeParameters cipher allowRaw correlation parameters payload).2
      = parameters.findSome? (denialOf? cipher allowRaw correlation payload) := by
  -- on the listed parameters, each of which is treated for the first time
  induction parameters generalizing payload with
  | nil => rfl
  | cons parameter rest ih =>
    obtain ⟨hfirst, hrest⟩ := List.nodup_cons.mp hdistinct
    unfold detokenizeParameters
    rw [List.findSome?_cons]
    split
    · rename_i habsent
      have hnone : denialOf? cipher allowRaw correlation payload parameter = none := by
        rw [denialOf?, heldBy, habsent]
        rfl
      rw [hnone]
      exact ih hrest payload
    · rename_i value hvalue
      have hdenial : denialOf? cipher allowRaw correlation payload parameter
          = (detokenizeValue (detokenize cipher allowRaw correlation parameter) value).2 := by
        rw [denialOf?, heldBy, hvalue, detokenizeValue_snd]
        rfl
      split
      · rename_i restored hrestored
        rw [hdenial, hrestored, ih hrest]
        -- what the other parameters hold is not changed
        refine findSome?_congr fun other hother => ?_
        have hne : other ≠ parameter := fun heq => hfirst (heq ▸ hother)
        rw [denialOf?, denialOf?, heldBy, heldBy, Members.get?_insert_of_ne hne]
      · -- the first denial ends the treatment
        rename_i restored denial hrestored
        rw [hdenial, hrestored]

/-- If none is denied, the texts of every listed parameter give way to what they stand for.  The
turns for other parameters leave this one alone. -/
theorem get?_detokenizeParameters {parameters : List String} (hdistinct : parameters.Nodup)
    {payload out : Payload}
    (h : detokenizeParameters cipher allowRaw correlation parameters payload = (out, none))
    (name : String) :
    Members.get? name out
      = if name ∈ parameters then
          (Members.get? name payload).map (changeHeld (standsFor cipher correlation))
        else Members.get? name payload := by
  induction parameters generalizing payload with
  | nil =>
    cases h
    rw [if_neg List.not_mem_nil]
  | cons parameter rest ih =>
    obtain ⟨hfirst, hrest⟩ := List.nodup_cons.mp hdistinct
    obtain ⟨habsent, h⟩ | ⟨value, restored, hvalue, hrestored, h⟩ :=
      cases_of_detokenizeParameters h
    · rw [ih hrest h]
      by_cases hname : name = parameter
      · -- there is nothing to change
        subst hname
        rw [if_neg hfirst, if_pos List.mem_cons_self, habsent]
        rfl
      · simp only [List.mem_cons, hname, false_or]
    · rw [ih hrest h]
      by_cases hname : name = parameter
      · subst hname
        rw [if_neg hfirst, if_pos List.mem_cons_self, Members.get?_insert_self, hvalue,
          detokenizeValue_fst (fun text out hout => (detokenize_eq_ok_iff.mp hout).2) hrestored]
        rfl
      · rw [Members.get?_insert_of_ne hname]
        simp only [List.mem_cons, hname, false_or]

/-- Putting tokens back keeps the members in order.  Whether a value is let through or denied, it
takes the place of the one of its name. -/
theorem sorted_detokenizeParameters (cipher : Cipher) (allowRaw : Bool) (correlation : String)
    (parameters : List String) {payload : Payload} (h : Members.Sorted payload) :
    Members.Sorted (detokenizeParameters cipher allowRaw correlation parameters payload).1 := by
  induction parameters generalizing payload with
  | nil => exact h
  | cons parameter rest ih =>
    unfold detokenizeParameters
    split
    · exact ih h
    · split
      · exact ih (Members.sorted_insert h)
      · exact Members.sorted_insert h

/-! ## Requests -/

/-- What is acceptable is not denied. -/
theorem denial?_detokenize_eq_none_iff :
    denial? (detokenize cipher allowRaw correlation parameter) text = none ↔
      Acceptable cipher allowRaw correlation text := by
  rw [denial?_eq_none_iff]
  constructor
  · rintro ⟨out, hout⟩
    exact (detokenize_eq_ok_iff.mp hout).1
  · intro hacceptable
    exact ⟨_, detokenize_eq_ok_iff.mpr ⟨hacceptable, rfl⟩⟩

/-- A parameter is not denied exactly when all of its texts are acceptable. -/
theorem denialOf?_eq_none_iff {payload : Payload} :
    denialOf? cipher allowRaw correlation payload parameter = none ↔
      ∀ text ∈ heldBy payload parameter, Acceptable cipher allowRaw correlation text := by
  rw [denialOf?, List.findSome?_eq_none_iff]
  exact forall₂_congr fun text _ => denial?_detokenize_eq_none_iff

/-- The denial of a parameter is that of its first text that is not acceptable. -/
theorem exists_of_denialOf? {payload : Payload} {denial : TokenDenial}
    (h : denialOf? cipher allowRaw correlation payload parameter = some denial) :
    ∃ front text back, heldBy payload parameter = front ++ text :: back ∧
      (∀ earlier ∈ front, Acceptable cipher allowRaw correlation earlier) ∧
      ¬ Acceptable cipher allowRaw correlation text ∧
      Denied cipher correlation parameter text denial := by
  -- the first text with a denial is the first one that is not acceptable
  obtain ⟨front, text, back, htexts, hdenial, hfront⟩ := List.findSome?_eq_some_iff.mp h
  obtain ⟨hunacceptable, hdenied⟩ := detokenize_eq_error_iff.mp (denial?_eq_some_iff.mp hdenial)
  exact ⟨front, text, back, htexts,
    fun earlier hearlier => denial?_detokenize_eq_none_iff.mp (hfront earlier hearlier),
    hunacceptable, hdenied⟩

/-- **Tokens of a request are put back exactly.**  Take a rule that lists each parameter once. The
request is let through exactly when every text that a listed parameter holds is acceptable.  Each of
these texts then gives way to what it stands for; lists have as many items as before, in the same
order, and everything else in the payload stays as it is.  Otherwise the denial is that of the first
listed parameter with an unacceptable text, and of the first such text of it: a raw identifier when
that text is a run of digits, and a text that cannot be decrypted when it is not. -/
theorem restored_exactly {rule : TokenizationRule} (hdistinct : rule.parameters.Nodup)
    (cipher : Cipher) (granted : NameSet) (correlation : String) (payload : Payload) :
    ((detokenizeRequest rule cipher granted correlation payload).2 = none ↔
      ∀ parameter ∈ rule.parameters, ∀ text ∈ heldBy payload parameter,
        Acceptable cipher (granted.contains rule.rawInputScope) correlation text) ∧
    (∀ out, detokenizeRequest rule cipher granted correlation payload = (out, none) →
      (∀ name, Members.get? name out
        = if name ∈ rule.parameters then
            (Members.get? name payload).map (changeHeld (standsFor cipher correlation))
          else Members.get? name payload) ∧
      (Members.Sorted payload → Members.Sorted out)) ∧
    ∀ out denial, detokenizeRequest rule cipher granted correlation payload = (out, some denial) →
      ∃ before parameter after, rule.parameters = before ++ parameter :: after ∧
        (∀ earlier ∈ before, ∀ text ∈ heldBy payload earlier,
          Acceptable cipher (granted.contains rule.rawInputScope) correlation text) ∧
        ∃ front text back, heldBy payload parameter = front ++ text :: back ∧
          (∀ earlier ∈ front,
            Acceptable cipher (granted.contains rule.rawInputScope) correlation earlier) ∧
          ¬ Acceptable cipher (granted.contains rule.rawInputScope) correlation text ∧
          Denied cipher correlation parameter text denial := by
  have hdenial : (detokenizeRequest rule cipher granted correlation payload).2 = _ :=
    detokenizeParameters_snd hdistinct payload
  refine ⟨?_, fun out h => ⟨get?_detokenizeParameters hdistinct h, fun hsorted => ?_⟩,
    fun out denial h => ?_⟩
  · rw [hdenial, List.findSome?_eq_none_iff]
    exact forall₂_congr fun parameter _ => denialOf?_eq_none_iff
  · have hkept := sorted_detokenizeParameters cipher (granted.contains rule.rawInputScope)
      correlation rule.parameters hsorted
    rw [← detokenizeRequest, h] at hkept
    exact hkept
  · rw [h] at hdenial
    obtain ⟨before, parameter, after, hparameters, hfirst, hbefore⟩ :=
      List.findSome?_eq_some_iff.mp hdenial.symm
    exact ⟨before, parameter, after, hparameters,
      fun earlier hearlier => denialOf?_eq_none_iff.mp (hbefore earlier hearlier),
      exists_of_denialOf? hfirst⟩

/-- A rule for two parameters. -/
def numberRule : TokenizationRule := ⟨"tokens", "raw", [], ["bsn", "partner"]⟩

/-- A request with one token and one raw identifier in a parameter, and with a name. -/
def numberPayload : Payload :=
  [("bsn", .array [.string Token.Cipher.sampleToken, .string "12"]), ("naam", .string "12")]

/-- The same request with the token put back. -/
def restoredNumbers : Payload :=
  [("bsn", .array [.string "7", .string "12"]), ("naam", .string "12")]

/-- With the scope for raw identifiers the other number stays. -/
theorem detokenize_numbers_granted :
    detokenizeRequest numberRule Token.Cipher.sampleCipher (SortedSet.singleton "raw") "visit-1"
      numberPayload = (restoredNumbers, none) := by
  decide +kernel

/-- Without it the number is denied. -/
theorem detokenize_numbers_refused :
    detokenizeRequest numberRule Token.Cipher.sampleCipher .empty "visit-1" numberPayload
      = (restoredNumbers, some (.rawIdentifier "bsn")) := by
  decide +kernel

/-- With the scope for raw identifiers the token is put back and the other number stays; without it
the number is denied. -/
theorem restored_exactly_of_numbers :
    numberRule.parameters.Nodup ∧
      detokenizeRequest numberRule Token.Cipher.sampleCipher (SortedSet.singleton "raw") "visit-1"
        numberPayload = (restoredNumbers, none) ∧
      (∀ text ∈ heldBy numberPayload "bsn",
        Acceptable Token.Cipher.sampleCipher ((SortedSet.singleton "raw").contains "raw") "visit-1"
          text) ∧
      Members.get? "bsn" restoredNumbers = (Members.get? "bsn" numberPayload).map
        (changeHeld (standsFor Token.Cipher.sampleCipher "visit-1")) ∧
      Members.get? "naam" restoredNumbers = Members.get? "naam" numberPayload ∧
      detokenizeRequest numberRule Token.Cipher.sampleCipher .empty "visit-1" numberPayload
        = (restoredNumbers, some (.rawIdentifier "bsn")) ∧
      ∃ parameter ∈ numberRule.parameters, ∃ text ∈ heldBy numberPayload parameter,
        Denied Token.Cipher.sampleCipher "visit-1" parameter text (.rawIdentifier "bsn") := by
  have hdistinct : numberRule.parameters.Nodup := by decide
  have hgranted := detokenize_numbers_granted
  have hrefused := detokenize_numbers_refused
  obtain ⟨haccepted, hrestored, -⟩ := restored_exactly hdistinct Token.Cipher.sampleCipher
    (SortedSet.singleton "raw") "visit-1" numberPayload
  obtain ⟨-, -, hdenied⟩ := restored_exactly hdistinct Token.Cipher.sampleCipher .empty "visit-1"
    numberPayload
  obtain ⟨hlookup, -⟩ := hrestored restoredNumbers hgranted
  obtain ⟨before, parameter, after, hparameters, -, front, text, back, htexts, -, -, hreason⟩ :=
    hdenied restoredNumbers _ hrefused
  refine ⟨hdistinct, hgranted, haccepted.mp (by rw [hgranted]) "bsn" List.mem_cons_self, ?_, ?_,
    hrefused, parameter, ?_, text, ?_, hreason⟩
  · rw [hlookup "bsn", if_pos (by decide)]
  · rw [hlookup "naam", if_neg (by decide)]
  · rw [hparameters]
    exact List.mem_append_right before List.mem_cons_self
  · rw [htexts]
    exact List.mem_append_right front List.mem_cons_self

end RegistryGate.Proxy
