/-
  What putting tokens back does to a parameter, place by place.

  A parameter carries a value, or a list of them; a `Place` names one of these.  The texts of a value
  are treated up to the first one that is denied (`detokenizeValue_snd`), and if none is, each gives
  way to its replacement (`detokenizeValue_fst`).  So nothing moves from its place
  (`at?_detokenizeValue`): a text there becomes what its token stands for, and everything else stays
  as it is (`Replaced`).  A parameter that is listed several times is treated as often
  (`valueAt?_detokenizeParameters`), and since a token is longer than what it stands for, more than
  once is never the same as once (`ReplacedTimes.decrypted_iff`).
-/
import RegistryGate.Proofs.Proxy.Shaping
import RegistryGate.Proofs.Token.Canonical

namespace RegistryGate

/-! ## Places in a value -/

/-- A place in the value of a parameter. -/
inductive Place where
  /-- The value itself. -/
  | whole
  /-- An item of a list. -/
  | item (index : Nat)

/-- What a value has at a place. -/
def Json.at? : Json → Place → Option Json
  | .array items, .item index => items[index]?
  | .array _, .whole => none
  | _, .item _ => none
  | value, .whole => some value

/-- What a parameter of a payload has at a place. -/
def valueAt? (payload : Payload) (name : String) (place : Place) : Option Json :=
  (Members.get? name payload).bind fun value => value.at? place

section

variable {payload : Payload} {name other : String} {value : Json}

theorem valueAt?_of_get? (h : Members.get? name payload = some value) (place : Place) :
    valueAt? payload name place = value.at? place := by
  rw [valueAt?, h]
  rfl

theorem valueAt?_of_get?_none (h : Members.get? name payload = none) (place : Place) :
    valueAt? payload name place = none := by
  rw [valueAt?, h]
  rfl

/-- A parameter that is set has what its new value has. -/
theorem valueAt?_insert_self (payload : Payload) (name : String) (value : Json) (place : Place) :
    valueAt? (Members.insert name value payload) name place = value.at? place :=
  valueAt?_of_get? (Members.get?_insert_self ..) place

/-- Any other parameter has what it had. -/
theorem valueAt?_insert_of_ne (h : name ≠ other) (payload : Payload) (value : Json)
    (place : Place) :
    valueAt? (Members.insert other value payload) name place = valueAt? payload name place := by
  rw [valueAt?, valueAt?, Members.get?_insert_of_ne h]

end

namespace Json

/-- The places of a value hold its elements. -/
theorem mem_elements_iff_at? {value element : Json} :
    element ∈ value.elements ↔ ∃ place, value.at? place = some element := by
  cases value with
  | array items =>
    constructor
    · intro h
      obtain ⟨index, hindex⟩ := List.mem_iff_getElem?.mp h
      exact ⟨.item index, hindex⟩
    · rintro ⟨place, hplace⟩
      cases place with
      | whole => cases hplace
      | item index => exact List.mem_iff_getElem?.mpr ⟨index, hplace⟩
  | null | bool | number | string | object =>
    constructor
    · intro h
      rw [List.mem_singleton.mp h]
      exact ⟨.whole, rfl⟩
    · rintro ⟨place, hplace⟩
      cases place with
      | whole =>
        cases hplace
        exact List.mem_singleton_self _
      | item index => cases hplace

/-- Only the list without items has nothing at any place. -/
theorem eq_nil_iff_at? {value : Json} :
    value = .array [] ↔ ∀ place, value.at? place = none := by
  constructor
  · rintro rfl place
    cases place <;> rfl
  · intro h
    cases value with
    | array items =>
      -- a list with an item has something at its first place
      have hitems : items = [] := by
        cases items with
        | nil => rfl
        | cons item rest => cases h (.item 0)
      rw [hitems]
    | null | bool | number | string | object => cases h .whole

end Json

namespace Proxy

open Token (Cipher)

variable {cipher : Cipher} {correlation text : String} {place : Place}
variable {replace : String → Except TokenDenial String} {change : String → String}

/-! ## Texts of a value -/

/-- The texts that a value holds: itself, or its items, in order. -/
def heldTexts (value : Json) : List String := value.elements.filterMap Json.asString?

/-- A value in which a text gives way to another one. -/
def changeText (change : String → String) : Json → Json
  | .string text => .string (change text)
  | value => value

/-- A value with other texts in the place of those that it holds. -/
def changeHeld (change : String → String) : Json → Json
  | .array items => .array (items.map (changeText change))
  | value => changeText change value

/-- What stands at a place of a value with other texts. -/
theorem at?_changeHeld (change : String → String) (value : Json) (place : Place) :
    (changeHeld change value).at? place = (value.at? place).map (changeText change) := by
  cases value with
  | array items =>
    cases place with
    | whole => rfl
    | item index => exact List.getElem?_map
  | null | bool | number | string | object => cases place <;> rfl

/-- The texts that a value holds are those at its places. -/
theorem mem_heldTexts_iff {value : Json} :
    text ∈ heldTexts value ↔ ∃ place, value.at? place = some (.string text) := by
  rw [heldTexts, List.mem_filterMap, ← Json.mem_elements_iff_at?]
  constructor
  · rintro ⟨element, helement, htext⟩
    cases element with
    | string held =>
      obtain rfl := Option.some.inj htext
      exact helement
    | null | bool | number | array | object => cases htext
  · exact fun h => ⟨.string text, h, rfl⟩

/-! ## One value -/

/-- The denial of a text, if it is denied. -/
def denial? (replace : String → Except TokenDenial String) (text : String) : Option TokenDenial :=
  match replace text with
  | .ok _ => none
  | .error denial => some denial

theorem denial?_eq_some_iff {denial : TokenDenial} :
    denial? replace text = some denial ↔ replace text = .error denial := by
  unfold denial?
  cases replace text <;> simp

theorem denial?_eq_none_iff : denial? replace text = none ↔ ∃ out, replace text = .ok out := by
  unfold denial?
  cases replace text <;> simp

/-- The items of a list are treated up to the first text that is denied.  The induction follows the
function: a text that is denied ends the walk, one that is replaced leaves it to the rest, and
anything else is passed over. -/
theorem detokenizeItems_snd (replace : String → Except TokenDenial String) (items : List Json) :
    (detokenizeItems replace items).2
      = (items.filterMap Json.asString?).findSome? (denial? replace) := by
  -- on the items, case by case as they are treated
  fun_induction detokenizeItems replace items with
  | case1 => rfl
  | case2 text rest denial hdenied =>
    show _ = (text :: rest.filterMap Json.asString?).findSome? (denial? replace)
    rw [List.findSome?_cons, denial?_eq_some_iff.mpr hdenied]
  | case3 text rest identifier hidentifier restItems restDenial hrest ih =>
    rw [hrest] at ih
    show _ = (text :: rest.filterMap Json.asString?).findSome? (denial? replace)
    rw [List.findSome?_cons, denial?_eq_none_iff.mpr ⟨identifier, hidentifier⟩]
    exact ih
  | case4 item rest hother restItems restDenial hrest ih =>
    have hnone : item.asString? = none := by
      cases item with
      | string text => exact absurd rfl (hother text)
      | null | bool | number | array | object => rfl
    rw [hrest] at ih
    rw [List.filterMap_cons_none hnone]
    exact ih

/-- If none is denied, every text among the items gives way to its replacement.  The walk has come
to the end then, and has replaced each text on its way. -/
theorem detokenizeItems_fst (hchange : ∀ text out, replace text = .ok out → out = change text)
    {items out : List Json} (h : detokenizeItems replace items = (out, none)) :
    out = items.map (changeText change) := by
  -- on the items, as before
  fun_induction detokenizeItems replace items generalizing out with
  | case1 =>
    cases h
    rfl
  | case2 text rest denial hdenied => cases h
  | case3 text rest identifier hidentifier restItems restDenial hrest ih =>
    cases h
    rw [List.map_cons, ← ih hrest, hchange text identifier hidentifier]
    rfl
  | case4 item rest hother restItems restDenial hrest ih =>
    cases h
    have hkept : changeText change item = item := by
      cases item with
      | string text => exact absurd rfl (hother text)
      | null | bool | number | array | object => rfl
    rw [List.map_cons, ← ih hrest, hkept]

/-- A value is treated up to the first text that is denied. -/
theorem detokenizeValue_snd (replace : String → Except TokenDenial String) (value : Json) :
    (detokenizeValue replace value).2 = (heldTexts value).findSome? (denial? replace) := by
  cases value with
  | string text =>
    show _ = [text].findSome? (denial? replace)
    rw [List.findSome?_singleton, detokenizeValue, denial?]
    cases replace text <;> rfl
  | array items => exact detokenizeItems_snd replace items
  | null | bool | number | object => rfl

/-- If none is denied, every text that a value holds gives way to its replacement. -/
theorem detokenizeValue_fst (hchange : ∀ text out, replace text = .ok out → out = change text)
    {value out : Json} (h : detokenizeValue replace value = (out, none)) :
    out = changeHeld change value := by
  cases value with
  | string text =>
    unfold detokenizeValue at h
    dsimp only at h
    split at h
    · cases h
    · rename_i identifier hidentifier
      cases h
      rw [hchange text identifier hidentifier]
      rfl
  | array items =>
    unfold detokenizeValue at h
    dsimp only at h
    cases hitems : detokenizeItems replace items with
    | mk restored denial =>
      rw [hitems] at h
      cases h
      rw [detokenizeItems_fst hchange hitems]
      rfl
  | null | bool | number | object =>
    cases h
    rfl

/-- What stands at a place of a value that is let through. -/
theorem at?_of_detokenizeValue {value out : Json}
    (h : detokenizeValue replace value = (out, none)) (place : Place) :
    out.at? place
      = (value.at? place).map (changeText fun text => (replace text).toOption.getD text) := by
  have hchange : ∀ text out, replace text = .ok out → out = (replace text).toOption.getD text := by
    intro text out hout
    rw [hout]
    rfl
  rw [detokenizeValue_fst hchange h, at?_changeHeld]

/-- A text of a value that is let through has a replacement, which takes its place. -/
theorem exists_replacement_of_at? {value out : Json}
    (h : detokenizeValue replace value = (out, none))
    (hat : value.at? place = some (.string text)) :
    ∃ shown, replace text = .ok shown ∧ out.at? place = some (.string shown) := by
  have hnone := detokenizeValue_snd replace value
  -- no text of the value is denied, for otherwise the first denial would be the value's
  rw [h] at hnone
  obtain ⟨shown, hshown⟩ := denial?_eq_none_iff.mp
    (List.findSome?_eq_none_iff.mp hnone.symm text (mem_heldTexts_iff.mpr ⟨place, hat⟩))
  have hplace := at?_of_detokenizeValue h place
  rw [hat, Option.map_some, changeText, hshown] at hplace
  exact ⟨shown, hshown, hplace⟩

/-! ## One replacement -/

/-- What stands at a place before and after tokens are put back. -/
inductive Replaced (cipher : Cipher) (correlation : String) : Json → Json → Prop where
  /-- A token gives way to what it stands for. -/
  | token {token identifier : String} (h : cipher.decrypt token correlation = .ok identifier) :
    Replaced cipher correlation (.string token) (.string identifier)
  /-- Anything but a text stays. -/
  | other {value : Json} (h : ∀ text, value ≠ .string text) :
    Replaced cipher correlation value value

/-- Where raw identifiers are not allowed, a text passes as a token or not at all. -/
theorem decrypt_of_detokenize {parameter text identifier : String}
    (h : detokenize cipher false correlation parameter text = .ok identifier) :
    cipher.decrypt text correlation = .ok identifier := by
  unfold detokenize at h
  split at h
  · rename_i found hfound
    cases h
    exact hfound
  · split at h <;> cases h

/-- **Nothing moves.**  After tokens are put back, each place holds the replacement of what it held
before. -/
theorem at?_detokenizeValue
    (hreplace : ∀ text identifier, replace text = .ok identifier →
      cipher.decrypt text correlation = .ok identifier)
    {value restored : Json} (h : detokenizeValue replace value = (restored, none))
    (place : Place) : Option.Rel (Replaced cipher correlation) (value.at? place)
      (restored.at? place) := by
  cases hat : value.at? place with
  | none =>
    rw [at?_of_detokenizeValue h, hat]
    exact .none
  | some sent =>
    cases sent with
    | string text =>
      obtain ⟨shown, hshown, hplace⟩ := exists_replacement_of_at? h hat
      rw [hplace]
      exact .some (.token (hreplace text shown hshown))
    | null | bool | number | array | object =>
      rw [at?_of_detokenizeValue h, hat]
      exact .some (.other fun text hstring => nomatch hstring)

/-! ## Several replacements -/

/-- So many replacements, one after the other. -/
inductive ReplacedTimes (cipher : Cipher) (correlation : String) : Nat → Json → Json → Prop where
  /-- Without a replacement nothing changes. -/
  | zero {value : Json} : ReplacedTimes cipher correlation 0 value value
  /-- One replacement, then the others. -/
  | succ {n : Nat} {first second last : Json} (h : Replaced cipher correlation first second)
    (rest : ReplacedTimes cipher correlation n second last) :
    ReplacedTimes cipher correlation (n + 1) first last

namespace ReplacedTimes

variable {n : Nat}

/-- Each replacement makes a text shorter. -/
theorem of_string {token : String} {value : Json}
    (h : ReplacedTimes cipher correlation n (.string token) value) :
    ∃ identifier, value = .string identifier ∧
      identifier.utf8ByteSize + n ≤ token.utf8ByteSize := by
  -- by induction on the number of replacements, for every token to start from
  induction n generalizing token with
  | zero =>
    cases h
    exact ⟨token, rfl, Nat.le_refl _⟩
  | succ n ih =>
    cases h with
    | succ hfirst hrest =>
      cases hfirst with
      | token hdecrypt =>
        obtain ⟨identifier, hvalue, hsize⟩ := ih hrest
        have hshorter := Token.Cipher.decrypt_shortens hdecrypt
        exact ⟨identifier, hvalue, by omega⟩
      | other hother => exact absurd rfl (hother token)

/-- Anything but a text stays, however often it is treated. -/
theorem eq_of_other {first last : Json} (h : ReplacedTimes cipher correlation n first last)
    (hother : ∀ text, first ≠ .string text) : last = first := by
  induction h with
  | zero => rfl
  | succ hfirst _ ih =>
    cases hfirst with
    | token => exact absurd rfl (hother _)
    | other => exact ih hother

/-- A token that was treated at least once shows what it stands for only if it was treated no more
than once. -/
theorem decrypted_iff {token : String} {value : Json}
    (h : ReplacedTimes cipher correlation (n + 1) (.string token) value) :
    (∃ identifier, cipher.decrypt token correlation = .ok identifier ∧
      value = .string identifier) ↔ n = 0 := by
  cases h with
  | succ hfirst hrest =>
    cases hfirst with
    | other hother => exact absurd rfl (hother token)
    | @token _ shown hdecrypt =>
      constructor
      · rintro ⟨identifier, hidentifier, hvalue⟩
        rw [hdecrypt] at hidentifier
        cases hidentifier
        -- further replacements would have made the text shorter still
        obtain ⟨last, hlast, hsize⟩ := hrest.of_string
        rw [hvalue] at hlast
        cases hlast
        omega
      · rintro rfl
        cases hrest
        exact ⟨shown, hdecrypt, rfl⟩

end ReplacedTimes

/-! ## All parameters -/

/-- The two ways in which a listed parameter is let through: it is absent, or its value is let
through and takes the place of what it was.  Then it is the turn of the others. -/
theorem cases_of_detokenizeParameters {allowRaw : Bool} {parameter : String} {rest : List String}
    {payload out : Payload}
    (h : detokenizeParameters cipher allowRaw correlation (parameter :: rest) payload
      = (out, none)) :
    (Members.get? parameter payload = none ∧
      detokenizeParameters cipher allowRaw correlation rest payload = (out, none)) ∨
    ∃ value restored, Members.get? parameter payload = some value ∧
      detokenizeValue (detokenize cipher allowRaw correlation parameter) value = (restored, none) ∧
      detokenizeParameters cipher allowRaw correlation rest
        (Members.insert parameter restored payload) = (out, none) := by
  unfold detokenizeParameters at h
  split at h
  · rename_i habsent
    exact .inl ⟨habsent, h⟩
  · rename_i value hvalue
    split at h
    · rename_i restored hrestored
      exact .inr ⟨value, restored, hvalue, hrestored, h⟩
    · cases h

/-- **A parameter is treated as often as it is listed**, at each of its places.  One turn replaces
once, and the turns for other parameters do not touch the place; so the number of replacements is
the number of turns. -/
theorem valueAt?_detokenizeParameters {parameters : List String} {payload restored : Payload}
    (h : detokenizeParameters cipher false correlation parameters payload = (restored, none))
    (name : String) (place : Place) :
    Option.Rel (ReplacedTimes cipher correlation (parameters.count name))
      (valueAt? payload name place) (valueAt? restored name place) := by
  -- on the list of parameters, for every payload to start from
  induction parameters generalizing payload with
  | nil =>
    cases h
    cases valueAt? restored name place with
    | none => exact .none
    | some value => exact .some .zero
  | cons parameter rest ih =>
    obtain ⟨habsent, h⟩ | ⟨value, replaced, hvalue, hreplaced, h⟩ :=
      cases_of_detokenizeParameters h
    · have hrest := ih h
      by_cases hname : parameter = name
      · -- the parameter is not there, before and after
        subst hname
        rw [valueAt?_of_get?_none habsent] at hrest ⊢
        cases hafter : valueAt? restored parameter place with
        | none => exact .none
        | some value =>
          rw [hafter] at hrest
          cases hrest
      · rw [List.count_cons_of_ne hname]
        exact hrest
    · have hrest := ih h
      by_cases hname : parameter = name
      · -- this occurrence replaces once, the others do the rest
        subst hname
        have hfirst := at?_detokenizeValue (fun _ _ => decrypt_of_detokenize) hreplaced place
        rw [valueAt?_insert_self] at hrest
        rw [valueAt?_of_get? hvalue, List.count_cons_self]
        generalize value.at? place = first at hfirst
        generalize replaced.at? place = second at hfirst hrest
        generalize valueAt? restored parameter place = last at hrest
        cases hfirst with
        | none =>
          cases hrest
          exact .none
        | some hfirst =>
          cases hrest with
          | some hrest => exact .some (.succ hfirst hrest)
      · rw [List.count_cons_of_ne hname]
        rw [valueAt?_insert_of_ne (Ne.symm hname)] at hrest
        exact hrest

end Proxy

end RegistryGate
