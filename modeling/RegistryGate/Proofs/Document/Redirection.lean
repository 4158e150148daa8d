/-
  What redirecting links does, and that it settles.

  Whether a text is the target of a link is decided by the way to it: the last step goes to a member
  of that name, and some step before goes to a links section.  At each place the redirected document
  holds the same as before, except that a target that starts with the source starts with the target
  instead (`Redirected`, `rel_redirectIn`).

  If neither address begins the other, a text that starts with the one does not start with the other
  (`Apart.append_ne`).  So nothing that was redirected is redirected for a second time
  (`redirect_redirect`), which holds of every target, and therefore of every value
  (`redirectIn_redirectIn`).
-/
import RegistryGate.Proofs.Document.Comparison
import RegistryGate.Proofs.Document.Links
import RegistryGate.Proofs.Text.Cutting

namespace RegistryGate.Document

variable {source target : String}

/-! ## Targets -/

/-- Neither address begins the other. -/
def Apart (source target : String) : Prop :=
  Text.startsWith source target = false ∧ Text.startsWith target source = false

instance : Decidable (Apart source target) := inferInstanceAs (Decidable (_ ∧ _))

/-- Behind the source, a target is kept as it is. -/
theorem redirect_append (source target rest : String) :
    redirect source target (source ++ rest) = target ++ rest := by
  rw [redirect, Text.stripPrefix?_eq_some_iff.mpr rfl]

/-- A text that does not start with the source is no target to be redirected. -/
theorem redirect_of_not_startsWith {href : String} (h : ∀ rest, href ≠ source ++ rest) :
    redirect source target href = href := by
  have hnone : Text.stripPrefix? source href = none := by
    rw [Option.eq_none_iff_forall_ne_some]
    intro rest hrest
    exact h rest (Text.stripPrefix?_eq_some_iff.mp hrest)
  rw [redirect, hnone]

/-- Of addresses that are apart, the source does not begin what the target begins. -/
theorem Apart.append_ne (h : Apart source target) (more rest : String) :
    target ++ more ≠ source ++ rest := by
  intro heq
  rcases Text.startsWith_or_of_append_eq heq with hstart | hstart
  · rw [h.2] at hstart
    cases hstart
  · rw [h.1] at hstart
    cases hstart

/-- No redirected text starts with the source. -/
theorem redirect_ne_append (h : Apart source target) (href rest : String) :
    redirect source target href ≠ source ++ rest := by
  by_cases hsource : ∃ more, href = source ++ more
  · -- a text that starts with the source starts with the target now, and so not with the source
    obtain ⟨more, rfl⟩ := hsource
    rw [redirect_append]
    exact h.append_ne more rest
  · have hnot : ∀ more, href ≠ source ++ more := not_exists.mp hsource
    rw [redirect_of_not_startsWith hnot]
    exact hnot rest

/-- A target is redirected once. -/
theorem redirect_redirect (h : Apart source target) (href : String) :
    redirect source target (redirect source target href) = redirect source target href :=
  redirect_of_not_startsWith (redirect_ne_append h href)

/-! ## Values -/

/-- A value other than a text is redirected inside, wherever it stands. -/
theorem redirectValue_of_not_string {value : Json} (h : ∀ text, value ≠ .string text)
    (inLinks : Bool) (name : String) :
    redirectValue source target inLinks name value
      = redirectIn source target (inLinks || name == linksKey) value := by
  cases value with
  | string text => exact absurd rfl (h text)
  | null | bool | number | array | object => rfl

/-- No text comes of anything else. -/
theorem redirectIn_ne_string {value : Json} (h : ∀ text, value ≠ .string text) (inLinks : Bool)
    (text : String) : redirectIn source target inLinks value ≠ .string text := by
  cases value with
  | string found => exact absurd rfl (h found)
  | null | bool | number | array | object => exact fun heq => nomatch heq

/-- Redirecting a value keeps it, up to what is inside. -/
theorem kept_redirectIn (inLinks : Bool) (value : Json) :
    Kept value (redirectIn source target inLinks value) := by
  cases value with
  | null | bool | number | string => rfl
  | object members => trivial
  | array items =>
    rw [redirectIn, redirectItems_eq_map]
    exact (List.length_map _).symm

/-- **Redirecting settles at once**, inside of links sections and outside.  A text that starts with
the source address starts with the target address afterwards, and so not with the source any more;
any other text was not changed. -/
theorem redirectIn_redirectIn (h : Apart source target) (inLinks : Bool) (value : Json) :
    redirectIn source target inLinks (redirectIn source target inLinks value)
      = redirectIn source target inLinks value := by
  -- the flag is generalized, since the walk raises it on the way into a links section
  induction value generalizing inLinks with
  | null | bool | number | string => rfl
  | array items ih =>
    rw [redirectIn, redirectIn, redirectItems_eq_map, redirectItems_eq_map, List.map_map]
    congr 1
    exact List.map_congr_left fun item hitem => ih item hitem inLinks
  | object members ih =>
    rw [redirectIn, redirectIn, redirectMembers_eq_map_value, redirectMembers_eq_map_value,
      List.map_map]
    congr 1
    refine List.map_congr_left fun member hmember => ?_
    obtain ⟨name, value⟩ := member
    refine Prod.ext rfl ?_
    show redirectValue source target inLinks name (redirectValue source target inLinks name value)
      = redirectValue source target inLinks name value
    -- a text is redirected or not as its name says; all else is walked through, and comes out as no
    -- text
    by_cases htext : ∃ text, value = .string text
    · obtain ⟨text, rfl⟩ := htext
      rw [redirectValue, redirectValue]
      split
      · rw [redirect_redirect h]
      · rfl
    · have hnot : ∀ text, value ≠ .string text := not_exists.mp htext
      rw [redirectValue_of_not_string hnot,
        redirectValue_of_not_string (redirectIn_ne_string hnot _)]
      exact ih (name, value) hmember _

/-! ## Documents -/

/-- What a place of a document holds before and after its links are redirected. -/
inductive Redirected (source target : String) (place : Position) : Json → Json → Prop where
  /-- The target of a link that starts with the source starts with the target instead. -/
  | link {rest : String} (hplace : place.IsLinkTarget) :
    Redirected source target place (.string (source ++ rest)) (.string (target ++ rest))
  /-- Anything else is kept. -/
  | other {sent found : Json}
    (hother : ¬ (place.IsLinkTarget ∧ ∃ rest, sent = .string (source ++ rest)))
    (hkept : Kept sent found) : Redirected source target place sent found

/-- What became of a value at the end of a way.  The two cases are those of `Redirected`: a text at
a link that starts with the source address, and everything else, which is kept. -/
theorem redirected_redirectBehind (front : Position) (step : Step) (value : Json) :
    Redirected source target (front ++ [step]) value
      (redirectBehind source target (front.contains (.member linksKey)) step value) := by
  by_cases hlink : Position.IsLinkTarget (front ++ [step]) ∧
      ∃ rest, value = .string (source ++ rest)
  · obtain ⟨hplace, rest, rfl⟩ := hlink
    obtain ⟨rfl, hmem⟩ := isLinkTarget_concat.mp hplace
    have hin : (front.contains (Step.member linksKey) && hrefKey == hrefKey) = true := by
      rw [List.contains_iff_mem.mpr hmem, beq_self_eq_true, Bool.and_self]
    rw [redirectBehind, redirectValue, if_pos hin, redirect_append]
    exact .link hplace
  · -- at any other place a text may still be under the name of a target, but does not start with
    -- the source
    refine .other hlink ?_
    cases step with
    | item index => exact kept_redirectIn _ value
    | member name =>
      by_cases htext : ∃ text, value = .string text
      · obtain ⟨text, rfl⟩ := htext
        rw [redirectBehind, redirectValue]
        split
        · rename_i hin
          obtain ⟨hmem, hname⟩ := Bool.and_eq_true_iff.mp hin
          have hplace : Position.IsLinkTarget (front ++ [.member name]) :=
            isLinkTarget_concat.mpr
              ⟨congrArg Step.member (beq_iff_eq.mp hname), List.contains_iff_mem.mp hmem⟩
          have hnot : ∀ rest, text ≠ source ++ rest := fun rest heq =>
            hlink ⟨hplace, rest, congrArg Json.string heq⟩
          rw [redirect_of_not_startsWith hnot]
          exact Kept.refl _
        · exact Kept.refl _
      · rw [redirectBehind, redirectValue_of_not_string (not_exists.mp htext)]
        exact kept_redirectIn _ value

/-- At the place of a target no text is left that starts with the source. -/
theorem Redirected.ne_append {place : Position} {sent found : Json}
    (h : Redirected source target place sent found) (hapart : Apart source target)
    (hplace : place.IsLinkTarget) (rest : String) : found ≠ .string (source ++ rest) := by
  rintro rfl
  generalize hfound : Json.string (source ++ rest) = found at h
  cases h with
  | link _ => exact hapart.append_ne _ rest (Json.string.inj hfound.symm)
  | other hother hkept =>
    subst hfound
    have hsent : Json.string (source ++ rest) = sent := hkept.symm
    exact hother ⟨hplace, rest, hsent.symm⟩

/-- What redirecting makes of a document, place by place. -/
theorem rel_redirectIn (source target : String) (document : Json) (place : Position) :
    Option.Rel (Redirected source target place) (document.nested? place)
      ((redirectIn source target false document).nested? place) := by
  -- the whole document is at no link; any other place has a last step, which decides
  rcases List.eq_nil_or_concat place with rfl | ⟨front, step, rfl⟩
  · refine .some (.other ?_ (kept_redirectIn false document))
    rintro ⟨⟨front, heq, -⟩, -⟩
    exact List.append_ne_nil_of_right_ne_nil front (List.cons_ne_nil _ []) heq.symm
  · rw [List.concat_eq_append, nested?_redirectIn_concat, Bool.false_or]
    cases document.nested? (front ++ [step]) with
    | none => exact .none
    | some value => exact .some (redirected_redirectBehind front step value)

/-- **Redirecting moves no text and no number, and changes none but the targets of links.** -/
theorem nested?_of_redirectLinks {document shown : Json} {place : Position} {text : String}
    (hshown : (redirectLinks source target document).nested? place = some shown)
    (htext : identifierText? shown = some text) (hplace : ¬ place.IsLinkTarget) :
    document.nested? place = some shown := by
  unfold redirectLinks at hshown
  split at hshown
  · exact hshown
  · have hrel := rel_redirectIn source target document place
    rw [hshown] at hrel
    generalize document.nested? place = sent at hrel ⊢
    cases hrel with
    | some hredirected =>
      cases hredirected with
      | link htarget => exact absurd htarget hplace
      | other _ hkept => rw [hkept.eq_of_text htext]

/-- **Redirecting changes the targets of links, and nothing else.**  Without a source the document
stays as it is.  Otherwise the document has the same places as before: at the place of a target, a
text that starts with the source starts with the target instead, and anything else is kept, at any
place.  If neither address begins the other, no target starts with the source any more, and
redirecting for a second time changes nothing. -/
theorem redirectLinks_exact (source target : String) (document : Json) :
    (source = "" → redirectLinks source target document = document) ∧
    (source ≠ "" →
      (∀ place, Option.Rel (Redirected source target place) (document.nested? place)
        ((redirectLinks source target document).nested? place)) ∧
      (Apart source target →
        (∀ place, place.IsLinkTarget → ∀ rest,
          (redirectLinks source target document).nested? place ≠ some (.string (source ++ rest))) ∧
        redirectLinks source target (redirectLinks source target document)
          = redirectLinks source target document)) := by
  unfold redirectLinks
  refine ⟨?_, ?_⟩
  · intro hnone
    rw [if_pos (String.isEmpty_iff.mpr hnone)]
  · intro hsource
    have hne : ¬ source.isEmpty = true := fun hempty => hsource (String.isEmpty_iff.mp hempty)
    rw [if_neg hne]
    refine ⟨rel_redirectIn source target document, ?_⟩
    intro hapart
    refine ⟨?_, ?_⟩
    · intro place hplace rest hfound
      have hrel := rel_redirectIn source target document place
      rw [hfound] at hrel
      generalize document.nested? place = sent at hrel
      cases hrel with
      | some hredirected => exact hredirected.ne_append hapart hplace rest rfl
    · rw [if_neg hne]
      exact redirectIn_redirectIn hapart false document

/-- An answer with a link of its own, and a record with links and with a text that is none. -/
def referringDocument : Json :=
  .object [("_links", .object [("self", .object [("href", .string "http://register/personen")])]),
    ("personen", .array
      [.object [("_links", .object [("href", .string "http://elsewhere/1")]),
        ("href", .string "http://register/1")]])]

/-- The link of the answer is redirected; the link to another address stays, and so does the text
under the name of a target that is in no links section. -/
theorem redirectLinks_exact_of_linked :
    Apart "http://register" "https://gateway" ∧
      Redirected "http://register" "https://gateway"
        [.member "_links", .member "self", .member "href"]
        (.string "http://register/personen") (.string "https://gateway/personen") ∧
      (redirectLinks "http://register" "https://gateway" referringDocument).nested?
        [.member "personen", .item 0, .member "href"] = some (.string "http://register/1") ∧
      (∀ rest, (redirectLinks "http://register" "https://gateway" referringDocument).nested?
        [.member "personen", .item 0, .member "_links", .member "href"]
          ≠ some (.string ("http://register" ++ rest))) ∧
      redirectLinks "http://register" "https://gateway"
          (redirectLinks "http://register" "https://gateway" referringDocument)
        = redirectLinks "http://register" "https://gateway" referringDocument ∧
      redirectLinks "" "https://gateway" referringDocument = referringDocument := by
  have hapart : Apart "http://register" "https://gateway" := by decide +kernel
  obtain ⟨-, hexact⟩ := redirectLinks_exact "http://register" "https://gateway" referringDocument
  obtain ⟨hplaces, hsettled⟩ := hexact (by decide)
  obtain ⟨hgone, htwice⟩ := hsettled hapart
  obtain ⟨hempty, -⟩ := redirectLinks_exact "" "https://gateway" referringDocument
  refine ⟨hapart, ?_, by decide +kernel, ?_, htwice, hempty rfl⟩
  · have hself := hplaces [.member "_links", .member "self", .member "href"]
    have hsent : referringDocument.nested? [.member "_links", .member "self", .member "href"]
        = some (.string "http://register/personen") := by decide +kernel
    have hfound : (redirectLinks "http://register" "https://gateway" referringDocument).nested?
        [.member "_links", .member "self", .member "href"]
        = some (.string "https://gateway/personen") := by decide +kernel
    rw [hsent, hfound] at hself
    exact Option.rel_some_some.mp hself
  · exact hgone _ ⟨[.member "personen", .item 0, .member "_links"], rfl, by decide +kernel⟩

end RegistryGate.Document
