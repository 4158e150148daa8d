/-
  The kept access token, over whole runs.

  A run is a sequence of occasions on which a token is needed, each with two readings of the clock
  and with whatever comes of a request to the token endpoint.  There are three ways to serve one
  (`Credentials.Serves`): the kept token still has time left; or it has not, and the endpoint grants
  a new one, which is kept from then on; or the endpoint does not, which is an error and changes
  nothing.  What the endpoint's answer has to be is said without the functions that read it, once
  for a grant (`Credentials.Grants`) and once for each way to fail (`Credentials.Fails`); an answer
  is always one of them (`grants_or_fails`).

  From the single step follows what holds after any past: the kept token is one that the endpoint
  granted in that past (`exists_grant_of_kept`).  So a token that is used without asking has not run
  out (`tokens_current`).
-/
import Mathlib.Data.List.Induction
import RegistryGate.Proofs.Register.LimitedBodies
import RegistryGate.Register.Client

namespace RegistryGate.Register

open Proxy (RegisterError)

namespace Credentials

/-! ## What comes of asking -/

/-- The token endpoint gives an answer, and the whole of it arrives. -/
structure Hears (c : Credentials) (o : Occasion) (answer : Incoming) : Prop where
  /-- There is an answer. -/
  delivered : o.exchange.deliver c.request = .ok answer
  /-- It is not too long. -/
  fits : ¬ answer.body.TooLong maxTokenBytes
  /-- It does not break off. -/
  whole : answer.body.fault = none

/-- The token endpoint grants a token: it answers with success, and with a token that is not blank. -/
structure Grants (c : Credentials) (o : Occasion) (grant : Grant) : Prop where
  /-- The answer has a status of success, and is the grant. -/
  answered : ∃ answer, c.Hears o answer ∧ answer.isSuccess = true ∧
    Grant.parse? (joinChunks answer.body.chunks) = some grant
  /-- The token is not blank. -/
  present : Text.isBlankText grant.token = false

/-- The token endpoint grants no token, and what is then reported. -/
inductive Fails (c : Credentials) (o : Occasion) : RegisterError → Prop where
  /-- There is no answer. -/
  | transport {fault : TransportFault} (h : o.exchange.deliver c.request = .error fault) :
      Fails c o fault.toRegisterError
  /-- The answer is too long. -/
  | size {answer : Incoming} (h : o.exchange.deliver c.request = .ok answer)
      (hlong : answer.body.TooLong maxTokenBytes) : Fails c o tooLong
  /-- The answer breaks off before it is too long. -/
  | brokenOff {answer : Incoming} {fault : TransportFault}
      (h : o.exchange.deliver c.request = .ok answer)
      (hfits : ¬ answer.body.TooLong maxTokenBytes) (hfault : answer.body.fault = some fault) :
      Fails c o fault.toRegisterError
  /-- The answer has another status than success. -/
  | status {answer : Incoming} (h : c.Hears o answer) (hstatus : answer.isSuccess = false) :
      Fails c o (.transport ("token endpoint returned status " ++ toString answer.status))
  /-- The answer is no grant. -/
  | unreadable {answer : Incoming} (h : c.Hears o answer) (hstatus : answer.isSuccess = true)
      (hgrant : Grant.parse? (joinChunks answer.body.chunks) = none) :
      Fails c o (.invalidResponse "token endpoint response is not valid")
  /-- The token is blank. -/
  | blank {answer : Incoming} {grant : Grant} (h : c.Hears o answer)
      (hstatus : answer.isSuccess = true)
      (hgrant : Grant.parse? (joinChunks answer.body.chunks) = some grant)
      (hblank : Text.isBlankText grant.token = true) :
      Fails c o (.invalidResponse "token endpoint returned no token")

variable {c : Credentials} {o : Occasion}

/-- The token of a grant, as it is kept. -/
def tokenOf (o : Occasion) (grant : Grant) : AccessToken :=
  ⟨grant.token, refreshTime o.got (grant.lifetime.getD defaultLifetime)⟩

/-- An answer is a grant, or fails in one of the ways. -/
theorem grants_or_fails (c : Credentials) (o : Occasion) :
    (∃ grant, c.Grants o grant) ∨ ∃ error, c.Fails o error := by
  -- the checks in the order of the program, each with its own way to fail
  cases hdelivered : o.exchange.deliver c.request with
  | error fault => exact Or.inr ⟨_, .transport hdelivered⟩
  | ok answer =>
    by_cases hlong : answer.body.TooLong maxTokenBytes
    · exact Or.inr ⟨_, .size hdelivered hlong⟩
    cases hfault : answer.body.fault with
    | some fault => exact Or.inr ⟨_, .brokenOff hdelivered hlong hfault⟩
    | none =>
      have hheard : c.Hears o answer := ⟨hdelivered, hlong, hfault⟩
      cases hstatus : answer.isSuccess with
      | false => exact Or.inr ⟨_, .status hheard hstatus⟩
      | true =>
        cases hgrant : Grant.parse? (joinChunks answer.body.chunks) with
        | none => exact Or.inr ⟨_, .unreadable hheard hstatus hgrant⟩
        | some grant =>
          cases hblank : Text.isBlankText grant.token with
          | true => exact Or.inr ⟨_, .blank hheard hstatus hgrant hblank⟩
          | false => exact Or.inl ⟨grant, ⟨answer, hheard, hstatus, hgrant⟩, hblank⟩

/-- An answer that arrives as a whole is read as a whole. -/
theorem Hears.readLimited {answer : Incoming} (h : c.Hears o answer) :
    answer.body.readLimited maxTokenBytes = .ok (joinChunks answer.body.chunks) := by
  rw [Arrival.readLimited_of_not_tooLong h.fits, h.whole]

/-- What an answer that arrives as a whole is read as. -/
theorem Hears.readGrant {answer : Incoming} (h : c.Hears o answer) :
    readGrant answer
      = if answer.isSuccess then
          match Grant.parse? (joinChunks answer.body.chunks) with
          | none => .error (.invalidResponse "token endpoint response is not valid")
          | some grant =>
            if Text.isBlankText grant.token then
              .error (.invalidResponse "token endpoint returned no token")
            else .ok grant
        else .error (.transport ("token endpoint returned status " ++ toString answer.status)) := by
  unfold Register.readGrant
  rw [h.readLimited]
  cases answer.isSuccess <;> rfl

/-- What comes of a fetch is decided by what the answer is read as. -/
theorem fetch_of_delivered {answer : Incoming}
    (h : o.exchange.deliver c.request = .ok answer) :
    c.fetch o = (readGrant answer).map (tokenOf o) := by
  unfold fetch
  rw [h]
  dsimp only
  cases readGrant answer <;> rfl

/-- What is granted is fetched. -/
theorem Grants.fetch {grant : Grant} (h : c.Grants o grant) :
    c.fetch o = .ok (tokenOf o grant) := by
  obtain ⟨⟨answer, hheard, hstatus, hgrant⟩, hpresent⟩ := h
  rw [fetch_of_delivered hheard.delivered, hheard.readGrant, hstatus, hgrant]
  dsimp only
  rw [hpresent]
  rfl

/-- What fails is reported. -/
theorem Fails.fetch {error : RegisterError} (h : c.Fails o error) : c.fetch o = .error error := by
  -- the check that has failed decides the error
  cases h with
  | transport h =>
    unfold Credentials.fetch
    rw [h]
  | size h hlong =>
    rw [fetch_of_delivered h]
    unfold Register.readGrant
    rw [Arrival.readLimited_of_tooLong hlong]
    rfl
  | brokenOff h hfits hfault =>
    rw [fetch_of_delivered h]
    unfold Register.readGrant
    rw [Arrival.readLimited_of_not_tooLong hfits, hfault]
    rfl
  | status h hstatus =>
    rw [fetch_of_delivered h.delivered, h.readGrant, hstatus]
    rfl
  | unreadable h hstatus hgrant =>
    rw [fetch_of_delivered h.delivered, h.readGrant, hstatus, hgrant]
    rfl
  | blank h hstatus hgrant hblank =>
    rw [fetch_of_delivered h.delivered, h.readGrant, hstatus, hgrant]
    dsimp only
    rw [hblank]
    rfl

/-! ## One use -/

/-- No token is kept that has time left. -/
def Spent (cache : TokenCache) (time : Nat) : Prop :=
  ∀ token, cache = some token → token.refreshAt ≤ time

/-- The three ways in which a use is served. -/
inductive Serves (c : Credentials) (cache : TokenCache) (o : Occasion) : TokenUse → Prop where
  /-- The kept token has time left. -/
  | kept {token : AccessToken} (hkept : cache = some token) (hleft : o.start < token.refreshAt) :
      Serves c cache o ⟨.ok token.text, false, cache⟩
  /-- A new token is granted, and kept. -/
  | granted {grant : Grant} (hspent : Spent cache o.start) (hgrants : c.Grants o grant) :
      Serves c cache o ⟨.ok grant.token, true, some (tokenOf o grant)⟩
  /-- No token is granted, and what is kept stays. -/
  | failed {error : RegisterError} (hspent : Spent cache o.start) (hfails : c.Fails o error) :
      Serves c cache o ⟨.error error, true, cache⟩

/-- A kept token is usable as long as it has time left. -/
theorem usable?_eq_none_iff {cache : TokenCache} {time : Nat} :
    usable? cache time = none ↔ Spent cache time := by
  unfold usable? Spent
  rw [Option.filter_eq_none_iff]
  simp

/-- A kept token with time left is used as it is. -/
theorem use_of_kept {cache : TokenCache} {token : AccessToken} (hkept : cache = some token)
    (hleft : o.start < token.refreshAt) : c.use cache o = ⟨.ok token.text, false, cache⟩ := by
  have husable : usable? cache o.start = some token :=
    Option.filter_eq_some_iff.mpr ⟨hkept, decide_eq_true hleft⟩
  unfold use
  rw [husable]

/-- Otherwise what the endpoint grants is used and kept. -/
theorem Grants.use {cache : TokenCache} {grant : Grant} (h : c.Grants o grant)
    (hspent : Spent cache o.start) :
    c.use cache o = ⟨.ok grant.token, true, some (tokenOf o grant)⟩ := by
  unfold Credentials.use
  rw [usable?_eq_none_iff.mpr hspent, h.fetch]
  rfl

/-- Where it grants nothing, that is an error, and what is kept stays. -/
theorem Fails.use {cache : TokenCache} {error : RegisterError} (h : c.Fails o error)
    (hspent : Spent cache o.start) : c.use cache o = ⟨.error error, true, cache⟩ := by
  unfold Credentials.use
  rw [usable?_eq_none_iff.mpr hspent, h.fetch]

/-- Inversion of `use`: every use is served in one of these ways. -/
theorem serves_use (c : Credentials) (cache : TokenCache) (o : Occasion) :
    c.Serves cache o (c.use cache o) := by
  cases husable : usable? cache o.start with
  | some token =>
    obtain ⟨hkept, hleft⟩ := Option.filter_eq_some_iff.mp husable
    rw [use_of_kept hkept (of_decide_eq_true hleft)]
    exact .kept hkept (of_decide_eq_true hleft)
  | none =>
    have hspent := usable?_eq_none_iff.mp husable
    rcases c.grants_or_fails o with ⟨grant, hgrants⟩ | ⟨error, hfails⟩
    · rw [hgrants.use hspent]
      exact .granted hspent hgrants
    · rw [hfails.use hspent]
      exact .failed hspent hfails

/-- The endpoint is asked exactly when no token is kept that has time left. -/
theorem asked_use_iff {cache : TokenCache} : (c.use cache o).asked = true ↔ Spent cache o.start := by
  -- by the way in which the use was served
  have hserves := c.serves_use cache o
  generalize c.use cache o = use at hserves
  cases hserves with
  | granted hspent => exact iff_of_true rfl hspent
  | failed hspent => exact iff_of_true rfl hspent
  | @kept token hkept hleft =>
    -- what is kept has time left, so it is not spent
    refine iff_of_false (fun h => nomatch h) fun hspent => ?_
    have hover := hspent token hkept
    omega

/-! ## Whole runs -/

/-- The token that is kept after the uses on some occasions, of which the first finds none. -/
def keptAfter (c : Credentials) (past : List Occasion) : TokenCache :=
  past.foldl (fun cache o => (c.use cache o).cache) none

/-- The use on an occasion, after those on others. -/
def useAfter (c : Credentials) (past : List Occasion) (o : Occasion) : TokenUse :=
  c.use (c.keptAfter past) o

theorem keptAfter_append (c : Credentials) (past : List Occasion) (o : Occasion) :
    c.keptAfter (past ++ [o]) = (c.useAfter past o).cache := by
  unfold keptAfter useAfter
  rw [List.foldl_append]
  rfl

/-- On one of some occasions the endpoint was asked, and granted a token. -/
def Issued (c : Credentials) (past : List Occasion) (earlier : Occasion) (grant : Grant) : Prop :=
  ∃ before since, past = before ++ earlier :: since ∧
    (c.useAfter before earlier).asked = true ∧ c.Grants earlier grant

/-- What was issued stays issued. -/
theorem Issued.append {past : List Occasion} {earlier : Occasion} {grant : Grant}
    (h : c.Issued past earlier grant) (o : Occasion) : c.Issued (past ++ [o]) earlier grant := by
  obtain ⟨before, since, rfl, hasked, hgrants⟩ := h
  refine ⟨before, since ++ [o], ?_, hasked, hgrants⟩
  rw [List.append_assoc, List.cons_append]

/-- **What is kept was issued.**  By induction on the past, from its end: a use leaves the kept token
as it is, or keeps the one that it was granted. -/
theorem exists_grant_of_kept {past : List Occasion} {token : AccessToken}
    (h : c.keptAfter past = some token) :
    ∃ earlier grant, c.Issued past earlier grant ∧ token = tokenOf earlier grant := by
  induction past using List.reverseRecOn with
  | nil => cases h
  | append_singleton past o ih =>
    have hserves := c.serves_use (c.keptAfter past) o
    rw [keptAfter_append] at h
    unfold useAfter at h
    -- what was kept before this use had been issued already
    have hold : c.keptAfter past = some token →
        ∃ earlier grant, c.Issued (past ++ [o]) earlier grant ∧ token = tokenOf earlier grant := by
      intro hkept
      obtain ⟨earlier, grant, hissued, htoken⟩ := ih hkept
      exact ⟨earlier, grant, hissued.append o, htoken⟩
    generalize huse : c.use (c.keptAfter past) o = use at hserves h
    cases hserves with
    | kept => exact hold h
    | failed => exact hold h
    | @granted grant hspent hgrants =>
      have hasked : (c.useAfter past o).asked = true := by
        unfold useAfter
        rw [huse]
      exact ⟨o, grant, ⟨past, [], rfl, hasked, hgrants⟩, (Option.some.inj h).symm⟩

/-! ## The clock -/

/-- The clock never goes back: its readings, two on each occasion, come in order.  On an occasion on
which the endpoint is not asked the second one plays no part, and may be taken to be the first. -/
def InOrder (occasions : List Occasion) : Prop :=
  (occasions.flatMap fun o => [o.start, o.got]).Pairwise (· ≤ ·)

/-- What was got on an earlier occasion was got before a later one starts. -/
theorem InOrder.got_le_start {before since : List Occasion} {earlier o : Occasion}
    (h : InOrder (before ++ earlier :: since ++ [o])) : earlier.got ≤ o.start := by
  have hsplit : before ++ earlier :: since ++ [o] = (before ++ [earlier]) ++ (since ++ [o]) := by
    simp
  -- the readings before the occasion and those after it are compared across the cut
  rw [InOrder, hsplit, List.flatMap_append, List.pairwise_append] at h
  obtain ⟨-, -, hacross⟩ := h
  apply hacross
  · simp
  · simp

/-- A token is not used beyond its lifetime, of which the last 30 seconds do not count. -/
theorem refreshTime_le (got lifetime : Nat) :
    refreshTime got lifetime ≤ got + (lifetime - 30) * 1000000000 := by
  show (if got + (lifetime - 30) * 1000000000 < clockEnd
    then got + (lifetime - 30) * 1000000000 else got) ≤ got + (lifetime - 30) * 1000000000
  split
  · exact Nat.le_refl _
  · exact Nat.le_add_right _ _

/-! ## On the wire -/

/-- What a client keeps after a call is what the use of a token leaves. -/
theorem cache_call {client : Client} (hclient : client.credentials = some c)
    (cache : TokenCache) (o : Occasion) (url : String) (payload : Json) :
    (client.call cache o url payload).cache = (c.use cache o).cache := by
  unfold Client.call
  rw [hclient]
  dsimp only
  cases (c.use cache o).token.bind bearerHeader <;> rfl

/-- That the endpoint is asked can be seen from outside: a client sends the request for a token
exactly then, unless its address is none for requests. -/
theorem request_mem_sent_iff {client : Client} (hclient : client.credentials = some c)
    (cache : TokenCache) (o : Occasion) (url : String) (payload : Json) :
    c.request ∈ (client.call cache o url payload).sent ↔
      (c.use cache o).asked = true ∧ c.request.isSendable = true := by
  have hasked : ∀ asked : Bool,
      c.request ∈ (if asked then [c.request].filter Outgoing.isSendable else []) ↔
        asked = true ∧ c.request.isSendable = true := by
    intro asked
    cases asked <;> simp
  have hother : ∀ header, c.request ≠ Client.request url payload (some header) := by
    intro header heq
    have htype : formMediaType = jsonMediaType := congrArg Outgoing.contentType heq
    exact absurd htype (by decide)
  unfold Client.call
  rw [hclient]
  dsimp only
  cases (c.use cache o).token.bind bearerHeader with
  | error error => exact hasked _
  | ok header =>
    dsimp only
    rw [List.mem_append, hasked, or_iff_left]
    intro hmem
    obtain ⟨hmem, -⟩ := List.mem_filter.mp hmem
    exact hother header (List.mem_singleton.mp hmem)

/-! ## The kept token is sound -/

/-- A token that is used without asking was issued, and has not run out. -/
theorem exists_issued_of_not_asked {past : List Occasion} (hclock : InOrder (past ++ [o]))
    (h : (c.useAfter past o).asked = false) :
    ∃ earlier grant, c.Issued past earlier grant ∧
      (c.useAfter past o).token = .ok grant.token ∧ earlier.got ≤ o.start ∧
      o.start < earlier.got + (grant.lifetime.getD 300 - 30) * 1000000000 := by
  have hserves := c.serves_use (c.keptAfter past) o
  -- by the way in which the use was served, of which only the kept token is not asked for
  unfold useAfter at h ⊢
  generalize c.use (c.keptAfter past) o = use at hserves h
  cases hserves with
  | granted => cases h
  | failed => cases h
  | kept hkept hleft =>
    obtain ⟨earlier, grant, hissued, rfl⟩ := exists_grant_of_kept hkept
    have hbound := refreshTime_le earlier.got (grant.lifetime.getD 300)
    refine ⟨earlier, grant, hissued, rfl, ?_, Nat.lt_of_lt_of_le hleft hbound⟩
    obtain ⟨before, since, rfl, -⟩ := hissued
    exact hclock.got_le_start

/-- **The kept token is sound.**  After any past, the endpoint is asked exactly when no token is kept
that has time left, and a client then sends it the request for a token.  A token that is used without
asking was granted on an earlier occasion, and its lifetime but for the last 30 seconds is not over.
Where the endpoint is asked, what it grants is used and kept; whatever else it answers is an error,
gives no token and leaves what is kept. -/
theorem tokens_current (c : Credentials) (past : List Occasion) (o : Occasion)
    (hclock : InOrder (past ++ [o])) :
    ((c.useAfter past o).asked = true ↔
      ¬ ∃ token, c.keptAfter past = some token ∧ o.start < token.refreshAt) ∧
    (∀ (client : Client) (url : String) (payload : Json), client.credentials = some c →
      (c.request ∈ (client.call (c.keptAfter past) o url payload).sent ↔
        (c.useAfter past o).asked = true ∧ c.request.isSendable = true) ∧
      (client.call (c.keptAfter past) o url payload).cache = c.keptAfter (past ++ [o])) ∧
    ((c.useAfter past o).asked = false →
      c.keptAfter (past ++ [o]) = c.keptAfter past ∧
      ∃ earlier grant, c.Issued past earlier grant ∧
        (c.useAfter past o).token = .ok grant.token ∧ earlier.got ≤ o.start ∧
        o.start < earlier.got + (grant.lifetime.getD 300 - 30) * 1000000000) ∧
    ((c.useAfter past o).asked = true →
      ((∃ grant, c.Grants o grant) ∨ ∃ error, c.Fails o error) ∧
      (∀ grant, c.Grants o grant → (c.useAfter past o).token = .ok grant.token ∧
        c.keptAfter (past ++ [o])
          = some ⟨grant.token, refreshTime o.got (grant.lifetime.getD 300)⟩) ∧
      ∀ error, c.Fails o error → (c.useAfter past o).token = .error error ∧
        c.keptAfter (past ++ [o]) = c.keptAfter past) := by
  have hkept := c.keptAfter_append past o
  refine ⟨?_, fun client url payload hclient => ?_,
    fun hasked => ⟨?_, exists_issued_of_not_asked hclock hasked⟩, fun hasked => ?_⟩
  · unfold useAfter
    rw [asked_use_iff]
    simp [Spent]
  · rw [hkept]
    exact ⟨request_mem_sent_iff hclient _ o url payload, cache_call hclient _ o url payload⟩
  · have hserves := c.serves_use (c.keptAfter past) o
    rw [hkept]
    unfold useAfter at hasked ⊢
    generalize c.use (c.keptAfter past) o = use at hserves hasked
    cases hserves with
    | kept => rfl
    | granted => cases hasked
    | failed => cases hasked
  · have hspent : Spent (c.keptAfter past) o.start := asked_use_iff.mp hasked
    rw [hkept]
    unfold useAfter
    refine ⟨c.grants_or_fails o, fun grant hgrants => ?_, fun error hfails => ?_⟩
    · rw [hgrants.use hspent]
      exact ⟨rfl, rfl⟩
    · rw [hfails.use hspent]
      exact ⟨rfl, rfl⟩

/-! ## A token for an hour -/

/-- An answer with a start that can be read, and that a body belongs to, is delivered as it arrives. -/
theorem deliver_of_readable {exchange : Exchange} {outgoing : Outgoing} {arrived : Incoming}
    (hsendable : outgoing.isSendable = true) (harrived : exchange outgoing = .ok arrived)
    (hreadable : arrived.head.isReadable = true) (hfinal : arrived.head.isAnnouncement = false)
    (hbody : arrived.head.isWhole = false) : exchange.deliver outgoing = .ok arrived := by
  unfold Exchange.deliver
  rw [if_pos hsendable, harrived]
  show Incoming.ofHead arrived.head arrived.body = _
  rw [Incoming.ofHead, hreadable, hfinal, hbody]
  rfl

/-- What is shown to a token endpoint. -/
def sampleCredentials : Credentials := ⟨"https://[::1]/token", "gate", "secret", none⟩

/-- An answer that grants a token for an hour, cut in the middle of a name. -/
def hourlyAnswer : Incoming where
  head := ⟨200, [(Text.Utf8.encode "Content-Type", Text.Utf8.encode jsonMediaType)]⟩
  body := ⟨none, ["\x7b\"access_token\":\"abc\",\"exp".toUTF8,
    "ires_in\":3600\x7d".toUTF8], none⟩

/-- The first occasion: the token is got five seconds after it was needed. -/
def firstOccasion : Occasion := ⟨0, 5 * second, fun _ => .ok hourlyAnswer⟩

/-- An occasion in the last second in which the token is used; the endpoint cannot be reached. -/
def lastOccasion : Occasion :=
  ⟨3575 * second - 1, 3575 * second - 1, fun _ => .error (.broken "refused")⟩

theorem grants_firstOccasion : sampleCredentials.Grants firstOccasion ⟨"abc", some 3600⟩ := by
  have hdelivered : firstOccasion.exchange.deliver sampleCredentials.request = .ok hourlyAnswer :=
    deliver_of_readable (by decide +kernel) rfl (by decide +kernel) (by decide +kernel)
      (by decide +kernel)
  have hfits : ¬ hourlyAnswer.body.TooLong maxTokenBytes := by
    rintro (⟨length, hdeclared, -⟩ | hlong)
    · cases hdeclared
    · exact absurd hlong (by decide +kernel)
  exact ⟨⟨hourlyAnswer, ⟨hdelivered, hfits, rfl⟩, rfl, by decide +kernel⟩, by decide⟩

/-- The token is used up to the last moment, also when the endpoint cannot be reached. -/
theorem tokens_current_of_hour :
    InOrder ([firstOccasion] ++ [lastOccasion]) ∧
      (sampleCredentials.useAfter [firstOccasion] lastOccasion).asked = false ∧
      ∃ earlier grant, sampleCredentials.Issued [firstOccasion] earlier grant ∧
        (sampleCredentials.useAfter [firstOccasion] lastOccasion).token = .ok grant.token ∧
        earlier.got ≤ lastOccasion.start ∧
        lastOccasion.start < earlier.got + (grant.lifetime.getD 300 - 30) * 1000000000 := by
  have hclock : InOrder ([firstOccasion] ++ [lastOccasion]) := by
    simp [InOrder, firstOccasion, lastOccasion, second]
  have hkept : sampleCredentials.keptAfter [firstOccasion]
      = some ⟨"abc", 3575 * second⟩ := by
    have hnone : Spent none firstOccasion.start := fun _ h => nomatch h
    have hfirst := grants_firstOccasion.use hnone
    have hrefresh : refreshTime (5 * second) 3600 = 3575 * second := by decide +kernel
    show (sampleCredentials.use none firstOccasion).cache = _
    rw [hfirst, ← hrefresh]
    rfl
  have hasked : (sampleCredentials.useAfter [firstOccasion] lastOccasion).asked = false := by
    unfold useAfter
    rw [use_of_kept hkept (by decide)]
  exact ⟨hclock, hasked,
    ((tokens_current sampleCredentials [firstOccasion] lastOccasion hclock).2.2.1 hasked).2⟩

end Credentials

end RegistryGate.Register
