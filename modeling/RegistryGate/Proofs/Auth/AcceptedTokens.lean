/-
  What an accepted token has.

  Authentication is a row of checks.  The signature of the token must be that of a published key,
  under a configured algorithm (`Vouched`); its claims must not have expired, and must not name
  other parties than the configured ones (`Unobjectionable`); and one of them must name the caller.
  The row is taken apart once (`authenticate_eq_ok_iff`), for every way of checking signatures.

  Not to name another party is less than to name the configured one: a claim that is missing, or is
  neither a text nor a list of texts, names nobody.  Such a token gets through, so an accepted token
  names the configured issuer exactly when it names one at all, and likewise the audience
  (`accepted_names_parties_iff`).
-/
import RegistryGate.Auth.Verifier
import RegistryGate.Proofs.Fallible
import RegistryGate.Proofs.Text.Cutting
import RegistryGate.Proofs.Text.HeaderValues
import RegistryGate.Proofs.Text.Trimming

namespace RegistryGate.Auth

variable {v : Verifier} {now : Nat} {token : SignedToken} {claims : Claims} {party : String}

/-! ## The claims about parties -/

/-- A party is among those that a claim names. -/
def Names (party : String) (named : Option (List String)) : Prop :=
  ∃ parties, named = some parties ∧ party ∈ parties

/-- A configured party is only compared with a claim that names some. -/
theorem agrees_some_iff {named : Option (List String)} :
    Verifier.agrees (some party) named = true ↔ (named.isSome = true → Names party named) := by
  cases named with
  | none => exact iff_of_true rfl fun h => nomatch h
  | some parties =>
    show parties.contains party = true ↔ _
    rw [List.contains_iff_mem]
    exact ⟨fun h _ => ⟨parties, rfl, h⟩, fun h => by
      obtain ⟨_, hparties, hmem⟩ := h rfl
      exact Option.some.inj hparties ▸ hmem⟩

/-- So where it agrees, it is named exactly when any party is. -/
theorem names_iff_of_agrees {expected : Option String} {named : Option (List String)}
    (h : Verifier.agrees expected named = true) (hexpected : expected = some party) :
    Names party named ↔ named.isSome = true := by
  rw [hexpected, agrees_some_iff] at h
  refine ⟨?_, h⟩
  rintro ⟨parties, rfl, -⟩
  rfl

/-! ## Bearer tokens -/

/-- A token of plain characters without white space is taken out of the header that carries it. -/
theorem bearerToken_of_plain {text : String} (hplain : text.toList.all Text.isPlain = true)
    (hne : text.toList ≠ [])
    (hstart : text.toList.head?.all (!Text.isBlank ·) = true)
    (hend : text.toList.getLast?.all (!Text.isBlank ·) = true) :
    bearerToken (some (Text.bytesOf ("Bearer " ++ text))) = .ok text := by
  have hprefix : "Bearer ".toList = ['B', 'e', 'a', 'r', 'e', 'r', ' '] := by rfl
  have hall : ("Bearer " ++ text).toList.all Text.isPlain = true := by
    rw [String.toList_append, List.all_append, hplain, hprefix]
    rfl
  have htrim : Text.trim ("Bearer " ++ text) = "Bearer " ++ text := by
    apply Text.trim_eq_self
    · rw [String.toList_append, hprefix]
      rfl
    · rw [String.toList_append, List.getLast?_append,
        Option.or_of_isSome (by rwa [List.getLast?_isSome])]
      exact hend
  have hstrip : Text.stripPrefix? "Bearer " ("Bearer " ++ text) = some text := by
    rw [Text.stripPrefix?, Text.isPrefixOf?_eq_some_iff.mpr String.toList_append]
    exact congrArg some String.ofList_toList
  have hnonempty : ∀ s : String, s.toList ≠ [] → s.isEmpty = false := by
    intro s hs
    rw [← Bool.not_eq_true, String.isEmpty_iff]
    rintro rfl
    exact hs rfl
  unfold bearerToken
  rw [Option.bind_some, Text.ofVisibleBytes?_bytesOf hall, Option.map_some, htrim]
  dsimp only
  rw [hnonempty _ (by rw [String.toList_append, hprefix]; exact List.cons_ne_nil _ _), hstrip,
    Option.some_or]
  dsimp only
  rw [Text.trim_eq_self hstart hend, hnonempty _ hne]
  rfl

/-! ## Taking a token apart -/

/-- A token is read when it has a header, claims and a signature with dots between them, and the
header says how it is signed. -/
theorem read?_eq_some_iff {text : String} :
    SignedToken.read? text = some token ↔
      ∃ head bytes, Text.splitLast? '.' text = some (token.message, token.signature) ∧
        Text.splitLast? '.' token.message = some (head, token.claims) ∧
        Text.Base64Url.decode? head = some bytes ∧
        TokenHeader.parse? bytes = some token.header := by
  simp only [SignedToken.read?, Option.bind_eq_bind, Option.bind_eq_some_iff, Option.pure_def,
    Option.some_inj, Prod.exists]
  constructor
  · rintro ⟨_, _, hcut, head, _, hmessage, bytes, hbytes, _, hheader, rfl⟩
    exact ⟨head, bytes, hcut, hmessage, hbytes, hheader⟩
  · rintro ⟨head, bytes, hcut, hmessage, hbytes, hheader⟩
    exact ⟨_, _, hcut, head, _, hmessage, bytes, hbytes, _, hheader, rfl⟩

/-- The claims of a token are the text that its claims part encodes. -/
theorem readClaims_of_decode {bytes : List UInt8} {text : String}
    (hbytes : Text.Base64Url.decode? token.claims = some bytes)
    (htext : Text.Utf8.decode? bytes = some text) (hclaims : Claims.parse? text = some claims) :
    Verifier.readClaims token = .ok claims := by
  unfold Verifier.readClaims
  rw [hbytes]
  dsimp only
  rw [htext, Option.bind_some, hclaims]

/-- Where the algorithm is no keyed hash, a token passes when its signature passes the check. -/
theorem verify_of_check {check : SignedToken.SignatureCheck} {key : VerifyingKey}
    {signature : List UInt8} (hfamily : key.family = token.header.algorithm.family)
    (hhash : SignedToken.secretHash? token.header.algorithm = none)
    (hsignature : Text.Base64Url.decode? token.signature = some signature)
    (hcheck : check token.header.algorithm key (Text.Utf8.encode token.message) signature = true) :
    token.verify check key = .ok () := by
  unfold SignedToken.verify
  dsimp only
  rw [if_pos hfamily, hhash, hsignature]
  cases key <;> exact if_pos hcheck

/-! ## The checks -/

namespace Verifier

/-- The signature of a token is that of the published key it is verified with, under one of the
configured algorithms. -/
structure Vouched (v : Verifier) (token : SignedToken) : Prop where
  /-- The algorithm is configured. -/
  algorithm : token.header.algorithm ∈ v.algorithms
  /-- The signature is the key's. -/
  signed : ∃ published key, v.selectKey token.header.keyId = .ok published ∧
    published.material.decode? = some key ∧ token.verify v.signatures key = .ok ()

/-- Claims that a token is not refused for at a time. -/
structure Unobjectionable (v : Verifier) (now : Nat) (claims : Claims) : Prop where
  /-- They say when the token expires, and it has not, give or take the leeway. -/
  unexpired : ∃ expiry, claims.expiry? = some expiry ∧ now - v.leeway ≤ expiry
  /-- They do not contradict the configured issuer. -/
  issuer : agrees v.issuer claims.issuers? = true
  /-- Nor the configured audience. -/
  audience : agrees v.audience claims.audiences? = true

/-- The checks of the signature pass the tokens that are vouched for, and no others. -/
theorem checkSignature_eq_ok_iff : v.checkSignature token = .ok () ↔ v.Vouched token := by
  unfold checkSignature
  by_cases halgorithm : v.algorithms.contains token.header.algorithm = true
  · -- the algorithm is configured: the rest is decided by the key
    rw [halgorithm]
    show (v.selectKey token.header.keyId >>= _) = _ ↔ _
    rw [Fallible.bind_eq_ok_iff]
    constructor
    · rintro ⟨published, hpublished, h⟩
      cases hkey : published.material.decode? with
      | none => rw [hkey] at h; cases h
      | some key =>
        cases hverify : token.verify v.signatures key with
        | error fault => cases fault <;> simp [hkey, hverify] at h
        | ok =>
          exact ⟨List.contains_iff_mem.mp halgorithm, published, key, hpublished, hkey, hverify⟩
    · rintro ⟨-, published, key, hpublished, hkey, hverify⟩
      refine ⟨published, hpublished, ?_⟩
      rw [hkey]
      dsimp only
      rw [hverify]
      rfl
  · rw [Bool.not_eq_true] at halgorithm
    rw [halgorithm]
    refine iff_of_false (fun h => nomatch h) fun h => ?_
    rw [List.contains_iff_mem.mpr h.algorithm] at halgorithm
    cases halgorithm

/-- The checks of the claims pass those that nothing is held against.  They come in a row, so in
each case the checks before have passed. -/
theorem checkClaims_eq_ok_iff :
    v.checkClaims now claims = .ok () ↔ v.Unobjectionable now claims := by
  unfold checkClaims
  cases hexpiry : claims.expiry? with
  | none =>
    refine iff_of_false (fun h => nomatch h) fun h => ?_
    obtain ⟨expiry, hsome, -⟩ := h.unexpired
    rw [hexpiry] at hsome
    cases hsome
  | some expiry =>
    dsimp only
    split
    · rename_i hexpired
      refine iff_of_false (fun h => nomatch h) fun h => ?_
      obtain ⟨_, hsome, hle⟩ := h.unexpired
      obtain rfl := Option.some.inj (hexpiry.symm.trans hsome)
      omega
    · split
      · rename_i hissuer
        refine iff_of_false (fun h => nomatch h) fun h => ?_
        rw [h.issuer] at hissuer
        cases hissuer
      · split
        · rename_i haudience
          refine iff_of_false (fun h => nomatch h) fun h => ?_
          rw [h.audience] at haudience
          cases haudience
        · rename_i hunexpired hissuer haudience
          refine iff_of_true rfl ⟨⟨expiry, hexpiry, by omega⟩, ?_, ?_⟩
          · simpa using hissuer
          · simpa using haudience

/-- A token names a caller when it can be read, passes the checks and has a claim that does. -/
theorem verifyToken_eq_ok_iff {text : String} {caller : Proxy.Principal} :
    v.verifyToken now text = .ok caller ↔
      ∃ token claims, SignedToken.read? text = some token ∧ v.Vouched token ∧
        readClaims token = .ok claims ∧ v.Unobjectionable now claims ∧
        v.principal claims = .ok caller := by
  unfold verifyToken
  cases SignedToken.read? text with
  | none => exact iff_of_false (fun h => nomatch h) fun ⟨_, _, h, _⟩ => nomatch h
  | some token =>
    constructor
    · -- the row is peeled off from its first check to its last
      intro h
      obtain ⟨_, hsigned, h⟩ := Fallible.bind_eq_ok_iff.mp h
      obtain ⟨claims, hclaims, h⟩ := Fallible.bind_eq_ok_iff.mp h
      obtain ⟨_, hchecked, hcaller⟩ := Fallible.bind_eq_ok_iff.mp h
      exact ⟨token, claims, rfl, checkSignature_eq_ok_iff.mp hsigned, hclaims,
        checkClaims_eq_ok_iff.mp hchecked, hcaller⟩
    · -- and put together again from the last one
      rintro ⟨_, claims, ⟨rfl⟩, hvouched, hclaims, hchecked, hcaller⟩
      exact Fallible.bind_eq_ok_iff.mpr ⟨(), checkSignature_eq_ok_iff.mpr hvouched,
        Fallible.bind_eq_ok_iff.mpr ⟨claims, hclaims,
          Fallible.bind_eq_ok_iff.mpr ⟨(), checkClaims_eq_ok_iff.mpr hchecked, hcaller⟩⟩⟩

/-- Inversion of `authenticate`: a caller is known when the header carries a token that names the
caller. -/
theorem authenticate_eq_ok_iff {header : Option (List UInt8)} {caller : Proxy.Principal} :
    v.authenticate now header = .ok caller ↔
      ∃ text, bearerToken header = .ok text ∧ v.verifyToken now text = .ok caller := by
  unfold authenticate
  rw [Fallible.bind_eq_ok_iff]
  refine exists_congr fun text => and_congr_right fun _ => ?_
  cases v.verifyToken now text with
  | error fault => exact iff_of_false (fun h => nomatch h) fun h => nomatch h
  | ok named =>
    exact ⟨fun h => congrArg Except.ok (Except.ok.inj h),
      fun h => congrArg Except.ok (Except.ok.inj h)⟩

/-! ## Accepted tokens -/

/-- **Whom an accepted token names.**  A token by which a caller is known has the signature of a
published key under a configured algorithm.  If an issuer is configured, its claims name that issuer
exactly when they name any, and so for the audience: a claim that is missing or of the wrong kind is
not held against the token. -/
theorem accepted_names_parties_iff {v : Verifier} {now : Nat} {header : Option (List UInt8)}
    {caller : Proxy.Principal} (haccepted : v.authenticate now header = .ok caller) :
    ∃ text token claims, bearerToken header = .ok text ∧ SignedToken.read? text = some token ∧
      readClaims token = .ok claims ∧ v.Vouched token ∧
      (∀ party, v.issuer = some party →
        (Names party claims.issuers? ↔ claims.issuers?.isSome = true)) ∧
      (∀ party, v.audience = some party →
        (Names party claims.audiences? ↔ claims.audiences?.isSome = true)) := by
  obtain ⟨text, htext, hverified⟩ := authenticate_eq_ok_iff.mp haccepted
  obtain ⟨token, claims, htoken, hvouched, hclaims, hchecked, -⟩ :=
    verifyToken_eq_ok_iff.mp hverified
  exact ⟨text, token, claims, htext, htoken, hclaims, hvouched,
    fun _ => names_iff_of_agrees hchecked.issuer, fun _ => names_iff_of_agrees hchecked.audience⟩

/-! ## A token that names no audience -/

/-- The header part of a token: `{"alg":"RS256"}`. -/
def sampleHead : String := "eyJhbGciOiJSUzI1NiJ9"

/-- The claims part: the caller, a role, the issuer and when the token expires, but no audience. -/
def sampleClaims : String :=
  "eyJleHAiOjQxMDI0NDQ4MDAsImlzcyI6Imh0dHBzOi8vbG9naW4uZXhhbXBsZS90ZW5hbnQvdjIuMCIsInN1YiI6" ++
    "InN1YmplY3QtMSIsInJvbGVzIjpbImJlbmstYnJwLWFwaSJdfQ"

/-- The signature part. -/
def sampleSignature : String :=
  "hM_hs8_vMLxiVOW03SjD2bBK4bn6gX6O-0QOqbDAGIAmBkLrOjE1bUg3zZUqHoJpsb2yNnIX1dU8LpaHB94QyGNe" ++
    "2r9vfcm3Ioea5l6OmyWIipE59GPK9A03B6elDff5ABPvjH_2HYxBLfDZcUOocVUi-LPSwMq3c3pERkIsHQ-01TsH" ++
    "_u5__hbnQC8XFh7RyC8n87j-4tZGBeYZBAK0zXPzT-Ro6j2yGZd8eflhw2jZM8A1dzy9EEL3piz8lbJhi9toauJT" ++
    "xq2gqDIu66n-It6-OV3Gb_YyFQZeLTQAbhIFcULWy8_JfLiyyN6-N0ymAMnIsH0Kb3I39VqXouejig"

/-- The token. -/
def sampleText : String := sampleHead ++ "." ++ sampleClaims ++ "." ++ sampleSignature

/-- The token in its parts. -/
def sampleToken : SignedToken :=
  ⟨⟨.rs256, none⟩, sampleHead ++ "." ++ sampleClaims, sampleClaims, sampleSignature⟩

/-- The modulus of the key that signed it. -/
def sampleModulus : String :=
  "yBPn-FhPCP6m7KVtQspeEE9cl1_P-iOoJ9GCqW6HivbkyIzmu3rJh-Oiv8rUJ65XgdORW1iHjs_me3AQ-6PP95ee" ++
    "Nl8RYtUzmbhdKJ0QCi4NqKnOBYJreFZwjjf-dALN_x_0dqmAbgYHkM4B17g2VQN0sGzksz7xRQsHmS2MExADPv_0" ++
    "IXsCTxduX-GnCljUeWgDcJxg9JlldSkp5BIafjM2nBXJX7lJI3P-GBVSC0IjleKDtc0-TT0aG_GmITpYrP2ijtUW" ++
    "ybHMvy-5cyZetT4oBMhX8y_TOlhOq_bvBQBdlObRHJDUMOViUtbu7eSEdGB-tQhGmnwy9isoid5uGw"

/-- The issuer that it names. -/
def sampleIssuer : String := "https://login.example/tenant/v2.0"

/-- A verifier for tokens of that issuer, and possibly for an audience. -/
def sampleVerifier (audience : Option String) : Verifier where
  keys := ⟨[⟨some "test-kid", .rsa sampleModulus "AQAB"⟩]⟩
  algorithms := [.rs256]
  issuer := some sampleIssuer
  audience := audience
  userClaim := "email"
  scopeClaim := "roles"
  leeway := 30
  signatures := SignedToken.accepts

/-- The caller whom the token names. -/
def sampleCaller : Proxy.Principal := ⟨"subject-1", SortedSet.ofList ["benk-brp-api"]⟩

/-- The header that carries the token. -/
def sampleHeader : List UInt8 := Text.bytesOf ("Bearer " ++ sampleText)

theorem bearerToken_sampleHeader : bearerToken (some sampleHeader) = .ok sampleText := by
  have hchars : sampleText.toList.all Text.isPlain = true ∧ sampleText.toList ≠ [] ∧
      sampleText.toList.head?.all (!Text.isBlank ·) = true ∧
      sampleText.toList.getLast?.all (!Text.isBlank ·) = true := by
    -- a literal is its characters from the start; decoding its bytes would be slow to evaluate
    unfold sampleText sampleHead sampleClaims sampleSignature
    repeat rw [String.toList_append]
    repeat rw [String.toList_ofList]
    decide +kernel
  obtain ⟨hplain, hne, hstart, hend⟩ := hchars
  exact bearerToken_of_plain hplain hne hstart hend

theorem read?_sampleText : SignedToken.read? sampleText = some sampleToken := by
  have hcut : Text.splitLast? '.' sampleText
      = some (sampleHead ++ "." ++ sampleClaims, sampleSignature) := by
    refine Text.splitLast?_eq_some_iff.mpr ⟨rfl, ?_⟩
    unfold sampleSignature
    repeat rw [String.toList_append]
    repeat rw [String.toList_ofList]
    decide +kernel
  have hmessage : Text.splitLast? '.' (sampleHead ++ "." ++ sampleClaims)
      = some (sampleHead, sampleClaims) := by
    refine Text.splitLast?_eq_some_iff.mpr ⟨rfl, ?_⟩
    unfold sampleClaims
    repeat rw [String.toList_append]
    repeat rw [String.toList_ofList]
    decide +kernel
  have hheader : (Text.Base64Url.decode? sampleHead).bind TokenHeader.parse?
      = some ⟨.rs256, none⟩ := by decide +kernel
  obtain ⟨bytes, hbytes, hparsed⟩ := Option.bind_eq_some_iff.mp hheader
  exact read?_eq_some_iff.mpr ⟨sampleHead, bytes, hcut, hmessage, hbytes, hparsed⟩

/-- What the claims part of the token says. -/
theorem readClaims_sampleToken : readClaims sampleToken
    = .ok ⟨[("exp", .number (.integer 4102444800)), ("iss", .string sampleIssuer),
        ("roles", .array [.string "benk-brp-api"]), ("sub", .string "subject-1")]⟩ := by
  have hclaims : ((((Text.Base64Url.decode? sampleClaims).bind Text.Utf8.decode?).bind
      Claims.parse?).map Claims.members)
      = some [("exp", .number (.integer 4102444800)), ("iss", .string sampleIssuer),
        ("roles", .array [.string "benk-brp-api"]), ("sub", .string "subject-1")] := by
    unfold Text.Base64Url.decode? sampleClaims
    repeat rw [String.toList_append]
    repeat rw [String.toList_ofList]
    decide +kernel
  obtain ⟨claims, hparsed, hmembers⟩ := Option.map_eq_some_iff.mp hclaims
  obtain ⟨text, htext, hparsed⟩ := Option.bind_eq_some_iff.mp hparsed
  obtain ⟨bytes, hbytes, htext⟩ := Option.bind_eq_some_iff.mp htext
  rw [← hmembers]
  exact readClaims_of_decode hbytes htext hparsed

theorem vouched_sampleToken (audience : Option String) :
    (sampleVerifier audience).Vouched sampleToken := by
  have hverifies : ((Text.Base64Url.decode? sampleModulus).bind fun n =>
      (Text.Base64Url.decode? "AQAB").bind fun e =>
        (Text.Base64Url.decode? sampleSignature).map fun s =>
          Digest.RsaKey.verifies ⟨n, e⟩ Digest.signatureSha256
            (Text.Utf8.encode (sampleHead ++ "." ++ sampleClaims)) s) = some true := by
    unfold Text.Base64Url.decode? sampleModulus sampleSignature
    repeat rw [String.toList_append]
    repeat rw [String.toList_ofList]
    decide +kernel
  obtain ⟨n, hn, hverifies⟩ := Option.bind_eq_some_iff.mp hverifies
  obtain ⟨e, he, hverifies⟩ := Option.bind_eq_some_iff.mp hverifies
  obtain ⟨s, hs, hverifies⟩ := Option.map_eq_some_iff.mp hverifies
  refine ⟨List.mem_cons_self, _, .rsa ⟨n, e⟩, rfl, ?_, ?_⟩
  · simp only [KeyMaterial.decode?, hn, he, Option.bind_eq_bind, Option.bind_some, Option.pure_def]
  · exact verify_of_check rfl rfl hs hverifies

/-- The token is accepted, whatever audience is configured. -/
theorem authenticate_sampleHeader (audience : Option String) :
    (sampleVerifier audience).authenticate 1700000000 (some sampleHeader) = .ok sampleCaller := by
  refine authenticate_eq_ok_iff.mpr ⟨sampleText, bearerToken_sampleHeader,
    verifyToken_eq_ok_iff.mpr ⟨sampleToken, _, read?_sampleText, vouched_sampleToken audience,
      readClaims_sampleToken, ⟨⟨4102444800, rfl, ?_⟩, ?_, ?_⟩, ?_⟩⟩
  · show 1700000000 - 30 ≤ 4102444800
    decide
  · exact agrees_some_iff.mpr fun _ => ⟨[sampleIssuer], rfl, List.mem_cons_self⟩
  · cases audience <;> rfl
  · rfl

/-- The audience that the token should name. -/
def sampleAudience : String := "api://registry-gate"

/-- The token is accepted where an issuer and an audience are configured: it names the issuer, which
it has to, as it names some, and it does not name the audience. -/
theorem accepted_names_parties_of_issuer :
    (sampleVerifier (some sampleAudience)).authenticate 1700000000 (some sampleHeader)
        = .ok sampleCaller ∧
      (sampleVerifier (some sampleAudience)).Vouched sampleToken ∧
      ∃ claims, readClaims sampleToken = .ok claims ∧ Names sampleIssuer claims.issuers? ∧
        ¬ Names sampleAudience claims.audiences? := by
  have haccepted := authenticate_sampleHeader (some sampleAudience)
  obtain ⟨text, token, claims, htext, htoken, hclaims, hvouched, hissuer, haudience⟩ :=
    accepted_names_parties_iff haccepted
  -- what the theorem finds in the header is the sample, since each step of reading it is a function
  obtain rfl := Except.ok.inj (bearerToken_sampleHeader.symm.trans htext)
  obtain rfl := Option.some.inj (read?_sampleText.symm.trans htoken)
  refine ⟨haccepted, hvouched, claims, hclaims, (hissuer _ rfl).mpr ?_,
    fun h => absurd ((haudience _ rfl).mp h) ?_⟩
  all_goals
    obtain rfl := Except.ok.inj (readClaims_sampleToken.symm.trans hclaims)
    decide +kernel

/-- A configured audience is not required: the token that names none is accepted. -/
theorem audience_not_required :
    ¬ ∀ (v : Verifier) (now : Nat) (header : Option (List UInt8)) (caller : Proxy.Principal),
      v.authenticate now header = .ok caller →
        ∃ text token claims, bearerToken header = .ok text ∧
          SignedToken.read? text = some token ∧ readClaims token = .ok claims ∧
          token.header.algorithm ∈ v.algorithms ∧
          (∀ party, v.issuer = some party → Names party claims.issuers?) ∧
          ∀ party, v.audience = some party → Names party claims.audiences? := by
  intro h
  obtain ⟨text, token, claims, htext, htoken, hclaims, -, -, haudience⟩ :=
    h _ _ _ _ (authenticate_sampleHeader (some sampleAudience))
  obtain rfl := Except.ok.inj (bearerToken_sampleHeader.symm.trans htext)
  obtain rfl := Option.some.inj (read?_sampleText.symm.trans htoken)
  obtain rfl := Except.ok.inj (readClaims_sampleToken.symm.trans hclaims)
  obtain ⟨parties, hparties, -⟩ := haudience sampleAudience rfl
  cases hparties

end Verifier

end RegistryGate.Auth
