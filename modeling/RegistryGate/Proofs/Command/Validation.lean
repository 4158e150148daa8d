/-
  What the judgement of settings says about a start.

  Judging settings and starting a gateway with them are two sequences of steps that load the same
  parts, in two orders.  Both are taken apart into these parts (`judge_eq_ok_iff`,
  `exists_loadedFrom`), so the orders do not matter; and what is left of a start once the parts are
  there is to open the audit log (`ofSettings_of_loadedFrom`), which the judgement does not try.
  So a judgement predicts a start unless it passes settings whose audit log cannot be opened.
-/
import RegistryGate.Command.Validation
import RegistryGate.Proofs.Fallible
import RegistryGate.Storage.Tree

namespace RegistryGate

open Config (Settings)

variable {env : Environment} {asked : Option String} {s : Settings}

/-! ## Steps -/

/-- The verdict on a setting does not change when it is reported. -/
theorem Config.judged_eq_ok_iff {α : Type} {x : Except Config.SettingFault α} {a : α} :
    Config.judged x = .ok a ↔ x = .ok a := by
  have hmap : Config.judged x = x.mapError .invalid := by cases x <;> rfl
  rw [hmap, Fallible.mapError_eq_ok_iff]

theorem Command.step_eq_ok_iff {ε α : Type} {about : ε → Command.Complaint} {x : Except ε α}
    {a : α} : Command.step about x = .ok a ↔ x = .ok a := by
  have hmap : Command.step about x = x.mapError about := by cases x <;> rfl
  rw [hmap, Fallible.mapError_eq_ok_iff]

theorem Gateway.because_eq_ok_iff {ε α : Type} {cause : ε → Gateway.StartError} {x : Except ε α}
    {a : α} : Gateway.because cause x = .ok a ↔ x = .ok a := by
  have hmap : Gateway.because cause x = x.mapError cause := by cases x <;> rfl
  rw [hmap, Fallible.mapError_eq_ok_iff]

/-- Settings that are loaded are acceptable, so a start does not refuse them. The check is the last
step of loading. -/
theorem Config.Settings.validate_of_load (h : Settings.load env asked = .ok s) :
    s.validate = .ok () := by
  obtain ⟨path, -, h⟩ := Fallible.bind_eq_ok_iff.mp h
  obtain ⟨-, -, h⟩ := Fallible.bind_eq_ok_iff.mp h
  obtain ⟨settings, -, h⟩ := Fallible.bind_eq_ok_iff.mp h
  obtain ⟨_, hvalid, h⟩ := Fallible.bind_eq_ok_iff.mp h
  obtain rfl := Except.ok.inj h
  exact hvalid

namespace Gateway

/-! ## Parts -/

/-- What settings name, apart from the audit log. -/
structure Parts where
  /-- The address to listen on. -/
  address : Net.SocketAddress
  /-- The endpoints, in order. -/
  endpoints : List Endpoint
  /-- The cipher for identifiers. -/
  cipher : Token.Cipher
  /-- The client that calls the register. -/
  client : Register.Client
  /-- The verifier of bearer tokens. -/
  verifier : Auth.Verifier

/-- Parts are those that settings name. -/
structure Parts.LoadedFrom (env : Environment) (s : Settings) (parts : Parts) : Prop where
  /-- The address is the one of the settings. -/
  address : s.server.bindAddress = .ok parts.address
  /-- The endpoints are. -/
  endpoints : s.endpoints env = .ok parts.endpoints
  /-- The cipher is. -/
  cipher : s.tokenization.cipher env = .ok parts.cipher
  /-- The client is. -/
  client : Register.Client.ofSettings env s.register = .ok parts.client
  /-- The verifier is. -/
  verifier : s.auth.verifier env = .ok parts.verifier

/-- A gateway made of parts. -/
def Parts.server (s : Settings) (parts : Parts) (audit : AuditSink) : Server where
  address := parts.address
  service := Service.ofEndpoints parts.endpoints parts.cipher parts.verifier (localeFor s)
    s.server.maxBodyBytes
  client := parts.client
  audit := audit

/-- Once the parts are there, all that a start still does is to open the audit log. -/
theorem ofSettings_of_loadedFrom {parts : Parts} (hvalid : s.validate = .ok ())
    (h : parts.LoadedFrom env s) :
    Server.ofSettings env s
      = (because .auditLog (AuditSink.ofSettings env.files s.audit)).map (parts.server s) := by
  unfold Server.ofSettings
  -- no step before the log can fail
  rw [hvalid, h.address, h.endpoints, h.cipher, h.client, h.verifier]
  cases AuditSink.ofSettings env.files s.audit with
  | error fault => rfl
  | ok audit => rfl

/-- A gateway that starts has all of its parts. The log, which a start opens as well, is not one of
them. -/
theorem exists_loadedFrom {server : Server} (h : Server.ofSettings env s = .ok server) :
    ∃ parts : Parts, parts.LoadedFrom env s := by
  obtain ⟨-, -, h⟩ := Fallible.bind_eq_ok_iff.mp h
  obtain ⟨address, haddress, h⟩ := Fallible.bind_eq_ok_iff.mp h
  obtain ⟨endpoints, hendpoints, h⟩ := Fallible.bind_eq_ok_iff.mp h
  obtain ⟨cipher, hcipher, h⟩ := Fallible.bind_eq_ok_iff.mp h
  obtain ⟨client, hclient, h⟩ := Fallible.bind_eq_ok_iff.mp h
  obtain ⟨audit, -, h⟩ := Fallible.bind_eq_ok_iff.mp h
  obtain ⟨verifier, hverifier, -⟩ := Fallible.bind_eq_ok_iff.mp h
  exact ⟨⟨address, endpoints, cipher, client, verifier⟩,
    Config.judged_eq_ok_iff.mp (because_eq_ok_iff.mp haddress), because_eq_ok_iff.mp hendpoints,
    because_eq_ok_iff.mp hcipher, because_eq_ok_iff.mp hclient, because_eq_ok_iff.mp hverifier⟩

/-! ## The audit log -/

/-- Records are to be written to a file that cannot be opened. -/
def LogShut (files : FileSystem) (s : Config.AuditSettings) (fault : IoFault) : Prop :=
  s.enabled = true ∧ ∃ log, s.path = some log ∧ files.appendable log = .error fault

theorem auditSink_eq_error_iff {files : FileSystem} {s : Config.AuditSettings} {fault : IoFault} :
    AuditSink.ofSettings files s = .error fault ↔ LogShut files s fault := by
  obtain ⟨enabled, path⟩ := s
  cases enabled with
  | false => exact iff_of_false (fun h => nomatch h) fun ⟨h, _⟩ => nomatch h
  | true =>
    cases path with
    | none => exact iff_of_false (fun h => nomatch h) fun ⟨_, _, h, _⟩ => nomatch h
    | some log =>
      have hopened : AuditSink.ofSettings files ⟨true, some log⟩
          = (files.appendable log).map fun _ => .file log := rfl
      rw [hopened, Fallible.map_eq_error_iff]
      constructor
      · intro h
        exact ⟨rfl, log, rfl, h⟩
      · rintro ⟨-, _, ⟨rfl⟩, h⟩
        exact h

/-- Records are kept exactly when the settings say so. -/
theorem enabled_iff_of_auditSink {files : FileSystem} {s : Config.AuditSettings}
    {audit : AuditSink} (h : AuditSink.ofSettings files s = .ok audit) :
    s.enabled = true ↔ audit ≠ .discard := by
  obtain ⟨enabled, path⟩ := s
  cases enabled with
  | false =>
    obtain rfl := Except.ok.inj h
    exact iff_of_false (fun h => nomatch h) fun h => h rfl
  | true =>
    refine iff_of_true rfl ?_
    cases path with
    | none =>
      obtain rfl := Except.ok.inj h
      exact fun h => nomatch h
    | some log =>
      obtain ⟨-, -, rfl⟩ := Fallible.map_eq_ok_iff.mp h
      exact fun h => nomatch h

end Gateway

namespace Command

open Gateway (AuditSink LogShut Parts Server)

/-! ## Judgement and start -/

/-- What is said of settings whose parts are there. -/
def summaryOf (s : Settings) (parts : Parts) : Summary :=
  ⟨parts.address, parts.endpoints, parts.cipher.keyCount, s.audit.enabled⟩

/-- A judgement passes settings that can be loaded with all of their parts. It loads the verifier
before the client, and a start the other way round. -/
theorem judge_eq_ok_iff {summary : Summary} :
    judge env asked = .ok summary ↔
      ∃ s parts, Settings.load env asked = .ok s ∧ Parts.LoadedFrom env s parts ∧
        summaryOf s parts = summary := by
  constructor
  · intro h
    obtain ⟨s, hload, h⟩ := Fallible.bind_eq_ok_iff.mp h
    obtain ⟨address, haddress, h⟩ := Fallible.bind_eq_ok_iff.mp h
    obtain ⟨endpoints, hendpoints, h⟩ := Fallible.bind_eq_ok_iff.mp h
    obtain ⟨cipher, hcipher, h⟩ := Fallible.bind_eq_ok_iff.mp h
    obtain ⟨verifier, hverifier, h⟩ := Fallible.bind_eq_ok_iff.mp h
    obtain ⟨client, hclient, h⟩ := Fallible.bind_eq_ok_iff.mp h
    exact ⟨s, ⟨address, endpoints, cipher, client, verifier⟩, step_eq_ok_iff.mp hload,
      ⟨Config.judged_eq_ok_iff.mp (step_eq_ok_iff.mp haddress), step_eq_ok_iff.mp hendpoints,
        step_eq_ok_iff.mp hcipher, step_eq_ok_iff.mp hclient, step_eq_ok_iff.mp hverifier⟩,
      Except.ok.inj h⟩
  · rintro ⟨s, parts, hload, hparts, rfl⟩
    refine Fallible.bind_eq_ok_iff.mpr ⟨s, step_eq_ok_iff.mpr hload, ?_⟩
    rw [hparts.address, hparts.endpoints, hparts.cipher, hparts.verifier, hparts.client]
    rfl

/-- The judgement of the settings of a file passes. -/
def Passes (env : Environment) (asked : Option String) : Prop :=
  ∃ summary, judge env asked = .ok summary

/-- A gateway starts with the settings of a file. -/
def Starts (env : Environment) (asked : Option String) : Prop :=
  ∃ s server, Settings.load env asked = .ok s ∧ Server.ofSettings env s = .ok server

/-- A summary is about a gateway. -/
structure Summary.Describes (summary : Summary) (server : Server) : Prop where
  /-- The gateway listens on the address. -/
  address : server.address = summary.address
  /-- It serves the endpoints. -/
  endpoints : server.service.endpoints
    = Table.ofList (summary.endpoints.map fun endpoint => (endpoint.publicPath, endpoint))
  /-- It has as many keys for identifiers. -/
  keyCount : server.service.cipher.keyCount = summary.keyCount
  /-- It keeps audit records when it is said to. -/
  audit : summary.auditEnabled = true ↔ server.audit ≠ .discard

/-- A start succeeds only with settings that the judgement passes. -/
theorem passes_of_starts (h : Starts env asked) : Passes env asked := by
  obtain ⟨s, server, hload, hstart⟩ := h
  obtain ⟨parts, hparts⟩ := Gateway.exists_loadedFrom hstart
  exact ⟨summaryOf s parts, judge_eq_ok_iff.mpr ⟨s, parts, hload, hparts, rfl⟩⟩

/-- With settings that the judgement passes, a gateway starts as it was said, or its audit log
cannot be opened. -/
theorem outcome_of_judge {summary : Summary} (hload : Settings.load env asked = .ok s)
    (hjudge : judge env asked = .ok summary) :
    (∃ server, Server.ofSettings env s = .ok server ∧ summary.Describes server) ∨
      ∃ fault, LogShut env.files s.audit fault ∧
        Server.ofSettings env s = .error (.auditLog fault) := by
  obtain ⟨s', parts, hload', hparts, rfl⟩ := judge_eq_ok_iff.mp hjudge
  obtain rfl := Except.ok.inj (hload.symm.trans hload')
  rw [Gateway.ofSettings_of_loadedFrom (Config.Settings.validate_of_load hload) hparts]
  cases haudit : AuditSink.ofSettings env.files s.audit with
  | ok audit =>
    exact Or.inl ⟨parts.server s audit, rfl, rfl, rfl, rfl,
      Gateway.enabled_iff_of_auditSink haudit⟩
  | error fault => exact Or.inr ⟨fault, Gateway.auditSink_eq_error_iff.mp haudit, rfl⟩

/-- A log that cannot be opened keeps a gateway from starting. -/
theorem not_starts_of_logShut {fault : IoFault} (hload : Settings.load env asked = .ok s)
    (hshut : LogShut env.files s.audit fault) : ¬ Starts env asked := by
  rintro ⟨s', server, hload', hstart⟩
  obtain rfl := Except.ok.inj (hload.symm.trans hload')
  obtain ⟨parts, hparts⟩ := Gateway.exists_loadedFrom hstart
  rw [Gateway.ofSettings_of_loadedFrom (Config.Settings.validate_of_load hload) hparts,
    Gateway.auditSink_eq_error_iff.mpr hshut] at hstart
  cases hstart

/-- **A judgement predicts a start, except for the audit log.**  Whatever the machine holds, a start
succeeds exactly when the judgement passes, unless the judgement passes settings with an audit log
that cannot be opened.  A start never succeeds where the judgement fails; and where it passes, the
gateway is as it was said, or the log is what is reported. -/
theorem judge_predicts_start_iff (env : Environment) (asked : Option String) :
    ((Passes env asked ↔ Starts env asked) ↔
      ¬ (Passes env asked ∧ ∃ s fault, Settings.load env asked = .ok s ∧
        LogShut env.files s.audit fault)) ∧
    (Starts env asked → Passes env asked) ∧
    ∀ s summary, Settings.load env asked = .ok s → judge env asked = .ok summary →
      (∃ server, Server.ofSettings env s = .ok server ∧ summary.Describes server) ∨
        ∃ fault, LogShut env.files s.audit fault ∧
          Server.ofSettings env s = .error (.auditLog fault) := by
  refine ⟨⟨?_, ?_⟩, passes_of_starts, fun s summary hload hjudge => outcome_of_judge hload hjudge⟩
  · -- a log that is shut lets the judgement pass and the start fail
    rintro hiff ⟨hpasses, s, fault, hload, hshut⟩
    exact not_starts_of_logShut hload hshut (hiff.mp hpasses)
  · -- where the judgement passes, only the log could keep a start from succeeding
    intro hopen
    refine ⟨fun hpasses => ?_, passes_of_starts⟩
    obtain ⟨summary, hjudge⟩ := hpasses
    obtain ⟨s, parts, hload, -, -⟩ := judge_eq_ok_iff.mp hjudge
    rcases outcome_of_judge hload hjudge with ⟨server, hstart, -⟩ | ⟨fault, hshut, -⟩
    · exact ⟨s, server, hload, hstart⟩
    · exact absurd ⟨⟨summary, hjudge⟩, s, fault, hload, hshut⟩ hopen

/-! ### A machine with two files of settings -/

open Storage (Tree)

/-- A file of settings with an audit log. -/
def sampleText (log : String) : String :=
  "auth.jwks = '\x7b\"keys\":[]\x7d'\nupstream.base_url = 'https://[::1]'\naudit.path = '"
    ++ log ++ "'\n"

/-- The settings that are in it, apart from the audit log. -/
def commonSettings : Settings where
  server := {}
  auth := { jwks := some "\x7b\"keys\":[]\x7d" }
  register := { baseUrl := "https://[::1]" }
  tokenization := {}
  catalogDir := Settings.defaultCatalogDir
  audit := {}
  logging := {}

/-- The settings that are in it. -/
def sampleSettings (log : String) : Settings :=
  { commonSettings with audit := { path := some log } }

/-- A file that holds a text. -/
def textFile (text : String) : Tree := .file text.toUTF8

/-- Two files of settings, and a catalog.  There is no directory `away`. -/
def sampleTree : Tree :=
  .directory
    [("here.toml", textFile (sampleText "log")), ("away.toml", textFile (sampleText "away/log")),
      ("config", .directory
        [("schemas", .directory
          [("personen.json", textFile "\x7b\"naam\": \"1\"\x7d"),
            ("reisdocumenten.json", textFile "\x7b\"soort\": \"1\"\x7d")]),
          ("dataset_fields", .directory
            [("personen", .directory [("basis.txt", textFile "naam")]),
              ("reisdocumenten", .directory [("basis.txt", textFile "soort")])]),
          ("fields", .directory
            [("personen", .directory
              [("Persoon.txt", textFile "naam"),
                ("PersoonBeperkt.txt", textFile "naam")])])])]

/-- A machine with these files, and a key for identifiers. -/
def sampleEnvironment : Environment where
  files := sampleTree.fileSystem "/"
  valueOf? _ := some "AQEBAQEBAQEBAQEBAQEBAQEBAQEBAQEBAQEBAQEBAQE"

theorem load_sample :
    (Settings.load sampleEnvironment (some "here.toml")).toOption = some (sampleSettings "log") ∧
      (Settings.load sampleEnvironment (some "away.toml")).toOption
        = some (sampleSettings "away/log") := by
  decide +kernel

/-- Endpoints do not depend on the audit log. -/
theorem endpoints_withAudit (s : Settings) (audit : Config.AuditSettings) :
    { s with audit := audit }.endpoints env = s.endpoints env := rfl

/-- All parts that the settings name are there, whatever the audit log is. -/
theorem exists_loadedFrom_sample (log : String) :
    ∃ parts : Parts, parts.LoadedFrom sampleEnvironment (sampleSettings log) := by
  have haddress : commonSettings.server.bindAddress.isOk := by decide +kernel
  have hendpoints : (commonSettings.endpoints sampleEnvironment).isOk := by decide +kernel
  have hcipher : (commonSettings.tokenization.cipher sampleEnvironment).isOk := by decide +kernel
  have hverifier : (commonSettings.auth.verifier sampleEnvironment).isOk := by decide +kernel
  obtain ⟨address, haddress⟩ := Fallible.exists_of_isOk haddress
  obtain ⟨endpoints, hendpoints⟩ := Fallible.exists_of_isOk hendpoints
  obtain ⟨cipher, hcipher⟩ := Fallible.exists_of_isOk hcipher
  obtain ⟨verifier, hverifier⟩ := Fallible.exists_of_isOk hverifier
  exact ⟨⟨address, endpoints, cipher, ⟨none, none, commonSettings.register.maxResponseBytes⟩,
    verifier⟩, haddress, (endpoints_withAudit commonSettings _).trans hendpoints, hcipher, rfl,
    hverifier⟩

/-- A log beside the settings can be opened, and the gateway starts as it was said. -/
theorem judge_predicts_start_of_sample :
    ∃ summary server, judge sampleEnvironment (some "here.toml") = .ok summary ∧
      Server.ofSettings sampleEnvironment (sampleSettings "log") = .ok server ∧
      summary.Describes server := by
  have hload := Fallible.eq_ok_of_toOption load_sample.1
  obtain ⟨parts, hparts⟩ := exists_loadedFrom_sample "log"
  have hjudge := judge_eq_ok_iff.mpr ⟨_, parts, hload, hparts, rfl⟩
  rcases (judge_predicts_start_iff sampleEnvironment (some "here.toml")).2.2 _ _ hload hjudge with
    ⟨server, hstart, hdescribes⟩ | ⟨fault, ⟨-, log, ⟨rfl⟩, hshut⟩, -⟩
  · exact ⟨_, server, hjudge, hstart, hdescribes⟩
  · have hopen : (sampleEnvironment.files.appendable "log").isOk := by decide +kernel
    rw [hshut] at hopen
    cases hopen

/-- A log in a directory that is not there is not looked at by the judgement, but a start opens
it. -/
theorem judge_passes_shut_log :
    Passes sampleEnvironment (some "away.toml") ∧
      Settings.load sampleEnvironment (some "away.toml") = .ok (sampleSettings "away/log") ∧
      Server.ofSettings sampleEnvironment (sampleSettings "away/log")
        = .error (.auditLog .notFound) ∧
      ¬ Starts sampleEnvironment (some "away.toml") := by
  have hload := Fallible.eq_ok_of_toOption load_sample.2
  obtain ⟨parts, hparts⟩ := exists_loadedFrom_sample "away/log"
  have hshut : LogShut sampleEnvironment.files (sampleSettings "away/log").audit .notFound :=
    ⟨rfl, "away/log", rfl, rfl⟩
  have hstart : Server.ofSettings sampleEnvironment (sampleSettings "away/log")
      = .error (.auditLog .notFound) := by
    rw [Gateway.ofSettings_of_loadedFrom (Config.Settings.validate_of_load hload) hparts,
      Gateway.auditSink_eq_error_iff.mpr hshut]
    rfl
  exact ⟨⟨_, judge_eq_ok_iff.mpr ⟨_, parts, hload, hparts, rfl⟩⟩, hload, hstart,
    not_starts_of_logShut hload hshut⟩

end Command

end RegistryGate
