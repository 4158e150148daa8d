/-
  The texts of the command line.

  Both languages have the same keys, in the same order.
-/
import RegistryGate.Message.Catalog

namespace RegistryGate.MessageCatalog

/-- The English texts. -/
def operatorEnglish : List (String × String) :=
  [("main.version", "brp-gate \x7bversion\x7d"),
   ("output.stream.stdout", "stdout"),
   ("output.stream.stderr", "stderr"),
   ("output.stream.unknown", "output"),
   ("output.write_failed", "Failed to write to \x7bstream\x7d: \x7berror\x7d"),
   ("serve.config.load_failed", "Failed to load config: \x7berror\x7d"),
   ("serve.logging_failed", "Failed to initialize logging: \x7berror\x7d"),
   ("serve.init_failed", "Failed to initialize gateway: \x7berror\x7d"),
   ("serve.failed", "Gateway stopped with an error: \x7berror\x7d"),
   ("config.load_failed", "Failed to load config: \x7berror\x7d"),
   ("config.catalog_failed", "Failed to load field catalog: \x7berror\x7d"),
   ("config.keys_failed", "Failed to load tokenization keys: \x7berror\x7d"),
   ("config.auth_failed", "Failed to load token verification keys: \x7berror\x7d"),
   ("config.upstream_failed", "Failed to build upstream client: \x7berror\x7d"),
   ("config.validate.ok", "Config valid."),
   ("config.validate.bind", "- Listen address: \x7baddr\x7d"),
   ("config.validate.endpoint",
    "- Endpoint \x7bpath\x7d -> \x7bupstream\x7d (\x7bvariants\x7d request types)"),
   ("config.validate.keys", "- Tokenization keys: \x7bcount\x7d"),
   ("config.validate.audit_disabled", "- Audit logging is disabled"),
   ("keys.count_invalid", "count must be between 1 and \x7bmax\x7d."),
   ("i18n.lang.invalid_env",
    "Invalid value for \x7benv\x7d: \x7bvalue\x7d. Expected 'en' or 'nl'.")]

/-- The Dutch texts. -/
def operatorDutch : List (String × String) :=
  [("main.version", "brp-gate \x7bversion\x7d"),
   ("output.stream.stdout", "stdout"),
   ("output.stream.stderr", "stderr"),
   ("output.stream.unknown", "uitvoer"),
   ("output.write_failed", "Schrijven naar \x7bstream\x7d mislukt: \x7berror\x7d"),
   ("serve.config.load_failed", "Configuratie laden mislukt: \x7berror\x7d"),
   ("serve.logging_failed", "Logging initialiseren mislukt: \x7berror\x7d"),
   ("serve.init_failed", "Gateway initialiseren mislukt: \x7berror\x7d"),
   ("serve.failed", "Gateway gestopt met een fout: \x7berror\x7d"),
   ("config.load_failed", "Configuratie laden mislukt: \x7berror\x7d"),
   ("config.catalog_failed", "Veldencatalogus laden mislukt: \x7berror\x7d"),
   ("config.keys_failed", "Tokenisatiesleutels laden mislukt: \x7berror\x7d"),
   ("config.auth_failed", "Sleutels voor tokenverificatie laden mislukt: \x7berror\x7d"),
   ("config.upstream_failed", "Upstream-client opbouwen mislukt: \x7berror\x7d"),
   ("config.validate.ok", "Configuratie geldig."),
   ("config.validate.bind", "- Luisteradres: \x7baddr\x7d"),
   ("config.validate.endpoint",
    "- Endpoint \x7bpath\x7d -> \x7bupstream\x7d (\x7bvariants\x7d vraagtypen)"),
   ("config.validate.keys", "- Tokenisatiesleutels: \x7bcount\x7d"),
   ("config.validate.audit_disabled", "- Auditlogging staat uit"),
   ("keys.count_invalid", "count moet tussen 1 en \x7bmax\x7d liggen."),
   ("i18n.lang.invalid_env",
    "Ongeldige waarde voor \x7benv\x7d: \x7bvalue\x7d. Verwacht 'en' of 'nl'.")]

/-- The texts for operators; English stands in for a missing text. -/
def operator : MessageCatalog where
  fallback := .en
  entries
    | .nl => operatorDutch
    | .en => operatorEnglish

end RegistryGate.MessageCatalog
