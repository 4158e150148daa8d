/-
  The texts of problem documents.

  They stay generic on purpose: what a client reads names the kind of problem and, where the request
  itself is at fault, the parameter, but never a scope.  Both languages have the same keys.
-/
import RegistryGate.Message.Catalog

namespace RegistryGate.MessageCatalog

/-- The Dutch texts. -/
def clientDutch : List (String × String) :=
  [("problem.not_authenticated.title", "Niet ingelogd of ongeldig toegangstoken."),
   ("problem.not_authenticated.detail",
    "Stuur een geldig bearer token mee in de Authorization header."),
   ("problem.permission_denied.title", "Je hebt geen toegang tot deze functionaliteit."),
   ("problem.permission_denied.detail",
    "Je hebt onvoldoende rechten voor deze zoekvraag of deze gegevens."),
   ("problem.params_validation.title", "Een of meerdere parameters zijn niet correct."),
   ("problem.params_validation.unknown", "Onbekende parameter: \x7bparameter\x7d."),
   ("problem.params_validation.unsupported",
    "Ongeldige waarde voor \x7bparameter\x7d: \x7bvalues\x7d."),
   ("problem.params_validation.missing", "Verplichte parameter ontbreekt: \x7bparameter\x7d."),
   ("problem.params_validation.correlation", "Ongeldige X-Correlation-ID header."),
   ("problem.params_validation.remote", "De bron heeft het verzoek afgewezen."),
   ("problem.parse_error.title", "Het verzoek kon niet worden gelezen."),
   ("problem.parse_error.detail", "De body van het verzoek moet een JSON-object zijn."),
   ("problem.remote_denied.detail", "\x7bstatus\x7d from remote: \x7btitle\x7d"),
   ("problem.not_found.title", "Niet gevonden."),
   ("problem.not_found.detail", "De opgevraagde gegevens zijn niet gevonden."),
   ("problem.upstream_error.title", "Fout bij het raadplegen van de bron."),
   ("problem.upstream_error.detail", "De bron gaf een onverwacht antwoord."),
   ("problem.upstream_timeout.title", "De bron reageerde niet op tijd."),
   ("problem.upstream_timeout.detail", "Probeer het later opnieuw."),
   ("problem.internal.title", "Interne fout."),
   ("problem.internal.detail", "Het verzoek kon niet worden verwerkt.")]

/-- The English texts. -/
def clientEnglish : List (String × String) :=
  [("problem.not_authenticated.title", "Not authenticated or invalid access token."),
   ("problem.not_authenticated.detail", "Send a valid bearer token in the Authorization header."),
   ("problem.permission_denied.title", "You do not have permission to perform this action."),
   ("problem.permission_denied.detail",
    "You lack the permissions for this query or these fields."),
   ("problem.params_validation.title", "One or more parameters are invalid."),
   ("problem.params_validation.unknown", "Unknown parameter: \x7bparameter\x7d."),
   ("problem.params_validation.unsupported",
    "Unsupported value for \x7bparameter\x7d: \x7bvalues\x7d."),
   ("problem.params_validation.missing", "Missing required parameter: \x7bparameter\x7d."),
   ("problem.params_validation.correlation", "Invalid X-Correlation-ID header."),
   ("problem.params_validation.remote", "The upstream registry rejected the request."),
   ("problem.parse_error.title", "Malformed request."),
   ("problem.parse_error.detail", "The request body must be a JSON object."),
   ("problem.remote_denied.detail", "\x7bstatus\x7d from remote: \x7btitle\x7d"),
   ("problem.not_found.title", "Not found."),
   ("problem.not_found.detail", "The requested data was not found."),
   ("problem.upstream_error.title", "Error while contacting the upstream registry."),
   ("problem.upstream_error.detail", "The upstream registry returned an unexpected answer."),
   ("problem.upstream_timeout.title", "The upstream registry did not respond in time."),
   ("problem.upstream_timeout.detail", "Please try again later."),
   ("problem.internal.title", "Internal server error."),
   ("problem.internal.detail", "The request could not be processed.")]

/-- The texts for clients; Dutch stands in for a missing text. -/
def client : MessageCatalog where
  fallback := .nl
  entries
    | .nl => clientDutch
    | .en => clientEnglish

end RegistryGate.MessageCatalog
