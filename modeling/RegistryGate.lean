import RegistryGate.Json.Reader
import RegistryGate.Digest.Rsa
import RegistryGate.Endpoint.Services
import RegistryGate.Proxy.Pipeline
import RegistryGate.Message.Operator
import RegistryGate.Http.Correlation
import RegistryGate.Http.Problem
import RegistryGate.Auth.Verifier
import RegistryGate.Storage.Tree
import RegistryGate.Net.SocketAddress
import RegistryGate.Net.Url
import RegistryGate.Toml.Reader
import RegistryGate.Config.Error
import RegistryGate.Config.Settings
import RegistryGate.Config.Catalogs
import RegistryGate.Config.Load
import RegistryGate.Config.Verification
import RegistryGate.Text.FormEncoded
import RegistryGate.Net.Pem
import RegistryGate.Gateway.Start
import RegistryGate.Command.Run
import RegistryGate.Main
import RegistryGate.Proofs.Proxy.FieldAuthorization
import RegistryGate.Proofs.Proxy.RawIdentifiers
import RegistryGate.Proofs.Services.Municipality
import RegistryGate.Proofs.Text.Base64Url
import RegistryGate.Proofs.Json.Induction
import RegistryGate.Proofs.Document.Records
import RegistryGate.Proofs.Document.Tokens
import RegistryGate.Proofs.Proxy.RecordWise
import RegistryGate.Proofs.Proxy.AuditTrail
import RegistryGate.Proofs.Json.Position
import RegistryGate.Proofs.Document.Completion
import RegistryGate.Proofs.Field.Defaults
import RegistryGate.Proofs.Services.FilledIn
import RegistryGate.Proofs.Proxy.InsertedIdentifiers
import RegistryGate.Proofs.Document.Links
import RegistryGate.Proofs.Document.Provenance
import RegistryGate.Proofs.Proxy.ShownIdentifiers
import RegistryGate.Proofs.Proxy.AuditRecords
import RegistryGate.Proofs.Policy.Acceptance
import RegistryGate.Proofs.Proxy.SentAsJudged
import RegistryGate.Proofs.Services.Queries
import RegistryGate.Proofs.Services.SentAuthorized
import RegistryGate.Proofs.Services.ValidationErrors
import RegistryGate.Proofs.Services.DatasetRequired
import RegistryGate.Proofs.Auth.AcceptedTokens
import RegistryGate.Proofs.Gateway.Refusals
import RegistryGate.Proofs.Gateway.CorrelationHeader
import RegistryGate.Proofs.Gateway.Traceability
import RegistryGate.Proofs.Register.TokenCache
import RegistryGate.Proofs.Field.DefaultCoverage
import RegistryGate.Proofs.Policy.Verdict
import RegistryGate.Proofs.Document.Completeness
import RegistryGate.Proofs.Document.Reversal
import RegistryGate.Proofs.Token.DigitRuns
import RegistryGate.Proofs.Proxy.RestoredParameters
import RegistryGate.Proofs.Proxy.RawOrToken
import RegistryGate.Proofs.Token.KeyRotation
import RegistryGate.Proofs.Json.Order
import RegistryGate.Proofs.Document.Comparison
import RegistryGate.Proofs.Document.Stripping
import RegistryGate.Proofs.Document.Redirection
import RegistryGate.Proofs.Proxy.AskedFields
import RegistryGate.Proofs.Proxy.RetrievedIdentifiers
import RegistryGate.Proofs.Field.Grouping
import RegistryGate.Proofs.Field.KnownPaths
import RegistryGate.Proofs.Field.Lists
import RegistryGate.Proofs.Field.ListTexts
import RegistryGate.Proofs.Config.CatalogLoading
import RegistryGate.Proofs.Text.Trimming
import RegistryGate.Proofs.Config.KeyTexts
import RegistryGate.Proofs.Endpoint.Augmentation
import RegistryGate.Proofs.Json.SingleLine
import RegistryGate.Proofs.Gateway.AuditLines
import RegistryGate.Proofs.Command.Validation
import RegistryGate.Proofs.Policy.Declarations
import RegistryGate.Proofs.Proxy.RecordedRequirements
import RegistryGate.Proofs.Http.RequestNumbers
import RegistryGate.Proofs.Gateway.AuditSinks
