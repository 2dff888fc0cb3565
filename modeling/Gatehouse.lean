import Gatehouse.Config.Codec
import Gatehouse.Config.Environment
import Gatehouse.Config.Load
import Gatehouse.Config.Profile
import Gatehouse.Config.Record
import Gatehouse.Config.Settings
import Gatehouse.Config.Validation
import Gatehouse.Crypto.Base64
import Gatehouse.Crypto.Der
import Gatehouse.Crypto.Hmac
import Gatehouse.Crypto.Pem
import Gatehouse.Crypto.Rsa
import Gatehouse.Crypto.Sha256
import Gatehouse.Files.FileSystem
import Gatehouse.Files.Tree
import Gatehouse.Http.Headers
import Gatehouse.Http.RequestTarget
import Gatehouse.Http.Response
import Gatehouse.Http.Token
import Gatehouse.Json.Parser
import Gatehouse.Json.Printer
import Gatehouse.Json.Raw
import Gatehouse.Json.Value
import Gatehouse.Lifecycle.Process
import Gatehouse.Lifecycle.Shutdown
import Gatehouse.Lifecycle.Startup
import Gatehouse.Logging.Filter
import Gatehouse.Main
import Gatehouse.Metrics.Counter
import Gatehouse.Metrics.Ledger
import Gatehouse.Net.Listener
import Gatehouse.Net.SocketAddress
import Gatehouse.Net.Tls
import Gatehouse.Number.Binary64
import Gatehouse.Number.Decimal
import Gatehouse.Operator.Arguments
import Gatehouse.Operator.Command
import Gatehouse.Operator.Run
import Gatehouse.Proofs.Config.BlankVariables
import Gatehouse.Proofs.Config.Documents
import Gatehouse.Proofs.Config.Fields
import Gatehouse.Proofs.Config.Layering
import Gatehouse.Proofs.Config.NamedProfile
import Gatehouse.Proofs.Config.Overrides
import Gatehouse.Proofs.Config.Precedence
import Gatehouse.Proofs.Config.Problems
import Gatehouse.Proofs.Config.ProductionSecret
import Gatehouse.Proofs.Config.RoundTrip
import Gatehouse.Proofs.Config.VariableTexts
import Gatehouse.Proofs.Config.Variables
import Gatehouse.Proofs.Crypto.Base64
import Gatehouse.Proofs.Crypto.Rsa
import Gatehouse.Proofs.Http.AbsoluteTarget
import Gatehouse.Proofs.Http.Grouping
import Gatehouse.Proofs.Http.PlainText
import Gatehouse.Proofs.Http.TargetParts
import Gatehouse.Proofs.Json.Canonical
import Gatehouse.Proofs.Json.Progress
import Gatehouse.Proofs.Json.RoundTrip
import Gatehouse.Proofs.Json.Scalars
import Gatehouse.Proofs.Json.Skipping
import Gatehouse.Proofs.Json.Words
import Gatehouse.Proofs.Lifecycle.LateSubscription
import Gatehouse.Proofs.Lifecycle.Startup
import Gatehouse.Proofs.Lifecycle.Waiters
import Gatehouse.Proofs.Proxy.Accounting
import Gatehouse.Proofs.Proxy.BodyLimit
import Gatehouse.Proofs.Proxy.Deadline
import Gatehouse.Proofs.Proxy.NestedErrors
import Gatehouse.Proofs.Proxy.Outcomes
import Gatehouse.Proofs.Proxy.Reference
import Gatehouse.Proofs.Proxy.RequestIds
import Gatehouse.Proofs.Proxy.Routing
import Gatehouse.Proofs.Proxy.Series
import Gatehouse.Proofs.Proxy.UsableUrl
import Gatehouse.Proofs.Proxy.Waiting
import Gatehouse.Proofs.Relay.Answers
import Gatehouse.Proofs.Relay.ForwardedFields
import Gatehouse.Proofs.Relay.Location
import Gatehouse.Proofs.Relay.RelocatedUrl
import Gatehouse.Proofs.Relay.RepeatedRelocation
import Gatehouse.Proofs.Relay.SelfRedirect
import Gatehouse.Proofs.Route.Acceptance
import Gatehouse.Proofs.Route.CallUrl
import Gatehouse.Proofs.Route.NormalForm
import Gatehouse.Proofs.Route.Precedence
import Gatehouse.Proofs.Route.Segments
import Gatehouse.Proofs.Route.Services
import Gatehouse.Proofs.Sequencing
import Gatehouse.Proofs.Text.Blank
import Gatehouse.Proofs.Text.Encoding
import Gatehouse.Proofs.Text.LetterCase
import Gatehouse.Proofs.Token.Acceptance
import Gatehouse.Proofs.Token.Allowlist
import Gatehouse.Proofs.Token.Bearer
import Gatehouse.Proofs.Token.Claims
import Gatehouse.Proofs.Token.Codec
import Gatehouse.Proofs.Token.Guarding
import Gatehouse.Proofs.Token.Headers
import Gatehouse.Proofs.Token.Issuance
import Gatehouse.Proofs.Token.KeySelection
import Gatehouse.Proofs.Token.Keys
import Gatehouse.Proofs.Token.Members
import Gatehouse.Proofs.Token.Preservation
import Gatehouse.Proofs.Token.RoundTrip
import Gatehouse.Proofs.Token.Secrecy
import Gatehouse.Proofs.Token.Unsigned
import Gatehouse.Proofs.Toml.DistinctKeys
import Gatehouse.Proofs.Toml.Entries
import Gatehouse.Proofs.Toml.Merging
import Gatehouse.Proofs.Unicode.Composition
import Gatehouse.Proofs.Url.Authority
import Gatehouse.Proofs.Url.HostName
import Gatehouse.Proofs.Url.HostPort
import Gatehouse.Proofs.Url.Layout
import Gatehouse.Proofs.Url.PlainDomain
import Gatehouse.Proofs.Url.Printed
import Gatehouse.Proofs.Url.Reading
import Gatehouse.Proxy.Body
import Gatehouse.Proxy.Clock
import Gatehouse.Proxy.Cycle
import Gatehouse.Proxy.Exchange
import Gatehouse.Proxy.Rejection
import Gatehouse.Proxy.Router
import Gatehouse.Proxy.TransportError
import Gatehouse.Relay.Fields
import Gatehouse.Relay.Location
import Gatehouse.Relay.Origin
import Gatehouse.Route.PathPrefix
import Gatehouse.Route.Services
import Gatehouse.Route.Table
import Gatehouse.Route.Target
import Gatehouse.Text.Blank
import Gatehouse.Text.Quoted
import Gatehouse.Text.Ranges
import Gatehouse.Text.Unprintable
import Gatehouse.Text.Utf8
import Gatehouse.Token.Algorithm
import Gatehouse.Token.Claim
import Gatehouse.Token.Error
import Gatehouse.Token.Guard
import Gatehouse.Token.Header
import Gatehouse.Token.Issuer
import Gatehouse.Token.KeySet
import Gatehouse.Token.Payload
import Gatehouse.Token.Verifier
import Gatehouse.Toml.Document
import Gatehouse.Toml.Scalar
import Gatehouse.Toml.Value
import Gatehouse.Unicode.Composition
import Gatehouse.Unicode.Direction
import Gatehouse.Unicode.Joining
import Gatehouse.Unicode.Mapping
import Gatehouse.Unicode.Marks
import Gatehouse.Url.Address
import Gatehouse.Url.Domain
import Gatehouse.Url.Host
import Gatehouse.Url.Parser
import Gatehouse.Url.Percent
import Gatehouse.Url.Punycode
