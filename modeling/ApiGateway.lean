import ApiGateway.Body
import ApiGateway.Calendar.Basic
import ApiGateway.Calendar.Reader
import ApiGateway.Call
import ApiGateway.Context.Basic
import ApiGateway.Context.Resolve
import ApiGateway.Context.Variables
import ApiGateway.Decimal.Binary64
import ApiGateway.Decimal.Layout
import ApiGateway.Decimal.Reader
import ApiGateway.Decimal.Shortest
import ApiGateway.Form
import ApiGateway.Gateway.Basic
import ApiGateway.Gateway.Listener
import ApiGateway.Gateway.SnapshotListener
import ApiGateway.Http.Header
import ApiGateway.Http.MediaType
import ApiGateway.Http.Request
import ApiGateway.Http.Response
import ApiGateway.Http.Status
import ApiGateway.Http.Target
import ApiGateway.Http.Token
import ApiGateway.Json.Basic
import ApiGateway.Json.Printer
import ApiGateway.Json.Reader
import ApiGateway.Json.Shape
import ApiGateway.Main
import ApiGateway.Observability
import ApiGateway.OrderedMap
import ApiGateway.Param.Convert
import ApiGateway.Param.Resolve
import ApiGateway.Param.Value
import ApiGateway.Pattern.Basic
import ApiGateway.Pattern.Notation
import ApiGateway.Proofs.Context.Agreement
import ApiGateway.Proofs.Context.Frozen
import ApiGateway.Proofs.DistinctKeys
import ApiGateway.Proofs.Files.Following
import ApiGateway.Proofs.Gateway.Answers
import ApiGateway.Proofs.Gateway.Concurrent
import ApiGateway.Proofs.Gateway.Consistency
import ApiGateway.Proofs.Gateway.Handling
import ApiGateway.Proofs.Gateway.OneSnapshot
import ApiGateway.Proofs.Gateway.RequestId
import ApiGateway.Proofs.Gateway.Restored
import ApiGateway.Proofs.Gateway.Secrecy
import ApiGateway.Proofs.Loading.AllOrNothing
import ApiGateway.Proofs.Loading.InFlight
import ApiGateway.Proofs.Loading.LatePurge
import ApiGateway.Proofs.Loading.Puts
import ApiGateway.Proofs.Loading.Schedules
import ApiGateway.Proofs.Loading.Steps
import ApiGateway.Proofs.Loading.Vanished
import ApiGateway.Proofs.Loading.WakeUps
import ApiGateway.Proofs.Loading.Workers
import ApiGateway.Proofs.Outcomes
import ApiGateway.Proofs.Paths
import ApiGateway.Proofs.Pattern.Language
import ApiGateway.Proofs.Pattern.Written
import ApiGateway.Proofs.RateLimit.Accounting
import ApiGateway.Proofs.RateLimit.Isolation
import ApiGateway.Proofs.Records.Belonging
import ApiGateway.Proofs.Records.Codecs
import ApiGateway.Proofs.Records.Listing
import ApiGateway.Proofs.Records.Mapped
import ApiGateway.Proofs.Records.Reading
import ApiGateway.Proofs.Route.Anonymous
import ApiGateway.Proofs.Route.Building
import ApiGateway.Proofs.Route.Choice
import ApiGateway.Proofs.Route.Origin
import ApiGateway.Proofs.Route.Promises
import ApiGateway.Proofs.Route.Reachable
import ApiGateway.Proofs.Route.References
import ApiGateway.Proofs.Route.Selection
import ApiGateway.Proofs.Route.Tasks
import ApiGateway.Proofs.Signalling
import ApiGateway.Proofs.Snapshots.Custody
import ApiGateway.Proofs.Snapshots.Ids
import ApiGateway.Proofs.Snapshots.Isolation
import ApiGateway.Proofs.Snapshots.Misuse
import ApiGateway.Proofs.Snapshots.Rows
import ApiGateway.Proofs.Template.CachedPatterns
import ApiGateway.Proofs.Template.Instances
import ApiGateway.Proofs.Template.RoutingLanguage
import ApiGateway.RateLimit.Buckets
import ApiGateway.RateLimit.Quota
import ApiGateway.Record.Api
import ApiGateway.Record.Fields
import ApiGateway.Record.Opaque
import ApiGateway.Record.Organization
import ApiGateway.Record.Parameter
import ApiGateway.Record.Product
import ApiGateway.Record.RouteEntry
import ApiGateway.Record.Shape
import ApiGateway.Record.Snapshot
import ApiGateway.Record.Subscription
import ApiGateway.Retry
import ApiGateway.Route.Build
import ApiGateway.Route.Candidate
import ApiGateway.Settings.Address
import ApiGateway.Settings.Basic
import ApiGateway.Settings.Load
import ApiGateway.Settings.Validation
import ApiGateway.Shutdown
import ApiGateway.Store.Basic
import ApiGateway.Store.Collection
import ApiGateway.Store.FileTree
import ApiGateway.Store.Loader
import ApiGateway.Store.Queue
import ApiGateway.Store.Records
import ApiGateway.Store.Snapshots
import ApiGateway.Store.TreePath
import ApiGateway.Template.Pattern
import ApiGateway.Template.Scan
import ApiGateway.Text.Blank
import ApiGateway.Text.Canonical
import ApiGateway.Text.CodeTable
import ApiGateway.Text.Composite
import ApiGateway.Text.Hidden
import ApiGateway.Text.Mark
import ApiGateway.Text.Pieces
import ApiGateway.Text.Quoted
import ApiGateway.Text.Utf8
import ApiGateway.Toml.Document
import ApiGateway.Toml.Reader
import ApiGateway.Toml.Scalar
import ApiGateway.Url.Address
import ApiGateway.Url.Direction
import ApiGateway.Url.Domain
import ApiGateway.Url.Host
import ApiGateway.Url.Joining
import ApiGateway.Url.Mapping
import ApiGateway.Url.Punycode
import ApiGateway.Proofs.Template.Scores
import ApiGateway.Proofs.Route.Literals
import ApiGateway.Proofs.Route.Resolution
import ApiGateway.Proofs.Route.Rewriting
import ApiGateway.Proofs.Route.Templates
import ApiGateway.Proofs.Route.Joining
import ApiGateway.Proofs.Route.Credentials
import ApiGateway.Proofs.Route.Defaults
import ApiGateway.Proofs.Pattern.Captures
import ApiGateway.Proofs.Template.Values
import ApiGateway.Proofs.Template.Filling
import ApiGateway.Proofs.Param.Merging
import ApiGateway.Proofs.Param.Conversion
import ApiGateway.Proofs.Context.Resolving
import ApiGateway.Proofs.RateLimit.Quotas
import ApiGateway.Proofs.RateLimit.Rejection
import ApiGateway.Proofs.Loading.Batches
import ApiGateway.Proofs.Context.History
import ApiGateway.Proofs.Route.Ties
import ApiGateway.Proofs.Retry.Attempts
import ApiGateway.Proofs.Param.Repeats
import ApiGateway.Proofs.Template.Offsets
import ApiGateway.Proofs.Template.Positions
