import AuditTrail.Category
import AuditTrail.Cluster
import AuditTrail.Config.Basic
import AuditTrail.Config.Reader
import AuditTrail.Context
import AuditTrail.Decimal.Reading
import AuditTrail.Decimal.Shortest
import AuditTrail.Dispatch.Basic
import AuditTrail.Dispatch.Config
import AuditTrail.Dispatch.Drain
import AuditTrail.Dispatch.Queue
import AuditTrail.Dispatch.Threads
import AuditTrail.Document
import AuditTrail.Entries
import AuditTrail.Error
import AuditTrail.Filter
import AuditTrail.Http.Exchange
import AuditTrail.IndexTemplate
import AuditTrail.Json.Number
import AuditTrail.Json.Printer
import AuditTrail.Json.Token
import AuditTrail.Json.Tree
import AuditTrail.Json.Value
import AuditTrail.Log.Basic
import AuditTrail.Log.Records
import AuditTrail.Log.Reentry
import AuditTrail.Log.Report
import AuditTrail.Pattern.Basic
import AuditTrail.Pattern.Glob
import AuditTrail.Pattern.Regex.Basic
import AuditTrail.Pattern.Regex.Matching
import AuditTrail.Pattern.Regex.Reader
import AuditTrail.Proofs.Category
import AuditTrail.Proofs.Dispatch.Accounting
import AuditTrail.Proofs.Dispatch.Closing
import AuditTrail.Proofs.Dispatch.Correspondence
import AuditTrail.Proofs.Dispatch.NoLoss
import AuditTrail.Proofs.Dispatch.Operations
import AuditTrail.Proofs.Dispatch.Sequential
import AuditTrail.Proofs.Filter.Rules
import AuditTrail.Proofs.Log.Handed
import AuditTrail.Proofs.Log.IgnoredRequests
import AuditTrail.Proofs.Log.ProtectedPaths
import AuditTrail.Proofs.Log.Runs
import AuditTrail.Proofs.Log.SelfAudit
import AuditTrail.Proofs.Log.Synchronous
import AuditTrail.Proofs.Pattern.Glob
import AuditTrail.Proofs.Record.Setters
import AuditTrail.Proofs.Resolver.Batches
import AuditTrail.Proofs.Resolver.Fanout
import AuditTrail.Proofs.Resolver.Payload
import AuditTrail.Proofs.Resolver.SourcePolicy
import AuditTrail.Proofs.Text.Blank
import AuditTrail.Record.Basic
import AuditTrail.Record.Field
import AuditTrail.Record.Origin
import AuditTrail.Record.Rendering
import AuditTrail.Remote.Client
import AuditTrail.Remote.Error
import AuditTrail.Remote.Format
import AuditTrail.Remote.Registry
import AuditTrail.Remote.Store
import AuditTrail.Remote.Webhook
import AuditTrail.Request.Basic
import AuditTrail.Request.Extraction
import AuditTrail.Request.Operation
import AuditTrail.Resolver
import AuditTrail.Sink.Basic
import AuditTrail.Sink.Console
import AuditTrail.Sink.Registry
import AuditTrail.Sink.Settings
import AuditTrail.Sink.Storage
import AuditTrail.Source
import AuditTrail.Text.Base64
import AuditTrail.Text.Blank
import AuditTrail.Text.CharClass
import AuditTrail.Text.CharClass.Derived
import AuditTrail.Text.CharClass.Named
import AuditTrail.Text.CodeGroups
import AuditTrail.Text.Normal
import AuditTrail.Text.Property.Age
import AuditTrail.Text.Property.Binary
import AuditTrail.Text.Property.CaseVariants
import AuditTrail.Text.Property.Category
import AuditTrail.Text.Property.Combining
import AuditTrail.Text.Property.Direction
import AuditTrail.Text.Property.Script
import AuditTrail.Text.Quoted
import AuditTrail.Text.Ranges
import AuditTrail.Text.Split
import AuditTrail.Text.Utf8
import AuditTrail.Time
import AuditTrail.Url.Address
import AuditTrail.Url.Basic
import AuditTrail.Url.Domain
import AuditTrail.Url.Domain.Label
import AuditTrail.Url.Domain.Punycode
import AuditTrail.Url.Domain.Table
import AuditTrail.Url.Error
import AuditTrail.Url.Form
import AuditTrail.Url.Percent
import AuditTrail.Url.Reader
import AuditTrail.Proofs.Log.Building
import AuditTrail.Dispatch.Direct
import AuditTrail.Dispatch.Machine
import AuditTrail.Proofs.Dispatch.OneWorker
import AuditTrail.Proofs.Dispatch.Calls
import AuditTrail.Proofs.Dispatch.Lifecycle
import AuditTrail.Proofs.Dispatch.LateStores
import AuditTrail.Proofs.Dispatch.DirectSequential
import AuditTrail.Dispatch.Watched
import AuditTrail.Proofs.Dispatch.Readings
import AuditTrail.Proofs.Entries
import AuditTrail.Proofs.Json.Documents
import AuditTrail.Proofs.Json.Lexing
import AuditTrail.Proofs.Json.Numerals
import AuditTrail.Proofs.Json.RoundTrip
import AuditTrail.Proofs.Json.SingleLine
import AuditTrail.Proofs.Json.Values
import AuditTrail.Proofs.Log.TextLines
import AuditTrail.Proofs.Record.Built
import AuditTrail.Proofs.Record.JsonText
import AuditTrail.Proofs.Record.TextLines
import AuditTrail.Proofs.Remote.Parameters
import AuditTrail.Proofs.Text.Split
import AuditTrail.Proofs.Text.Utf8
import AuditTrail.Proofs.Url.FormCoding
import AuditTrail.Proofs.Log.InternalHeaders
import AuditTrail.Proofs.Record.WellFormed
import AuditTrail.Proofs.Log.WellFormed
import AuditTrail.Proofs.Config.RoundTrip
import AuditTrail.Proofs.Log.Inert
import AuditTrail.Proofs.Dispatch.Backlog
import AuditTrail.Proofs.Time
import AuditTrail.Proofs.IndexTemplate.Blocks
import AuditTrail.Proofs.IndexTemplate.Grammar
import AuditTrail.Proofs.Pattern.Regex.Matching
import AuditTrail.Proofs.Pattern.Regex.Progress
import AuditTrail.Proofs.Pattern.Regex.Continuation.Basic
import AuditTrail.Proofs.Pattern.Regex.Continuation.Classes
import AuditTrail.Proofs.Pattern.Regex.Continuation.Groups
import AuditTrail.Proofs.Pattern.Regex.Anchors
import AuditTrail.Proofs.Pattern.Slashed
import AuditTrail.Proofs.Cluster
import AuditTrail.Proofs.IndexTemplate.Rotation
import AuditTrail.Proofs.Json.Grammar
import AuditTrail.Proofs.Json.Limits
import AuditTrail.Proofs.Context
import AuditTrail.Proofs.Json.Integers
import AuditTrail.Proofs.Source
import AuditTrail.Proofs.Source.Combined
import AuditTrail.Proofs.Url.Changes
import AuditTrail.Proofs.Remote.Targets
import AuditTrail.Proofs.Url.Segments
import AuditTrail.Proofs.Remote.DocumentUrls
import AuditTrail.Proofs.Json.Paths
import AuditTrail.Proofs.Sink.Layouts
import AuditTrail.Proofs.Sink.Registrations
import AuditTrail.Proofs.Record.LastWrites
import AuditTrail.Proofs.Text.Sections
import AuditTrail.Proofs.Sink.Stream
import AuditTrail.Proofs.Request.Extractors
