import ClusterConsole.Main
import ClusterConsole.Network.Script
import ClusterConsole.Objects.Session
import ClusterConsole.Proofs.Json.Numeral
import ClusterConsole.Proofs.Json.RoundTrip
import ClusterConsole.Proofs.Json.Decoder
import ClusterConsole.Proofs.Http.Headers
import ClusterConsole.Proofs.Http.Lookup
import ClusterConsole.Proofs.Time.Calendar
import ClusterConsole.Proofs.Time.Millis
import ClusterConsole.Proofs.Time.Rfc3339
import ClusterConsole.Proofs.Filter.Codec
import ClusterConsole.Proofs.Filter.Argument
import ClusterConsole.Proofs.Cluster.Codec
import ClusterConsole.Proofs.Backend.Envelope
import ClusterConsole.Proofs.Payload.Priority
import ClusterConsole.Proofs.Payload.Properties
import ClusterConsole.Proofs.Payload.Identity
import ClusterConsole.Proofs.Payload.Timestamps
import ClusterConsole.Proofs.Payload.GraphAnswer
import ClusterConsole.Proofs.Page.Window
import ClusterConsole.Proofs.Page.Partition
import ClusterConsole.Proofs.Page.Bounds
import ClusterConsole.Proofs.Store.Window
import ClusterConsole.Proofs.Store.Tickets
import ClusterConsole.Proofs.Store.Search
import ClusterConsole.Proofs.Engine.Operations
import ClusterConsole.Proofs.Objects.Payload
import ClusterConsole.Proofs.Objects.Query
import ClusterConsole.Proofs.Catalog.Failures
import ClusterConsole.Proofs.Catalog.Entries
import ClusterConsole.Proofs.Catalog.Lookup
import ClusterConsole.Proofs.Catalog.PropertyNames
import ClusterConsole.Proofs.Traffic.Runs
import ClusterConsole.Proofs.Traffic.Supersession
import ClusterConsole.Proofs.Traffic.Coherence
import ClusterConsole.Proofs.Traffic.Continuation
import ClusterConsole.Proofs.Traffic.Sessions
import ClusterConsole.Proofs.Traffic.View
import ClusterConsole.Proofs.Traffic.Failures
import ClusterConsole.Proofs.Traffic.Refresh
import ClusterConsole.Proofs.Traffic.Requests
import ClusterConsole.Proofs.Traffic.Window
import ClusterConsole.Proofs.Traffic.Rejections
import ClusterConsole.Proofs.Traffic.Options
import ClusterConsole.Proofs.Listing.Collection
import ClusterConsole.Proofs.Listing.Completeness
import ClusterConsole.Proofs.Transport.Codec
import ClusterConsole.Proofs.Objects.Codec
import ClusterConsole.Proofs.Objects.ListKeys
import ClusterConsole.Proofs.Transport.Attempts
import ClusterConsole.Proofs.Transport.Agreement
import ClusterConsole.Proofs.Transport.Duplicates
import ClusterConsole.Proofs.Transport.Accounting
import ClusterConsole.Proofs.Text.Utf8
import ClusterConsole.Proofs.Text.Trim
import ClusterConsole.Proofs.Text.Integer
import ClusterConsole.Proofs.Text.AsciiCase
import ClusterConsole.Proofs.Text.Lowercase
import ClusterConsole.Proofs.Url.Percent
import ClusterConsole.Proofs.Url.Path
import ClusterConsole.Proofs.Url.Text
import ClusterConsole.Proofs.Url.Parser
import ClusterConsole.Proofs.Backend.Endpoints
import ClusterConsole.Proofs.Backend.Lookup
import ClusterConsole.Proofs.Backend.BasePath
import ClusterConsole.Proofs.Console.Transcript
import ClusterConsole.Proofs.Console.Course
import ClusterConsole.Proofs.Console.Pages
