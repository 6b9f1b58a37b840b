import MarketGateway.Book.Event
import MarketGateway.Book.Ladder
import MarketGateway.Book.Replica
import MarketGateway.Book.Report
import MarketGateway.Book.Synchronizer
import MarketGateway.Book.View
import MarketGateway.Client.Access
import MarketGateway.Client.Config
import MarketGateway.Client.Notice
import MarketGateway.Client.Request
import MarketGateway.Client.Session
import MarketGateway.Connection
import MarketGateway.Connection.Config
import MarketGateway.Connection.Error
import MarketGateway.Connection.Frame
import MarketGateway.Connection.Played
import MarketGateway.Connection.Report
import MarketGateway.Depth.Config
import MarketGateway.Depth.Feed
import MarketGateway.Depth.Played
import MarketGateway.Depth.Session
import MarketGateway.Digest.Hmac
import MarketGateway.Digest.Sha256
import MarketGateway.Duration
import MarketGateway.Failure
import MarketGateway.Failure.Report
import MarketGateway.Feed.Error
import MarketGateway.Feed.Input
import MarketGateway.Feed.Played
import MarketGateway.Feed.Report
import MarketGateway.Feed.Sessions
import MarketGateway.Feed.State
import MarketGateway.Feed.Supervisor
import MarketGateway.Health
import MarketGateway.Health.Endpoint
import MarketGateway.Heartbeat
import MarketGateway.Hub
import MarketGateway.Hub.Config
import MarketGateway.Hub.Played
import MarketGateway.Hub.Report
import MarketGateway.Hub.Rooms
import MarketGateway.Json
import MarketGateway.Json.DecimalForm
import MarketGateway.Json.Form
import MarketGateway.Json.Parser
import MarketGateway.Json.Printer
import MarketGateway.Json.Reader
import MarketGateway.Json.Record
import MarketGateway.Json.Variant
import MarketGateway.Market.Decode
import MarketGateway.Market.MarkPrice
import MarketGateway.Market.Message
import MarketGateway.Market.PriceFeed
import MarketGateway.Market.Report
import MarketGateway.Metrics
import MarketGateway.Number.Binary64
import MarketGateway.Number.Binary64.Literal
import MarketGateway.Number.Binary64.Shortest
import MarketGateway.Number.Decimal
import MarketGateway.Number.Decimal.Literal
import MarketGateway.PriceCache
import MarketGateway.PriceCache.Config
import MarketGateway.PriceCache.Played
import MarketGateway.Queue
import MarketGateway.Reconnect
import MarketGateway.Rest.Client
import MarketGateway.Rest.Config
import MarketGateway.Rest.Error
import MarketGateway.Rest.Position
import MarketGateway.Rest.Response
import MarketGateway.Room
import MarketGateway.Room.Key
import MarketGateway.Rpc.Client
import MarketGateway.Rpc.Config
import MarketGateway.Rpc.Error
import MarketGateway.Rpc.Frame
import MarketGateway.Rpc.NamedCallers
import MarketGateway.Rpc.Played
import MarketGateway.Rpc.Report
import MarketGateway.Rpc.Session
import MarketGateway.Server
import MarketGateway.Server.Handshake
import MarketGateway.Server.Played
import MarketGateway.Settings
import MarketGateway.Settings.Report
import MarketGateway.Settings.Variables
import MarketGateway.Telemetry
import MarketGateway.Text.Blank
import MarketGateway.Text.FormEncoding
import MarketGateway.Text.Letters
import MarketGateway.Text.Numeral
import MarketGateway.Text.Printable
import MarketGateway.Text.Quoted
import MarketGateway.Text.Utf8
import MarketGateway.Timers
import MarketGateway.Trade.Command
import MarketGateway.Trade.Executor
import MarketGateway.Trade.Params
import MarketGateway.Trade.Played
import MarketGateway.Trade.Report
import MarketGateway.Trade.Request
import MarketGateway.Trade.Signing
import MarketGateway.Proofs.Lists
import MarketGateway.Proofs.Decimal.Value
import MarketGateway.Proofs.Decimal.Numeral
import MarketGateway.Proofs.Book.Ladder
import MarketGateway.Proofs.Book.History
import MarketGateway.Proofs.Book.Replica
import MarketGateway.Proofs.Book.Synchronizer
import MarketGateway.Proofs.Book.Fidelity
import MarketGateway.Proofs.Rpc.Session
import MarketGateway.Proofs.Rpc.Callers
import MarketGateway.Proofs.Rpc.Tickets
import MarketGateway.Proofs.Rpc.Client
import MarketGateway.Proofs.Rpc.Request
import MarketGateway.Proofs.Trade.Fallback
import MarketGateway.Proofs.Book.Truncated
import MarketGateway.Proofs.Depth.Feed
import MarketGateway.Proofs.Book.Order
import MarketGateway.Proofs.Book.Stream
import MarketGateway.Proofs.Book.Replay
import MarketGateway.Proofs.Depth.Call
import MarketGateway.Proofs.Depth.Course
import MarketGateway.Proofs.Depth.Publication
import MarketGateway.Proofs.Hub.Rooms
import MarketGateway.Proofs.Hub.Steps
import MarketGateway.Proofs.Hub.Traffic
import MarketGateway.Proofs.Hub.Operations
import MarketGateway.Proofs.Hub.Moves
import MarketGateway.Proofs.Hub.Grace
import MarketGateway.Proofs.Hub.Vacancy
import MarketGateway.Proofs.Hub.Registry
import MarketGateway.Proofs.Hub.Admission
import MarketGateway.Proofs.Feed.Supervisor
import MarketGateway.Proofs.Hub.Feeds
import MarketGateway.Proofs.Hub.Supply
import MarketGateway.Proofs.Hub.OneFeed
import MarketGateway.Proofs.PriceCache.Subscriptions
import MarketGateway.Proofs.PriceCache.Tracking
import MarketGateway.Proofs.Rpc.Reconnection
import MarketGateway.Proofs.Book.Phases
import MarketGateway.Proofs.Trade.Params
import MarketGateway.Proofs.Trade.Signature
import MarketGateway.Proofs.Room.Delivery
import MarketGateway.Proofs.Room.Audience
import MarketGateway.Proofs.Room.Receipts
import MarketGateway.Proofs.Book.Refusals
import MarketGateway.Proofs.Book.Attempts
import MarketGateway.Proofs.Rpc.Background
import MarketGateway.Proofs.Rpc.OneReconnection
import MarketGateway.Proofs.PriceCache.Events
import MarketGateway.Proofs.PriceCache.Provenance
import MarketGateway.Proofs.Rest.Retries
import MarketGateway.Proofs.Connection.Moves
import MarketGateway.Proofs.Connection.Delivery
import MarketGateway.Proofs.Client.Guest
import MarketGateway.Proofs.Hub.Seats
import MarketGateway.Proofs.Hub.Lobby
import MarketGateway.Proofs.Hub.Callers
import MarketGateway.Proofs.Hub.Agreement
import MarketGateway.Proofs.Decimal.Text
import MarketGateway.Proofs.Json.Scalars
import MarketGateway.Proofs.Json.Values
import MarketGateway.Proofs.Json.Forms
import MarketGateway.Proofs.Json.Records
import MarketGateway.Proofs.Json.RoundTrip
import MarketGateway.Proofs.Wire.Payloads
import MarketGateway.Proofs.Wire.Frames
import MarketGateway.Proofs.Wire.Commands
import MarketGateway.Proofs.Wire.Faithful
import MarketGateway.Proofs.Book.Continuity
import MarketGateway.Proofs.Book.LastEntry
import MarketGateway.Proofs.Book.Best
import MarketGateway.Proofs.Text.Utf8
import MarketGateway.Proofs.Text.FormEncoding
import MarketGateway.Proofs.Decimal.Spelling
import MarketGateway.Proofs.Trade.FinalTexts
import MarketGateway.Proofs.Trade.CommandParams
import MarketGateway.Proofs.Trade.Transports
import MarketGateway.Proofs.PriceCache.Waiting
import MarketGateway.Proofs.Rpc.Sending
import MarketGateway.Proofs.Feed.Restarts
import MarketGateway.Proofs.Depth.Bootstrap
import MarketGateway.Proofs.Feed.Immaterial
import MarketGateway.Proofs.Market.Envelope
import MarketGateway.Proofs.Room.Naming
import MarketGateway.Proofs.Client.Access
import MarketGateway.Proofs.Feed.Interleaving
import MarketGateway.Proofs.Connection.Silence
import MarketGateway.Proofs.Binary64.Rounding
import MarketGateway.Proofs.Feed.Delays
import MarketGateway.Proofs.Settings.Serviceable
import MarketGateway.Proofs.Rpc.Gauge
import MarketGateway.Proofs.Rpc.Runs
import MarketGateway.Proofs.Rpc.Traffic
