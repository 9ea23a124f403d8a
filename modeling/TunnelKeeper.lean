import TunnelKeeper.Backend.Client
import TunnelKeeper.Backend.Error
import TunnelKeeper.Backend.Message
import TunnelKeeper.Config.Basic
import TunnelKeeper.Config.Error
import TunnelKeeper.Config.Files
import TunnelKeeper.Config.Location
import TunnelKeeper.Config.Store
import TunnelKeeper.Coordinator.Background
import TunnelKeeper.Coordinator.Calls
import TunnelKeeper.Coordinator.Check
import TunnelKeeper.Coordinator.Connect
import TunnelKeeper.Coordinator.Event
import TunnelKeeper.Coordinator.Load
import TunnelKeeper.Coordinator.Move
import TunnelKeeper.Coordinator.Point
import TunnelKeeper.Coordinator.Run
import TunnelKeeper.Coordinator.Script
import TunnelKeeper.Coordinator.Setup
import TunnelKeeper.Coordinator.Teardown
import TunnelKeeper.Coordinator.Work
import TunnelKeeper.Coordinator.World
import TunnelKeeper.Decimal.Notation
import TunnelKeeper.Decimal.Shortest
import TunnelKeeper.Http.Network
import TunnelKeeper.Http.Host
import TunnelKeeper.Http.Percent
import TunnelKeeper.Http.Url
import TunnelKeeper.Json.Cursor
import TunnelKeeper.Json.Decode
import TunnelKeeper.Json.Number
import TunnelKeeper.Json.Skip
import TunnelKeeper.Json.Text
import TunnelKeeper.Json.Writer
import TunnelKeeper.Logging.Filter
import TunnelKeeper.Proofs.Attempts
import TunnelKeeper.Proofs.BackendState
import TunnelKeeper.Proofs.Background
import TunnelKeeper.Proofs.Deed
import TunnelKeeper.Proofs.Footprints
import TunnelKeeper.Proofs.Generations
import TunnelKeeper.Proofs.Loads
import TunnelKeeper.Proofs.Outline
import TunnelKeeper.Proofs.Program
import TunnelKeeper.Proofs.Runs
import TunnelKeeper.Proofs.Schedule
import TunnelKeeper.Proofs.Slots
import TunnelKeeper.Proofs.Tunnels
import TunnelKeeper.Proofs.Turn
import TunnelKeeper.Record.Fault
import TunnelKeeper.Record.Payload
import TunnelKeeper.Record.Shape
import TunnelKeeper.Remote.BackendState
import TunnelKeeper.Remote.Error
import TunnelKeeper.Remote.Record
import TunnelKeeper.Remote.Renewal
import TunnelKeeper.Remote.Signal
import TunnelKeeper.Schedule.Basic
import TunnelKeeper.Schedule.Lock
import TunnelKeeper.Schedule.Probe
import TunnelKeeper.Schedule.TaskSlot
import TunnelKeeper.Text.Blank
import TunnelKeeper.Text.Hex
import TunnelKeeper.Text.Printable
import TunnelKeeper.Text.Quoted
import TunnelKeeper.Time.Calendar
import TunnelKeeper.Time.Duration
import TunnelKeeper.Time.Instant
import TunnelKeeper.Time.Rfc3339
import TunnelKeeper.Time.Zone
import TunnelKeeper.Tls.Context
import TunnelKeeper.Tls.Curve
import TunnelKeeper.Tls.Der
import TunnelKeeper.Tls.Digest
import TunnelKeeper.Tls.Pem
import TunnelKeeper.Tls.PrivateKey
import TunnelKeeper.Toml.Decode
import TunnelKeeper.Toml.Number
import TunnelKeeper.Toml.Quote
import TunnelKeeper.Toml.Reader
import TunnelKeeper.Toml.Scan
import TunnelKeeper.Toml.Value
import TunnelKeeper.Toml.Writer
import TunnelKeeper.Proofs.Connections
import TunnelKeeper.Proofs.Cancellation
import TunnelKeeper.Proofs.Setups
import TunnelKeeper.Proofs.Dials
import TunnelKeeper.Proofs.Errands
import TunnelKeeper.Proofs.Tokens
import TunnelKeeper.Proofs.Points
import TunnelKeeper.Proofs.Closing
import TunnelKeeper.Proofs.Renewals
import TunnelKeeper.Proofs.Ledger
import TunnelKeeper.Proofs.Signals
import TunnelKeeper.Proofs.Voices
import TunnelKeeper.Proofs.Overlaps
import TunnelKeeper.Proofs.Newcomers
import TunnelKeeper.Proofs.Hangups
import TunnelKeeper.Proofs.Supervision
import TunnelKeeper.Proofs.Losses
import TunnelKeeper.Proofs.Leftovers
import TunnelKeeper.Proofs.Messages
import TunnelKeeper.Proofs.Office
import TunnelKeeper.Proofs.Orders
import TunnelKeeper.Proofs.Certificates
import TunnelKeeper.Proofs.LifeCycle
import TunnelKeeper.Proofs.Tenancy
import TunnelKeeper.Proofs.Exchanges
import TunnelKeeper.Proofs.BackendCalls
import TunnelKeeper.Proofs.Toml.Strings
import TunnelKeeper.Proofs.Toml.Values
import TunnelKeeper.Proofs.Toml.Documents
import TunnelKeeper.Proofs.Toml.Records
import TunnelKeeper.Proofs.Toml.Tables
import TunnelKeeper.Proofs.Settings
import TunnelKeeper.Proofs.Midnights
import TunnelKeeper.Proofs.Nights
import TunnelKeeper.Proofs.Checks
import TunnelKeeper.Proofs.Courses
import TunnelKeeper.Proofs.Stages
import TunnelKeeper.Proofs.Undisturbed
import TunnelKeeper.Proofs.Reconnects
import TunnelKeeper.Proofs.Deadlines
import TunnelKeeper.Proofs.Overrides
import TunnelKeeper.Proofs.Resaving
import TunnelKeeper.Proofs.Dates
import TunnelKeeper.Proofs.Timestamps
import TunnelKeeper.Proofs.Json.Payloads
