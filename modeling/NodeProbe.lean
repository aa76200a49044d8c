import NodeProbe.Bus.Broker
import NodeProbe.Bus.Connection
import NodeProbe.Bus.Event
import NodeProbe.Catalog
import NodeProbe.Cipher.Aes
import NodeProbe.Cipher.Sealed
import NodeProbe.CommandLine.Basic
import NodeProbe.CommandLine.Command
import NodeProbe.CommandLine.Reading
import NodeProbe.CommandLine.Suggestion
import NodeProbe.Config.Address
import NodeProbe.Config.EnvFile
import NodeProbe.Config.EnvLibrary
import NodeProbe.Config.Load
import NodeProbe.Config.Settings
import NodeProbe.Config.Vault
import NodeProbe.Config.VaultKey
import NodeProbe.Decimal.Binary
import NodeProbe.Decimal.Layout
import NodeProbe.Decimal.Numeral
import NodeProbe.Decimal.Shortest
import NodeProbe.Extractor
import NodeProbe.Fault
import NodeProbe.Fetch.Outcome
import NodeProbe.Fetch.Race
import NodeProbe.Files
import NodeProbe.Host.Basic
import NodeProbe.Host.Name
import NodeProbe.Host.NameTable
import NodeProbe.Host.Numeric
import NodeProbe.Host.Punycode
import NodeProbe.Json.Basic
import NodeProbe.Json.Lexer
import NodeProbe.Json.Parser
import NodeProbe.Json.Printer
import NodeProbe.Main
import NodeProbe.Method
import NodeProbe.Metrics.Exposition
import NodeProbe.Metrics.Instrument
import NodeProbe.Metrics.Registry
import NodeProbe.Metrics.Server
import NodeProbe.Output
import NodeProbe.Probe.Basic
import NodeProbe.Probe.Transport
import NodeProbe.Proofs.Bus.Envelope
import NodeProbe.Proofs.Bus.Subject
import NodeProbe.Proofs.Catalog
import NodeProbe.Proofs.Config.Address
import NodeProbe.Proofs.Config.Precedence
import NodeProbe.Proofs.Config.Reading
import NodeProbe.Proofs.Config.Secrets
import NodeProbe.Proofs.Config.Timers
import NodeProbe.Proofs.Course.Account
import NodeProbe.Proofs.Course.Basic
import NodeProbe.Proofs.Course.Cadence
import NodeProbe.Proofs.Course.Calm
import NodeProbe.Proofs.Course.Isolation
import NodeProbe.Proofs.Course.Overlap
import NodeProbe.Proofs.Course.Rhythm
import NodeProbe.Proofs.Course.Shutdown
import NodeProbe.Proofs.Course.Sight
import NodeProbe.Proofs.Course.Tally
import NodeProbe.Proofs.Course.Waking
import NodeProbe.Proofs.Decimal.Arithmetic
import NodeProbe.Proofs.Decimal.Double
import NodeProbe.Proofs.Decimal.Exact
import NodeProbe.Proofs.Decimal.Nearest
import NodeProbe.Proofs.Decimal.Operations
import NodeProbe.Proofs.Decimal.Reading
import NodeProbe.Proofs.Decimal.Shortest
import NodeProbe.Proofs.Decimal.Whole
import NodeProbe.Proofs.Extractor.Basic
import NodeProbe.Proofs.Extractor.Disabled
import NodeProbe.Proofs.Extractor.Lifetime
import NodeProbe.Proofs.Extractor.Order
import NodeProbe.Proofs.Extractor.Subjects
import NodeProbe.Proofs.Extractor.Teardown
import NodeProbe.Proofs.Fetch.Checking
import NodeProbe.Proofs.Fetch.Deciding
import NodeProbe.Proofs.Fetch.Incidents
import NodeProbe.Proofs.Fetch.Payload
import NodeProbe.Proofs.Json.Lexing
import NodeProbe.Proofs.Json.Reading
import NodeProbe.Proofs.Keyed
import NodeProbe.Proofs.Lifetime.Order
import NodeProbe.Proofs.Metrics.Access
import NodeProbe.Proofs.Metrics.History
import NodeProbe.Proofs.Metrics.Reading
import NodeProbe.Proofs.Metrics.Series
import NodeProbe.Proofs.Probe.Age
import NodeProbe.Proofs.Probe.Change
import NodeProbe.Proofs.Probe.Course
import NodeProbe.Proofs.Probe.Pace
import NodeProbe.Proofs.Probe.Performing
import NodeProbe.Proofs.Probe.Punctual
import NodeProbe.Proofs.Probe.Rounds
import NodeProbe.Proofs.Probe.Timeouts
import NodeProbe.Proofs.Publishing
import NodeProbe.Proofs.Rpc.Access
import NodeProbe.Proofs.Rpc.Answer
import NodeProbe.Proofs.Rpc.Credentials
import NodeProbe.Proofs.Rpc.Requests
import NodeProbe.Proofs.Scheduler.Books
import NodeProbe.Proofs.Scheduler.Calls
import NodeProbe.Proofs.Scheduler.Deadline
import NodeProbe.Proofs.Scheduler.Ending
import NodeProbe.Proofs.Scheduler.Sleeping
import NodeProbe.Proofs.Scheduler.Stages
import NodeProbe.Proofs.Scheduler.Tick
import NodeProbe.Proofs.Server.Boundary
import NodeProbe.Proofs.Shape
import NodeProbe.Proofs.Shutdown
import NodeProbe.Proofs.Text.Base64
import NodeProbe.Proofs.Text.Pieces
import NodeProbe.Proofs.Time.Instant
import NodeProbe.Rpc.Answer
import NodeProbe.Rpc.Client
import NodeProbe.Rpc.Credentials
import NodeProbe.Scheduler.Basic
import NodeProbe.Scheduler.Notice
import NodeProbe.Scheduler.Slot
import NodeProbe.Scheduler.Wait
import NodeProbe.Server
import NodeProbe.Shape
import NodeProbe.Shutdown
import NodeProbe.Text.Base64
import NodeProbe.Text.Basic
import NodeProbe.Text.Blank
import NodeProbe.Text.CaseTable
import NodeProbe.Text.Casing
import NodeProbe.Text.CodeRun
import NodeProbe.Text.Composed
import NodeProbe.Text.CompositionTable
import NodeProbe.Text.Digit
import NodeProbe.Text.Pattern
import NodeProbe.Text.Percent
import NodeProbe.Text.Quoted
import NodeProbe.Text.Utf8
import NodeProbe.Time.Calendar
import NodeProbe.Time.Clock
import NodeProbe.Time.Instant
