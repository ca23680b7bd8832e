import RollupFees.Abi
import RollupFees.Address
import RollupFees.Amount
import RollupFees.Batch
import RollupFees.Billing
import RollupFees.Call
import RollupFees.CommandLine
import RollupFees.Conversion
import RollupFees.Decimal
import RollupFees.Decimal.Binary
import RollupFees.Decimal.Text
import RollupFees.Deployment
import RollupFees.Dialogue
import RollupFees.Duration
import RollupFees.Endpoint
import RollupFees.Failure
import RollupFees.Feed
import RollupFees.Fields
import RollupFees.Hex
import RollupFees.Json
import RollupFees.Json.Decode
import RollupFees.Json.Number
import RollupFees.Json.Parser
import RollupFees.Json.Printer
import RollupFees.Json.Token
import RollupFees.Keccak
import RollupFees.Ledger
import RollupFees.Ledger.Accrual
import RollupFees.Main
import RollupFees.Node
import RollupFees.Node.Batches
import RollupFees.Node.Chain
import RollupFees.Node.Quantity
import RollupFees.Node.Record
import RollupFees.Node.Submission
import RollupFees.Node.View
import RollupFees.Node.Wire
import RollupFees.Notice
import RollupFees.Parameter
import RollupFees.Price
import RollupFees.Proofs.Contract
import RollupFees.Proofs.Dated
import RollupFees.Proofs.History
import RollupFees.Proofs.Json.RoundTrip
import RollupFees.Proofs.Json.Scan
import RollupFees.Proofs.Ledger.Commits
import RollupFees.Proofs.Ledger.Conservation
import RollupFees.Proofs.Ledger.Observation
import RollupFees.Proofs.Loop
import RollupFees.Proofs.Path
import RollupFees.Proofs.Questions
import RollupFees.Proofs.Restart.Growth
import RollupFees.Proofs.Restart.Runs
import RollupFees.Proofs.Restart.Steps
import RollupFees.Proofs.Restart.Surroundings
import RollupFees.Proofs.Restart.Twins
import RollupFees.Proofs.Shutdown.Heed
import RollupFees.Proofs.Snapshot.Encoding
import RollupFees.Proofs.Snapshot.Store
import RollupFees.Proofs.Steering.Steps
import RollupFees.Proofs.Steering.Warrant
import RollupFees.Proofs.Steering.Writes
import RollupFees.Proofs.Text.Digits
import RollupFees.Proofs.Timestamp
import RollupFees.Registry
import RollupFees.Rehearsal.Directory
import RollupFees.Rehearsal.Fault
import RollupFees.Rehearsal.Node
import RollupFees.Rehearsal.World
import RollupFees.Service.Lifecycle
import RollupFees.Service.Pricing
import RollupFees.Service.Query
import RollupFees.Service.Reconciliation
import RollupFees.Service.Steering
import RollupFees.Service.Tick
import RollupFees.Setting
import RollupFees.Settings
import RollupFees.Settings.Environment
import RollupFees.Settings.File
import RollupFees.Settings.Path
import RollupFees.Settings.Reading
import RollupFees.Settings.Rule
import RollupFees.Settings.Section
import RollupFees.Shortest
import RollupFees.Shutdown
import RollupFees.Site
import RollupFees.Snapshot
import RollupFees.Snapshot.Disk
import RollupFees.Snapshot.Encoding
import RollupFees.Snapshot.Store
import RollupFees.Text.Blank
import RollupFees.Text.Quoted
import RollupFees.Text.Shapeless
import RollupFees.Timestamp
import RollupFees.Toml.Document
import RollupFees.Toml.Moment
import RollupFees.Toml.Number
import RollupFees.Toml.Parser
import RollupFees.Toml.Token
import RollupFees.Proofs.Shutdown.Requests
import RollupFees.Proofs.Steering.Limit
import RollupFees.Proofs.Steering.Flight
import RollupFees.Proofs.Json.Shape
import RollupFees.Proofs.Snapshot.Readers
import RollupFees.Proofs.Snapshot.Acceptance
import RollupFees.Proofs.Snapshot.Tamper
import RollupFees.Proofs.Snapshot.Mishap
import RollupFees.Proofs.Snapshot.Crash
import RollupFees.Proofs.Ledger.Alignment
import RollupFees.Proofs.Records
import RollupFees.Proofs.Ledger.Repair
import RollupFees.Proofs.Ledger.Gains
import RollupFees.Proofs.Arithmetic.Strict
import RollupFees.Proofs.Arithmetic.Accepted
import RollupFees.Proofs.Isolation.Calls
import RollupFees.Proofs.Isolation.Steps
import RollupFees.Proofs.Isolation.Faults
import RollupFees.Proofs.Isolation.Stores
import RollupFees.Proofs.Isolation.Surroundings
import RollupFees.Proofs.Isolation.Ticks
import RollupFees.Proofs.Decimal.Rounding
import RollupFees.Proofs.Decimal.Quotient
import RollupFees.Proofs.Decimal.Product
import RollupFees.Proofs.Pricing.Cents
import RollupFees.Proofs.Pricing.Refresh
import RollupFees.Proofs.Pricing.Feeds
import RollupFees.Proofs.Steering.Decision
import RollupFees.Proofs.Steering.Ratio
import RollupFees.Proofs.Steering.Share
import RollupFees.Proofs.Steering.Convergence
import RollupFees.Proofs.Batches
import RollupFees.Proofs.Pricing.Range
import RollupFees.Proofs.Steering.Overhead
import RollupFees.Proofs.Steering.Order
import RollupFees.Proofs.Pricing.Dollars
import RollupFees.Proofs.Ledger.Polls
import RollupFees.Proofs.Ledger.Frame
import RollupFees.Proofs.Steering.Reach
import RollupFees.Proofs.Pricing.Aggregator
import RollupFees.Proofs.Registry
import RollupFees.Proofs.Toml.Scan
import RollupFees.Proofs.Toml.Number
import RollupFees.Proofs.Toml.RoundTrip
import RollupFees.Proofs.Toml.Shape
import RollupFees.Proofs.Settings.Sections
import RollupFees.Proofs.Settings.Amended
import RollupFees.Proofs.Settings.Tree
import RollupFees.Proofs.Settings.Override
