import BridgeRelay.Abi
import BridgeRelay.Address
import BridgeRelay.Binary64
import BridgeRelay.Binary64.Text
import BridgeRelay.BridgeCall
import BridgeRelay.Bytes
import BridgeRelay.Chain
import BridgeRelay.Checkpoint
import BridgeRelay.Config
import BridgeRelay.Config.Chain
import BridgeRelay.Config.EnvFile
import BridgeRelay.Config.Variables
import BridgeRelay.Connection
import BridgeRelay.Delivery
import BridgeRelay.Deposit
import BridgeRelay.Destination
import BridgeRelay.Devnet.Account
import BridgeRelay.Devnet.Bridge
import BridgeRelay.Devnet.Node
import BridgeRelay.Devnet.Sample
import BridgeRelay.Devnet.Script
import BridgeRelay.Devnet.SourceChain
import BridgeRelay.Duration
import BridgeRelay.Gas
import BridgeRelay.Gas.Quote
import BridgeRelay.Handlers
import BridgeRelay.Health
import BridgeRelay.Hex
import BridgeRelay.Host
import BridgeRelay.Keccak
import BridgeRelay.Listener
import BridgeRelay.Message
import BridgeRelay.Metrics
import BridgeRelay.Metrics.Exposition
import BridgeRelay.Metrics.Fingerprint
import BridgeRelay.Payload
import BridgeRelay.Payload.Codec
import BridgeRelay.Program
import BridgeRelay.Proposal
import BridgeRelay.Proofs.Checkpoint
import BridgeRelay.Proofs.Listener.Commit
import BridgeRelay.Proofs.Listener.Handling
import BridgeRelay.Proofs.Listener.History
import BridgeRelay.Proofs.Listener.Reads
import BridgeRelay.Proofs.Program.Pool
import BridgeRelay.Proofs.Program.Runs
import BridgeRelay.Proofs.Program.World
import BridgeRelay.Proofs.Signer.Account
import BridgeRelay.Proofs.Signer.Nonces
import BridgeRelay.Proofs.Signer.Replacement
import BridgeRelay.Proofs.Signer.Requests
import BridgeRelay.Proofs.Signer.Turns
import BridgeRelay.Proofs.Writer.Reads
import BridgeRelay.Proofs.Writer.Replays
import BridgeRelay.Proofs.Writer.Voting
import BridgeRelay.Relay
import BridgeRelay.RelayError
import BridgeRelay.Resource
import BridgeRelay.Retry
import BridgeRelay.Retry.Read
import BridgeRelay.Routes
import BridgeRelay.Signer
import BridgeRelay.Simulation.Recorder
import BridgeRelay.Simulation.Scene
import BridgeRelay.Simulation.Schedule
import BridgeRelay.Simulation.Stage
import BridgeRelay.Simulation.Store
import BridgeRelay.Source
import BridgeRelay.Text.Character
import BridgeRelay.Text.Letter
import BridgeRelay.Text.Numeral
import BridgeRelay.Url
import BridgeRelay.Url.HostName
import BridgeRelay.Url.HostName.Alias
import BridgeRelay.Url.HostName.Alias.Form
import BridgeRelay.Url.HostName.Alias.Ideograph
import BridgeRelay.Url.HostName.Alias.Letter
import BridgeRelay.Url.HostName.Alias.Ligature
import BridgeRelay.Url.HostName.Alias.Sequence
import BridgeRelay.Url.HostName.Bootstring
import BridgeRelay.Url.HostName.Composition
import BridgeRelay.Url.HostName.Direction
import BridgeRelay.Url.HostName.Joining
import BridgeRelay.Url.HostName.Known
import BridgeRelay.Url.HostName.Mark
import BridgeRelay.Url.HostName.Order
import BridgeRelay.Url.Numeric
import BridgeRelay.Window
import BridgeRelay.Word
import BridgeRelay.Writer
import BridgeRelay.Proofs.Writer.Execution
import BridgeRelay.Proofs.Writer.Inbox
import BridgeRelay.Proofs.Signer.Evidence
import BridgeRelay.Proofs.Writer.Outcomes
import BridgeRelay.Proofs.Devnet.Bridge
import BridgeRelay.Proofs.Devnet.Race
import BridgeRelay.Proofs.Writer.Races
import BridgeRelay.Proofs.Listener.Rounds
import BridgeRelay.Proofs.Window
import BridgeRelay.Proofs.Listener.Tiling
import BridgeRelay.Proofs.Listener.Failures
import BridgeRelay.Proofs.Payload.RoundTrip
import BridgeRelay.Proofs.Listener.Halting
import BridgeRelay.Proofs.Listener.Regression
import BridgeRelay.Proofs.Listener.Deliveries
import BridgeRelay.Proofs.Payload.Bounds
import BridgeRelay.Proofs.Payload.Canonical
import BridgeRelay.Proofs.Listener.Handovers
import BridgeRelay.Proofs.Transfer
import BridgeRelay.Proofs.Checkpoint.Operations
import BridgeRelay.Proofs.Signer.Succession
import BridgeRelay.Proofs.Abi
import BridgeRelay.Proofs.Deposit
import BridgeRelay.Proofs.Listener.Scans
import BridgeRelay.Proofs.Listener.Order
import BridgeRelay.Proofs.Listener.Balance
import BridgeRelay.Proofs.Devnet.Ledger
import BridgeRelay.Proofs.Writer.Completion
import BridgeRelay.Proofs.Listener.Resting
import BridgeRelay.Proofs.Relay.Stage
import BridgeRelay.Proofs.Relay.Sites
import BridgeRelay.Proofs.Relay.Writes
import BridgeRelay.Proofs.Relay.Listening
import BridgeRelay.Proofs.Relay.Pipeline
import BridgeRelay.Proofs.Program.Progress
import BridgeRelay.Proofs.Writer.Custody
import BridgeRelay.Proofs.Listener.Arrival
import BridgeRelay.Proofs.Relay.Progress
import BridgeRelay.Proofs.Steps
import BridgeRelay.Proofs.Signer.Pricing
import BridgeRelay.Proofs.Program.Translation
import BridgeRelay.Proofs.Relay.Crew
import BridgeRelay.Proofs.Listener.Interruption
import BridgeRelay.Proofs.Writer.Interruption
import BridgeRelay.Proofs.Relay.Readings
import BridgeRelay.Proofs.Relay.Stop
import BridgeRelay.Proofs.Metrics.Errors
import BridgeRelay.Proofs.Writer.Counts
import BridgeRelay.Proofs.Relay.Accounts
import BridgeRelay.Proofs.Relay.Failures
import BridgeRelay.Proofs.Text.Numeral
import BridgeRelay.Proofs.Config.Names
import BridgeRelay.Proofs.Config.Validation
import BridgeRelay.Proofs.Config.RoundTrip
import BridgeRelay.Proofs.Signer.Bumps
import BridgeRelay.Proofs.Retry.Delays
import BridgeRelay.Proofs.Program.Counting
import BridgeRelay.Proofs.Signer.Verdict
import BridgeRelay.Proofs.Signer.Inclusion
import BridgeRelay.Proofs.Writer.Failures
import BridgeRelay.Proofs.Signer.FeePairs
import BridgeRelay.Proofs.Text.Occurrence
import BridgeRelay.Proofs.Retry.Refusals
import BridgeRelay.Proofs.Retry.Reads
import BridgeRelay.Proofs.Signer.Receipts
import BridgeRelay.Proofs.Text.Encoding
import BridgeRelay.Proofs.Hex
import BridgeRelay.Proofs.Config.Addresses
import BridgeRelay.Proofs.Config.HandlerKinds
import BridgeRelay.Proofs.Abi.Reading
import BridgeRelay.Proofs.BridgeCall
import BridgeRelay.Proofs.Program.Work
import BridgeRelay.Proofs.Writer.Work
import BridgeRelay.Proofs.Writer.Termination
import BridgeRelay.Proofs.Proposal
import BridgeRelay.Proofs.Resource
import BridgeRelay.Proofs.Metrics.Series
import BridgeRelay.Proofs.Metrics.Fingerprint
import BridgeRelay.Proofs.Metrics.Gauges
import BridgeRelay.Proofs.Metrics.Touched
import BridgeRelay.Proofs.Health
import BridgeRelay.Proofs.Retry.Growth
