import EthRpc.Backoff
import EthRpc.Binary64
import EthRpc.Block.Head
import EthRpc.Block.Ref
import EthRpc.Dict
import EthRpc.Digits
import EthRpc.Hash32
import EthRpc.Json.Basic
import EthRpc.Json.Numeral
import EthRpc.Json.Printer
import EthRpc.Json.Record
import EthRpc.Json.Source
import EthRpc.Json.Token
import EthRpc.Log
import EthRpc.Lru
import EthRpc.Method.Builtin
import EthRpc.Method.Spec
import EthRpc.Program
import EthRpc.Quantity
import EthRpc.Rpc.Error
import EthRpc.Rpc.Request
import EthRpc.Rpc.Response
import EthRpc.Stage.Basic
import EthRpc.Stage.BlockCache
import EthRpc.Stage.BlockParam
import EthRpc.Stage.Inflight
import EthRpc.Stage.Inspector
import EthRpc.Stage.RetryOnEmpty
import EthRpc.Text.Hidden
import EthRpc.Text.Runs
import EthRpc.Text.Letters
import EthRpc.Text.Composition
import EthRpc.Text.Quoted
import EthRpc.Tracker.Basic
import EthRpc.Tracker.Subscription
import EthRpc.Tracker.Turn
import EthRpc.Client
import EthRpc.Machine.Basic
import EthRpc.Machine.Step
import EthRpc.Simulation.Endpoint
import EthRpc.Simulation.Schedule
import EthRpc.Machine.Metrics
import EthRpc.Simulation.Scenario
import EthRpc.Text.Lowercase
import EthRpc.Url.Host
import EthRpc.Url.Name.Ascii
import EthRpc.Url.Name.Direction
import EthRpc.Url.Name.Joining
import EthRpc.Url.Name.Mapping
import EthRpc.Url.Path
import EthRpc.Url.Basic
import EthRpc.Url.Parser
import EthRpc.Config.Decimal
import EthRpc.Config.Ini
import EthRpc.Config.Json5
import EthRpc.Config.Key
import EthRpc.Config.Ron
import EthRpc.Config.Toml.Document
import EthRpc.Config.Toml.Moment
import EthRpc.Network.Spec
import EthRpc.Config.Format
import EthRpc.Network.Resolve
import EthRpc.CommandLine.Arguments
import EthRpc.CommandLine.Launch
import EthRpc.Http.Exchange
import EthRpc.Http.Ledger
import EthRpc.Http.Message
import EthRpc.Machine.Demand
import EthRpc.Main
import EthRpc.Config.Yaml.Cursor
import EthRpc.Config.Yaml.Scalar
import EthRpc.Config.Yaml.Tag
import EthRpc.Config.Yaml.Token
import EthRpc.Config.Yaml.Document
import EthRpc.Proofs.Machine.Frame
import EthRpc.Proofs.Machine.Effect
import EthRpc.Proofs.Machine.Moves
import EthRpc.Proofs.Machine.Tables
import EthRpc.Proofs.Machine.SharedRuns
import EthRpc.Proofs.Tracker.Records
import EthRpc.Proofs.Stage.Inflight
import EthRpc.Proofs.Binary64.Decimal
import EthRpc.Proofs.Json.Printer
import EthRpc.Proofs.Json.Scanning
import EthRpc.Proofs.Json.Reading
import EthRpc.Proofs.Rpc.Fingerprint
import EthRpc.Proofs.Rpc.Response
import EthRpc.Proofs.Block.Ref
import EthRpc.Proofs.Stage.BlockParam
import EthRpc.Proofs.Program.Obeys
import EthRpc.Proofs.Machine.History
import EthRpc.Proofs.Lru
import EthRpc.Proofs.Lru.Recency
import EthRpc.Proofs.Machine.Caches
import EthRpc.Proofs.Machine.Recency
import EthRpc.Proofs.Machine.Obedience
import EthRpc.Proofs.Stage.Relays
import EthRpc.Proofs.Client.Obedience
import EthRpc.Proofs.Client.Provenance
import EthRpc.Proofs.Client.CacheContents
import EthRpc.Proofs.Machine.Courses
import EthRpc.Proofs.Program.Within
import EthRpc.Proofs.Machine.Lives
import EthRpc.Proofs.Machine.Audience
import EthRpc.Proofs.Machine.Turns
import EthRpc.Proofs.Machine.Loops
import EthRpc.Proofs.Machine.Heads
import EthRpc.Proofs.Tracker.Polls
import EthRpc.Proofs.Stage.Bounds
import EthRpc.Proofs.Stage.Keys
import EthRpc.Proofs.Client.Courses
import EthRpc.Proofs.Client.Pins
import EthRpc.Proofs.Client.HeadScope
import EthRpc.Proofs.Client.Passing
import EthRpc.Proofs.Tracker.Consumers
import EthRpc.Proofs.Client.Errors
import EthRpc.Proofs.Stage.Normalization
import EthRpc.Proofs.Program.Plays
import EthRpc.Proofs.Stage.RetryOnEmpty
import EthRpc.Proofs.Client.Retries
import EthRpc.Proofs.Program.Reads
import EthRpc.Proofs.Machine.Readers
import EthRpc.Proofs.Client.Overlap
import EthRpc.Proofs.Block.Spelling
import EthRpc.Proofs.Stage.Spellings
import EthRpc.Proofs.Client.Replay
import EthRpc.Proofs.Tracker.Delivery
import EthRpc.Proofs.Backoff
import EthRpc.Proofs.Machine.Tallies
import EthRpc.Proofs.Machine.Countings
import EthRpc.Proofs.Stage.Postings
import EthRpc.Proofs.Tracker.Schedule
import EthRpc.Proofs.Client.Polling
import EthRpc.Proofs.Client.Ledger
import EthRpc.Proofs.Tracker.Inquiries
import EthRpc.Proofs.Client.Inspection
import EthRpc.Proofs.Machine.Exchanges
import EthRpc.Proofs.Http.OpenRequests
import EthRpc.Proofs.Block.Reading
import EthRpc.Proofs.Quantity
