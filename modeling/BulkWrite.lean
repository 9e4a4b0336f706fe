import BulkWrite.Attempt
import BulkWrite.Batch
import BulkWrite.Batcher.Config
import BulkWrite.Batcher.State
import BulkWrite.Batcher.Step
import BulkWrite.Config
import BulkWrite.Config.Loader
import BulkWrite.Consistency
import BulkWrite.Decode.Cause
import BulkWrite.Decode.Choice
import BulkWrite.Decode.Decoder
import BulkWrite.Decode.Record
import BulkWrite.Dotenv.Basic
import BulkWrite.Dotenv.Lines
import BulkWrite.Dotenv.Value
import BulkWrite.Duration
import BulkWrite.Environment
import BulkWrite.Error
import BulkWrite.Execution
import BulkWrite.Fault
import BulkWrite.FileTree
import BulkWrite.Http.Base64
import BulkWrite.Http.Client
import BulkWrite.Http.Exchange
import BulkWrite.Http.Failure
import BulkWrite.Item.Basic
import BulkWrite.Item.Delete
import BulkWrite.Item.Identifier
import BulkWrite.Item.Object
import BulkWrite.Item.Reference
import BulkWrite.Json.Document
import BulkWrite.Json.Number
import BulkWrite.Json.Printer
import BulkWrite.Json.Reader
import BulkWrite.Json.Value
import BulkWrite.LogFormat
import BulkWrite.Number.Binary
import BulkWrite.Number.Layout
import BulkWrite.Number.Shortest
import BulkWrite.Result
import BulkWrite.Retry.Budget
import BulkWrite.Retry.Policy
import BulkWrite.Simulation.Script
import BulkWrite.Simulation.Session
import BulkWrite.Simulation.World
import BulkWrite.Store.Basic
import BulkWrite.Store.Message
import BulkWrite.Store.Submission
import BulkWrite.Text.Blank
import BulkWrite.Text.Digit
import BulkWrite.Text.Keyword
import BulkWrite.Text.Quoted
import BulkWrite.Text.Visible
import BulkWrite.Toml.Reader
import BulkWrite.Toml.Scalar
import BulkWrite.Toml.Table
import BulkWrite.Url.Address
import BulkWrite.Url.Basic
import BulkWrite.Url.Domain
import BulkWrite.Url.Percent
import BulkWrite.Url.Punycode
import BulkWrite.Url.Reader
import BulkWrite.Proofs.Batcher.History
import BulkWrite.Proofs.Batcher.Ledger
import BulkWrite.Proofs.Batcher.Lock
import BulkWrite.Proofs.Batcher.Pool
import BulkWrite.Proofs.Batcher.Barrier
import BulkWrite.Proofs.Batcher.Request
import BulkWrite.Proofs.Batcher.Pending
import BulkWrite.Proofs.Batcher.Order
import BulkWrite.Proofs.Batcher.Cut
import BulkWrite.Proofs.Batcher.Formation
import BulkWrite.Proofs.Rounds
import BulkWrite.Proofs.Batcher.Provenance
import BulkWrite.Proofs.Batcher.Delivery
import BulkWrite.Proofs.Batcher.Join
import BulkWrite.Proofs.Batcher.Shutdown
import BulkWrite.Proofs.Batcher.Line
import BulkWrite.Proofs.Batcher.Quiet
import BulkWrite.Proofs.Batcher.Loss
import BulkWrite.Proofs.Retries
import BulkWrite.Proofs.Batcher.Counters
import BulkWrite.Proofs.Accounts
import BulkWrite.Proofs.Attempts
import BulkWrite.Proofs.Backoff
import BulkWrite.Proofs.Batcher.Capacity
import BulkWrite.Proofs.Batcher.Lifecycle
import BulkWrite.Proofs.Batcher.Answers
import BulkWrite.Proofs.Batcher.Pooling
import BulkWrite.Proofs.Batcher.Stopped
import BulkWrite.Proofs.Json.Reading
import BulkWrite.Proofs.Decode.Records
import BulkWrite.Proofs.Decode.Written
import BulkWrite.Proofs.Config.Settings
import BulkWrite.Proofs.Config.Sources
import BulkWrite.Proofs.Verdict
import BulkWrite.Proofs.Decode.Results
import BulkWrite.Proofs.Store.Answers
import BulkWrite.Proofs.Store.Correlation
import BulkWrite.Proofs.Store.Deletes
import BulkWrite.Proofs.Json.Lasting
import BulkWrite.Proofs.Store.Objects
import BulkWrite.Proofs.Number.Rounding
import BulkWrite.Proofs.Number.Shortest
import BulkWrite.Proofs.Json.Scaling
import BulkWrite.Proofs.Number.Separation
import BulkWrite.Proofs.Detail
import BulkWrite.Proofs.Config.Written
import BulkWrite.Proofs.Decode.Items
import BulkWrite.Proofs.Config.Fallback
import BulkWrite.Proofs.Batcher.Start
import BulkWrite.Proofs.Batcher.Published
import BulkWrite.Proofs.Identity
import BulkWrite.Proofs.Json.Reordering
import BulkWrite.Proofs.Decode.Reordering
import BulkWrite.Proofs.Decode.Tagged
import BulkWrite.Proofs.Budgets
