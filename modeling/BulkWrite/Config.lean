import BulkWrite.Consistency
import BulkWrite.Decode.Choice
import BulkWrite.Decode.Record
import BulkWrite.Error
import BulkWrite.Retry.Policy
import BulkWrite.Text.Blank

/-!
# Configuration

The settings of a client: the endpoint of the store, the sizes of the batcher, and the retry policy.
The key of the endpoint is read from a document but never written to one.
-/

namespace BulkWrite

def EndpointConfig.defaultTimeoutMs : UInt64 := 60000

structure EndpointConfig where
  baseUrl : String
  apiKey : Option String := none
  /-- The deadline of a single submission in milliseconds. -/
  timeoutMs : UInt64 := EndpointConfig.defaultTimeoutMs
  consistency : Option Consistency := none
deriving DecidableEq, Repr, Inhabited

namespace EndpointConfig

/-- The document of an endpoint, without its key. -/
def toJson (e : EndpointConfig) : Json :=
  .object [("base_url", .text e.baseUrl), ("timeout_ms", .whole e.timeoutMs.toNat),
    ("consistency_level", (e.consistency.map fun c => .text c.name).getD .null)]

def decoder : Decoder EndpointConfig :=
  Fields.record "EndpointConfig" <|
    EndpointConfig.mk <$> .required "base_url" Decoder.text
      <*> .optional "api_key" Decoder.text
      <*> .absentAs "timeout_ms" defaultTimeoutMs Decoder.word64
      <*> .optional "consistency_level" Consistency.vocabulary.decoder

end EndpointConfig

def BatchingConfig.defaultBatchSize : UInt64 := 100

def BatchingConfig.defaultPoolSize : UInt64 := 1

structure BatchingConfig where
  batchSize : UInt64 := BatchingConfig.defaultBatchSize
  poolSize : UInt64 := BatchingConfig.defaultPoolSize
deriving DecidableEq, Repr, Inhabited

namespace BatchingConfig

def validate (b : BatchingConfig) : Except Error Unit :=
  if b.batchSize = 0 then .error (.invalidInput "batch_size must be greater than 0")
  else if b.poolSize = 0 then .error (.invalidInput "pool_size must be at least 1")
  else .ok ()

theorem validate_eq_ok_iff {b : BatchingConfig} :
    b.validate = .ok () ↔ b.batchSize ≠ 0 ∧ b.poolSize ≠ 0 := by
  unfold validate
  split
  · simp [*]
  · split <;> simp [*]

def toJson (b : BatchingConfig) : Json :=
  .object [("batch_size", .whole b.batchSize.toNat), ("pool_size", .whole b.poolSize.toNat)]

def decoder : Decoder BatchingConfig :=
  Fields.record "BatchingConfig" <|
    BatchingConfig.mk <$> .required "batch_size" Decoder.size
      <*> .required "pool_size" Decoder.size

end BatchingConfig

structure Config where
  endpoint : EndpointConfig
  batching : BatchingConfig := {}
  retry : RetryPolicy
deriving DecidableEq, Inhabited

namespace Config

/-- The endpoint has an address and a deadline, and neither size is zero. -/
def validate (c : Config) : Except Error Unit :=
  if (Text.trim c.endpoint.baseUrl).isEmpty then
    .error (.config "endpoint.base_url must not be empty")
  else if c.endpoint.timeoutMs = 0 then
    .error (.config "endpoint.timeout_ms must be positive")
  else c.batching.validate.mapError fun e => .config e.describe

/-- The document of the settings, without the key. -/
def toJson (c : Config) : Json :=
  .object [("endpoint", c.endpoint.toJson), ("batching", c.batching.toJson),
    ("retry", c.retry.toJson)]

def decoder : Decoder Config :=
  Fields.record "BatchlineConfig" <|
    Config.mk <$> .required "endpoint" EndpointConfig.decoder
      <*> .absentAs "batching" {} BatchingConfig.decoder
      <*> .required "retry" RetryPolicy.decoder

end Config

end BulkWrite
