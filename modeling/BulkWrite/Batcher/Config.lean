import BulkWrite.Config

/-!
# Batcher settings

A batcher is started with its two sizes, the retry policy of every batch, and the time that a
shutdown waits for each of its tasks. Memory for a full batch, for the queue and for the tasks is
set aside at the start, so sizes that are valid may still be too large.
-/

namespace BulkWrite

structure BatcherConfig where
  /-- The items of a full batch. -/
  batchSize : UInt64
  /-- The workers that submit at the same time, and the batches that may queue for them. -/
  poolSize : UInt64
  retry : RetryPolicy
  /-- How long a shutdown waits for each task. -/
  joinTimeout : Duration := .ofMillis 5000
deriving DecidableEq, Inhabited

namespace BatcherConfig

/-- The settings of a batcher in a client. -/
def ofConfig (batching : BatchingConfig) (retry : RetryPolicy) : BatcherConfig :=
  { batchSize := batching.batchSize, poolSize := batching.poolSize, retry }

/-- Neither size may be zero. -/
def validate (c : BatcherConfig) : Except Error Unit :=
  ({ batchSize := c.batchSize, poolSize := c.poolSize } : BatchingConfig).validate

/-- The most bytes that can be set aside at once. -/
def allocationBound : Nat := 0x7FFFFFFFFFFFFFFF

/-- The most places that a queue can have. -/
def queueBound : Nat := 0x1FFFFFFFFFFFFFFF

def taskBytes : Nat := 8

/-- Whether the queue, the tasks and a full batch can be set aside, an item taking so many bytes. -/
def fits (c : BatcherConfig) (itemBytes : Nat) : Bool :=
  c.poolSize.toNat ≤ queueBound && (c.poolSize.toNat + 1) * taskBytes ≤ allocationBound
    && c.batchSize.toNat * itemBytes ≤ allocationBound

inductive Start where
  | refused (e : Error)
  /-- The sizes cannot be set aside. -/
  | crashed
  | running
deriving DecidableEq

/-- How the start of a batcher ends, an item taking so many bytes. -/
def start (c : BatcherConfig) (itemBytes : Nat) : Start :=
  match c.validate with
  | .error e => .refused e
  | .ok _ => if c.fits itemBytes then .running else .crashed

end BatcherConfig

end BulkWrite
