import BulkWrite.Decode.Record
import BulkWrite.Duration

/-!
# Retry policies

A policy grants a number of retries after faults of the connection and another one after faults of
time, and sets the unit of the waits between them.
-/

namespace BulkWrite

structure RetryPolicy where
  /-- The unit of the waits. -/
  baseInterval : Duration
  maxConnectionRetries : UInt32
  maxTimeoutRetries : UInt32
deriving DecidableEq, Inhabited

namespace RetryPolicy

def noRetries : RetryPolicy := ⟨.zero, 0, 0⟩

/-- The sum of two words, or the greatest word. -/
def saturatingAdd (a b : UInt32) : UInt32 :=
  UInt32.ofNat (min (a.toNat + b.toNat) (UInt32.size - 1))

/-- The most submissions of one batch, as far as a word holds it. -/
def maxAttempts (p : RetryPolicy) : UInt32 :=
  saturatingAdd (saturatingAdd p.maxConnectionRetries p.maxTimeoutRetries) 1

def toJson (p : RetryPolicy) : Json :=
  .object [("base_interval_ms", p.baseInterval.toJson),
    ("max_connection_retries", .whole p.maxConnectionRetries.toNat),
    ("max_timeout_retries", .whole p.maxTimeoutRetries.toNat)]

def decoder : Decoder RetryPolicy :=
  Fields.record "RetryPolicy" <|
    RetryPolicy.mk <$> .required "base_interval_ms" Duration.decoder
      <*> .required "max_connection_retries" Decoder.word32
      <*> .required "max_timeout_retries" Decoder.word32

end RetryPolicy

end BulkWrite
