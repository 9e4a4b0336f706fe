import BulkWrite.Decode.Decoder

/-!
# Durations

A duration is a whole number of nanoseconds up to a greatest one. Sums and products that would pass
it stop there. Documents hold whole milliseconds in a 64-bit word.
-/

namespace BulkWrite

/-- A length of time in nanoseconds. -/
structure Duration where
  nanos : Nat
  bounded : nanos < UInt64.size * 1000000000
deriving DecidableEq

namespace Duration

/-- The nanoseconds of the greatest duration, just below `2 ^ 64` seconds. -/
def maxNanos : Nat := UInt64.size * 1000000000 - 1

/-- The duration of so many nanoseconds, or the greatest one. -/
def ofNanos (n : Nat) : Duration :=
  ⟨min n maxNanos, by unfold maxNanos UInt64.size; omega⟩

def greatest : Duration := ofNanos maxNanos

def zero : Duration := ofNanos 0

instance : Inhabited Duration := ⟨zero⟩

def nanosPerMilli : Nat := 1000000

def ofMillis (n : Nat) : Duration := ofNanos (n * nanosPerMilli)

/-- The sum, or the greatest duration. -/
def add (a b : Duration) : Duration := ofNanos (a.nanos + b.nanos)

/-- The duration `n` times, or the greatest one. -/
def times (n : Nat) (d : Duration) : Duration := ofNanos (d.nanos * n)

/-- The whole milliseconds, as many as a 64-bit word holds. -/
def millis (d : Duration) : Nat := min (d.nanos / nanosPerMilli) (UInt64.size - 1)

/-- The milliseconds that have passed when the duration is over. -/
def millisCeil (d : Duration) : Nat := (d.nanos + (nanosPerMilli - 1)) / nanosPerMilli

def toJson (d : Duration) : Json := .whole d.millis

def decoder : Decoder Duration := Decoder.map ofMillis (Decoder.natural 64 "u64")

end Duration

end BulkWrite
