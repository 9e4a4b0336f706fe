import BulkWrite.Attempt
import BulkWrite.Batch

/-!
# Scripted transports

A script says how a transport answers each attempt at each batch, and how long it takes.
-/

namespace BulkWrite

/-- How an attempt is answered. -/
inductive Script.Answer where
  | accept
  | fault (fault : Fault)
  | results (items : List ItemResult)
  /-- The items at these positions are rejected with one message. -/
  | reject (positions : List Nat) (message : String)
  /-- So many items are written, whatever the batch holds. -/
  | count (n : Nat)
  | breakdown

/-- An answer and the time it takes, if not the usual one. -/
structure Script.Line where
  answer : Script.Answer := .accept
  latency : Option Nat := none

structure Script where
  /-- The lines of single batches, by sequence number. -/
  batches : List (Nat × List Script.Line) := []
  /-- The lines of all other batches. -/
  others : List Script.Line := []
  /-- Whether the last line is repeated when there are no more; else all is accepted. -/
  repeats : Bool := false
  /-- The usual time of a submission in milliseconds. -/
  latency : Nat := 0

namespace Script

/-- The line of the `k`-th attempt at a batch, counted from 0. -/
def line (s : Script) (sequence k : Nat) : Line :=
  let lines := (s.batches.lookup sequence).getD s.others
  match lines[k]? with
  | some line => line
  | none => if s.repeats then lines.getLast?.getD {} else {}

/-- How long an attempt takes. -/
def latencyOf (s : Script) (sequence k : Nat) : Nat :=
  (s.line sequence k).latency.getD s.latency

/-- The reply of an answer to the items of the given identifiers; none if the transport breaks
down. -/
def Answer.reply? (ids : List String) : Answer → Option Reply
  | .accept => some (.ok (ids.map ItemResult.success))
  | .fault f => some (.error f)
  | .results items => some (.ok items)
  | .reject positions message =>
    some (.ok (ids.mapIdx fun i id =>
      if positions.contains i then ItemResult.failed id [⟨message⟩] else ItemResult.success id))
  | .count n =>
    some (.ok (((ids ++ List.replicate (n - ids.length) "extra").take n).map ItemResult.success))
  | .breakdown => none

def reply? {α : Type} [Item α] (s : Script) (batch : Batch α) (k : Nat) : Option Reply :=
  (s.line batch.sequence k).answer.reply? batch.ids

end Script

end BulkWrite
