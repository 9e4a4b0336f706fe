import BulkWrite.Batcher.Config
import BulkWrite.Execution
import BulkWrite.Text.Keyword

/-!
# States of a batcher

Producers push items to a pending list, one call at a time: calls queue for the list in the order in
which they came. A full batch is cut from the list and handed to a bounded queue, from which the
workers take batches in order. A worker executes its batch and passes the result on to the one
dispatcher, which calls back.

A call runs from one point where somebody else may come in between to the next. `Phase` lists these
points; between two steps every call stands at one of them.
-/

namespace BulkWrite

/-- What a batcher looks like from outside. -/
inductive Lifecycle where
  | idle
  | accumulating
  | dispatching
  /-- A flush waits for the batches in flight. -/
  | draining
deriving DecidableEq, Repr

namespace Lifecycle

def vocabulary : Vocabulary Lifecycle :=
  ⟨"BatcherState", [("idle", .idle), ("accumulating", .accumulating),
    ("dispatching", .dispatching), ("draining", .draining)]⟩

def name : Lifecycle → String
  | .idle => "idle"
  | .accumulating => "accumulating"
  | .dispatching => "dispatching"
  | .draining => "draining"

end Lifecycle

namespace Batcher

/-! ## Tasks -/

/-- A worker between two steps. -/
inductive Worker (α : Type) where
  | idle
  | submitting (e : Execution α)
  | backingOff (wait : Duration) (e : Execution α)
  | exited
  /-- The transport broke it down; the text is what is said of it to whoever waits for its end. -/
  | crashed (failure : String)

/-- Whether a worker still takes batches. -/
def Worker.isAlive {α : Type} : Worker α → Bool
  | .exited | .crashed _ => false
  | _ => true

inductive Dispatcher where
  | idle
  | calling (result : BatchResult)
  /-- It wakes the flushes, for nothing is in flight any more. -/
  | waking
  | exited

/-- A task that a shutdown waits for. -/
inductive Handle where
  | worker (index : Nat)
  | dispatcher
deriving DecidableEq, Repr

/-! ## Calls -/

abbrev CallOutcome := Except Error Unit

/-- What a call does once it has the pending list for itself. -/
inductive Task (α : Type) where
  | enqueue (items : List α)
  /-- It cuts what is left; then a shutdown goes on to close the queue. -/
  | flush (closing : Bool)
  | close

/-- What a call has left to do once the batch in its hand is in the queue. -/
inductive Rest (α : Type) where
  | enqueue (items : List α)
  /-- It waits for the batches in flight; then a shutdown goes on to close the queue. -/
  | flush (closing : Bool)

/-- Where a call stands. -/
inductive Phase (α : Type) where
  /-- It waits for the pending list. -/
  | queued (task : Task α)
  /-- It waits for room in the queue, with the pending list in hand and the rest of its task before
  it. -/
  | sending (batch : Batch α) (rest : Rest α)
  /-- It waits for nothing to be in flight. It has looked (`parked`) or is about to; and it may have
  been woken since it began to look. -/
  | draining (outcome : CallOutcome) (closing parked woken : Bool)
  /-- It has closed the queue and given the pending list back, and has yet to take the handles of
  the tasks. -/
  | collecting
  /-- It waits for the tasks to end, the first one first. -/
  | joining (handles : List Handle) (failures : List String)
  | returned (outcome : CallOutcome)
  | dropped

/-! ## States -/

structure State (α : Type) where
  config : BatcherConfig
  pending : List α := []
  /-- The number of the next batch. It has no bound here; a word of 64 bits would overflow after
  2^64 batches. -/
  nextSequence : Nat := 0
  closed : Bool := false
  handlesTaken : Bool := false
  /-- The batches that no worker has taken yet. -/
  queue : List (Batch α) := []
  workers : List (Worker α)
  /-- The results that the dispatcher has not taken yet. -/
  results : List BatchResult := []
  dispatcher : Dispatcher := .idle
  /-- The published number of pending items. -/
  published : Nat := 0
  inFlight : Nat := 0
  /-- The published number of flushes. -/
  drains : Nat := 0
  /-- The calls so far; a call is known by its place here. -/
  calls : List (Phase α) := []
  /-- The calls that queue for the pending list; the first one has it. -/
  lock : List Nat := []

namespace State

variable {α : Type}

def initial (config : BatcherConfig) : State α :=
  { config, workers := List.replicate config.poolSize.toNat .idle }

def lifecycle (s : State α) : Lifecycle :=
  if 0 < s.drains then .draining
  else if 0 < s.inFlight then .dispatching
  else if 0 < s.published then .accumulating
  else .idle

/-- Whether any worker still takes batches. -/
def isServed (s : State α) : Bool :=
  s.workers.any Worker.isAlive

/-- The handles of all tasks, the workers first. -/
def handles (s : State α) : List Handle :=
  (List.range s.workers.length).map .worker ++ [.dispatcher]

/-- Whether a call has the pending list for itself. -/
def holds (s : State α) (call : Nat) : Bool :=
  s.lock.head? == some call

end State

end Batcher

end BulkWrite
