import BulkWrite.Attempt
import BulkWrite.Batch
import BulkWrite.Retry.Budget

/-!
# Execution of one batch

A batch is submitted until there is a response, a fatal fault, or no retry left for the class of the
fault. Each attempt submits the same batch. `Execution.next` is one round of this loop, from the
reply to an attempt to the wait before the next one or the result; `Execution.run` takes all rounds
at once.

The retries that are left bound the rounds: every wait spends one (`RetryBudget.left_spend_lt`).
-/

namespace BulkWrite

/-- A batch of which an attempt is under way, that many being counted by the statistics. -/
structure Execution (α : Type) where
  batch : Batch α
  budget : RetryBudget
  stats : AttemptStats

namespace Execution

variable {α : Type}

inductive Next (α : Type) where
  /-- Another attempt after a wait. -/
  | retry (wait : Duration) (e : Execution α)
  | done (result : BatchResult)

def start (policy : RetryPolicy) (batch : Batch α) : Execution α :=
  ⟨batch, { policy }, { attempts := 1 }⟩

/-- The result that ends with a response. -/
def succeed (e : Execution α) (items : List ItemResult) : BatchResult :=
  ⟨e.batch.sequence, items, none, e.stats⟩

def fail (e : Execution α) (fault : Fault) : BatchResult :=
  ⟨e.batch.sequence, [], some fault, e.stats⟩

/-- The attempt after a wait. -/
def again (e : Execution α) (budget : RetryBudget) (wait : Duration) : Execution α :=
  { e with
    budget
    stats :=
      { attempts := RetryPolicy.saturatingAdd e.stats.attempts 1
        connectionRetries := budget.connectionRetries
        timeoutRetries := budget.timeoutRetries
        waited := e.stats.waited.add wait } }

/-- What follows the reply to an attempt. -/
def next (e : Execution α) (reply : Reply) : Next α :=
  match Outcome.ofReply e.batch.items.length reply with
  | .response items => .done (e.succeed items)
  | .fault cls fault =>
    match e.budget.spend cls with
    | (some wait, budget) => .retry wait (e.again budget wait)
    | (none, _) => .done (e.fail fault)

/-- An attempt after a wait has fewer retries left. -/
theorem left_lt_of_next {e e' : Execution α} {reply : Reply} {wait : Duration}
    (h : e.next reply = .retry wait e') : e'.budget.left < e.budget.left := by
  unfold next at h
  split at h
  · simp at h
  · split at h
    · rename_i budget hb
      obtain ⟨-, rfl⟩ := Next.retry.inj h
      exact RetryBudget.left_spend_lt hb
    · simp at h

/-! ## All rounds -/

/-- What became of a batch: the waits between its submissions, and its result. -/
structure Run where
  submissions : Nat
  waits : List Duration
  result : BatchResult

/-- The rounds from an attempt on, the replies being counted by `k`. -/
def rounds (e : Execution α) (reply : Nat → Reply) (k : Nat) : List Duration × BatchResult :=
  match _h : e.next (reply k) with
  | .done result => ([], result)
  | .retry wait e' =>
    let (waits, result) := rounds e' reply (k + 1)
    (wait :: waits, result)
termination_by e.budget.left
decreasing_by exact left_lt_of_next _h

/-- Executes a batch, where `reply k` answers the `k`-th submission, counted from 0. A batch without
items is not submitted. -/
def run (policy : RetryPolicy) (batch : Batch α) (reply : Nat → Reply) : Run :=
  if batch.items.isEmpty then ⟨0, [], { sequence := batch.sequence }⟩
  else
    let (waits, result) := rounds (start policy batch) reply 0
    ⟨waits.length + 1, waits, result⟩

/-- When the submissions of a run start and when its last one is answered, if the first one starts
at `now` and the `k`-th one takes `latency k`, all in milliseconds.

This stands for the sleeps of the runtime, which wakes a task at the first whole millisecond that is
not before its time. `Simulation.World` keeps a clock of its own that rounds waits in the same way;
no statement relates the two. -/
def schedule (latency : Nat → Nat) : (k now : Nat) → List Duration → List Nat × Nat
  | k, now, [] => ([now], now + latency k)
  | k, now, wait :: waits =>
    let (starts, finish) := schedule latency (k + 1) (now + latency k + wait.millisCeil) waits
    (now :: starts, finish)

/-- When the submissions of a run start and when it is over. -/
def Run.times (r : Run) (latency : Nat → Nat) : List Nat × Nat :=
  if r.submissions = 0 then ([], 0) else schedule latency 0 0 r.waits

end Execution

end BulkWrite
