import BulkWrite.Execution
import BulkWrite.Store.Basic
import BulkWrite.Store.Message

/-!
# Submissions over HTTP

A submission sends the requests of a batch, one after the other, and ends with the first fault. All
objects or references of a batch make one request; every filtered delete makes its own, so deletes
that were carried out before a fault are carried out again by another attempt.

The requests of a run are counted from 0, and `exchange k` is what becomes of the `k`-th.
-/

namespace BulkWrite

/-- The requests of a submission that were sent, and the reply. -/
structure Submission where
  requests : List Http.Request
  reply : Reply

namespace Store

def unexpectedBody (cause : Cause) : Fault :=
  (Fault.decode s!"unexpected response body: {cause.message Layout.double}").bounded

def decodeBody {β : Type} (d : Decoder β) (body : String) : Except Fault β :=
  (Decoder.decodeText d body).mapError unexpectedBody

def answer {β : Type} (d : Decoder β) (request : Http.Request) (x : Http.Exchange) :
    Except Fault β :=
  (x.body request.url).bind (decodeBody d)

/-! ## Objects and references -/

/-- The submission of items that make one request with the given body. -/
def submitTogether {α : Type} [Item α] (s : Store) (url : Url) (body : Json) (items : List α)
    (x : Http.Exchange) : Submission :=
  match s.client.request "POST" url (s.queryFields none) (some body) with
  | .error failure => ⟨[], .error failure.toFault⟩
  | .ok request => ⟨[request], (answer (.list Entry.decoder) request x).bind (correlate items)⟩

/-! ## Deletes -/

def deleteRequest (s : Store) (d : DeleteItem) : Except Http.Failure Http.Request :=
  s.client.request "DELETE" s.objectsUrl (s.queryFields d.tenant) (some d.message)

/-- The submission of filtered deletes, of which the first one makes request `k`. -/
def submitDeletes (s : Store) (exchange : Nat → Http.Exchange) : List DeleteItem → Nat → Submission
  | [], _ => ⟨[], .ok []⟩
  | d :: ds, k =>
    match s.deleteRequest d with
    | .error failure => ⟨[], .error failure.toFault⟩
    | .ok request =>
      match answer DeleteSummary.answer request (exchange k) with
      | .error fault => ⟨[request], .error fault⟩
      | .ok summary =>
        let rest := submitDeletes s exchange ds (k + 1)
        ⟨request :: rest.requests, rest.reply.map (summary.outcome d.id :: ·)⟩

end Store

/-! ## Batches -/

class Writable (α : Type) extends Item α where
  submit : Store → List α → (Nat → Http.Exchange) → Submission

instance : Writable ObjectItem :=
  ⟨fun s items exchange =>
    s.submitTogether s.objectsUrl (ObjectItem.message items) items (exchange 0)⟩

instance : Writable ReferenceItem :=
  ⟨fun s items exchange =>
    s.submitTogether s.referencesUrl (ReferenceItem.message items) items (exchange 0)⟩

instance : Writable DeleteItem :=
  ⟨fun s items exchange => s.submitDeletes exchange items 0⟩

namespace Store

variable {α : Type} [Writable α]

def submit (s : Store) (batch : Batch α) (exchange : Nat → Http.Exchange) : Submission :=
  Writable.submit s batch.items exchange

/-- How many requests the submissions before the `k`-th one send. -/
def sentBefore (s : Store) (batch : Batch α) (exchange : Nat → Http.Exchange) : Nat → Nat
  | 0 => 0
  | k + 1 =>
    let n := sentBefore s batch exchange k
    n + (s.submit batch fun i => exchange (n + i)).requests.length

/-- The `k`-th submission of a batch, the first one being the 0-th. -/
def attempt (s : Store) (batch : Batch α) (exchange : Nat → Http.Exchange) (k : Nat) : Submission :=
  s.submit batch fun i => exchange (s.sentBefore batch exchange k + i)

/-- Executes a batch. -/
def execute (s : Store) (policy : RetryPolicy) (batch : Batch α) (exchange : Nat → Http.Exchange) :
    Execution.Run :=
  Execution.run policy batch fun k => (s.attempt batch exchange k).reply

/-- The requests that the first submissions of a batch send. -/
def sent (s : Store) (batch : Batch α) (exchange : Nat → Http.Exchange) (submissions : Nat) :
    List Http.Request :=
  (List.range submissions).flatMap fun k => (s.attempt batch exchange k).requests

end Store

end BulkWrite
