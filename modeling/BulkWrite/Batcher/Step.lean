import BulkWrite.Batcher.State

/-!
# Steps of a batcher

A step takes a call, a worker or the dispatcher from one point where it may wait to the next one, or
lets the surroundings act: a caller begins or drops a call, the transport answers, a wait ends.
`State.step` gives the state after a step, or nothing if the step is not possible, together with the
events that the step brings about.
-/

namespace BulkWrite.Batcher

/-- What a caller asks for. -/
inductive Request (α : Type) where
  | enqueue (items : List α)
  | flush
  | shutdown

inductive Label (α : Type) where
  | begin (request : Request α)
  /-- A call goes on. -/
  | advance (call : Nat)
  | cancel (call : Nat)
  /-- A shutdown no longer waits for the first of its tasks. -/
  | expire (call : Nat)
  /-- An idle worker takes a batch, or comes to its end. -/
  | take (worker : Nat)
  | reply (worker : Nat) (reply : Reply)
  /-- The transport breaks a worker down; the text is what the runtime says of it. -/
  | crash (worker : Nat) (failure : String)
  /-- The wait of a worker ends. -/
  | resume (worker : Nat)
  /-- The dispatcher takes a result and calls back, or comes to its end. -/
  | receive
  /-- The callback is over, whether it returned or broke down. -/
  | finish
  | wake

/-- What a step brings about. -/
inductive Event (α : Type) where
  | began (call : Nat) (request : Request α)
  | pushed (call : Nat) (items : List α)
  | formed (call : Nat) (batch : Batch α)
  /-- No worker was left for the batch of a call. -/
  | refused (call : Nat) (batch : Batch α)
  /-- A caller dropped a call that had a batch in hand. -/
  | abandoned (call : Nat) (batch : Batch α)
  /-- A flush cut items after the queue was closed. -/
  | discarded (call : Nat) (items : List α)
  /-- A flush was over, whether called directly or by a shutdown. -/
  | flushed (call : Nat) (outcome : CallOutcome)
  /-- A shutdown closed the queue while these items were pending. -/
  | closed (call : Nat) (pending : List α)
  /-- A shutdown took the handles of the tasks. -/
  | collected (call : Nat)
  | taken (worker : Nat) (batch : Batch α)
  | submitted (worker : Nat) (batch : Batch α)
  | replied (worker : Nat) (batch : Batch α) (reply : Reply)
  /-- The transport broke a worker down that had submitted a batch. -/
  | broken (worker : Nat) (batch : Batch α)
  /-- A batch was in the queue when the last worker broke down. -/
  | stranded (batch : Batch α)
  | called (result : BatchResult)
  | finished (result : BatchResult)
  | returned (call : Nat) (outcome : CallOutcome)

/-- Pushes items to a pending list until a batch is full: the list, the full batch if there is one,
and the items that were not pushed. -/
def fill {α : Type} (batchSize : Nat) (pending items : List α) :
    List α × Option (List α) × List α :=
  let room := batchSize - pending.length
  if items.length < room then (pending ++ items, none, [])
  else ([], some (pending ++ items.take room), items.drop room)

namespace State

variable {α : Type}

/-! ## Calls -/

def setCall (s : State α) (call : Nat) (phase : Phase α) : State α :=
  { s with calls := s.calls.set call phase }

def setWorker (s : State α) (worker : Nat) (w : Worker α) : State α :=
  { s with workers := s.workers.set worker w }

/-- A call no longer queues for the pending list. -/
def release (s : State α) (call : Nat) : State α :=
  { s with lock := s.lock.erase call }

def enlist (s : State α) (call : Nat) (task : Task α) : State α :=
  { s.setCall call (.queued task) with lock := s.lock ++ [call] }

def publish (s : State α) : State α :=
  { s with published := s.pending.length }

def endDrain (s : State α) : State α :=
  { s with drains := s.drains - 1 }

def wakeCall : Phase α → Phase α
  | .draining outcome closing parked _ => .draining outcome closing parked true
  | phase => phase

/-- Wakes all calls that wait for nothing to be in flight. -/
def wakeCalls (s : State α) : State α :=
  { s with calls := s.calls.map wakeCall }

def finishCall (s : State α) (call : Nat) (outcome : CallOutcome) : State α × List (Event α) :=
  (s.setCall call (.returned outcome), [.returned call outcome])

/-- A call cuts a batch from the pending list, and waits for room in the queue. -/
def form (s : State α) (call : Nat) (items : List α) (rest : Rest α) : State α × List (Event α) :=
  let batch : Batch α := ⟨s.nextSequence, items⟩
  ({ s with nextSequence := s.nextSequence + 1, inFlight := s.inFlight + 1 }.setCall call
      (.sending batch rest), [.formed call batch])

/-- A call that has the pending list pushes items, up to the first full batch. -/
def push (s : State α) (call : Nat) (items : List α) : State α × List (Event α) :=
  match fill s.config.batchSize.toNat s.pending items with
  | (pending, none, _) =>
    let (s, events) := ({ s with pending }.publish.release call).finishCall call (.ok ())
    (s, .pushed call items :: events)
  | (pending, some full, rest) =>
    let (s, events) := { s with pending }.form call full (.enqueue rest)
    (s, .pushed call (items.take (items.length - rest.length)) :: events)

/-- A flush gives the pending list back and begins to wait for nothing to be in flight. -/
def drain (s : State α) (call : Nat) (outcome : CallOutcome) (closing : Bool) : State α :=
  (s.release call).setCall call (.draining outcome closing false false)

def enqueueClosed : Error := .shutdown "enqueue after shutdown"

def dispatchClosed : Error := .shutdown "dispatch after shutdown"

/-- The error of a call that hands a batch to a batcher without workers. -/
def poolStopped : Error := .shutdown "worker pool stopped"

/-- A call has got the pending list. -/
def enter (s : State α) (call : Nat) : Task α → State α × List (Event α)
  | .enqueue items =>
    if s.closed then (s.release call).finishCall call (.error enqueueClosed)
    else s.push call items
  | .flush closing =>
    if s.pending.isEmpty then (s.drain call (.ok ()) closing, [])
    else if s.closed then
      (({ s with pending := [] }.publish).drain call (.error dispatchClosed) closing,
        [.discarded call s.pending])
    else { s with pending := [] }.form call s.pending (.flush closing)
  | .close =>
    (({ s with closed := true }.release call).setCall call .collecting,
      if s.closed then [] else [.closed call s.pending])

/-- The batch of a call is in the queue, and the call goes on with its task. -/
def sent (s : State α) (call : Nat) : Rest α → State α × List (Event α)
  | .enqueue items => s.push call items
  | .flush closing => (s.publish.drain call (.ok ()) closing, [])

/-- No worker is left for the batch of a call. The batch does not stay in flight. -/
def refused (s : State α) (call : Nat) (batch : Batch α) (rest : Rest α) :
    State α × List (Event α) :=
  let s := { s with inFlight := s.inFlight - 1 }
  let s := (if s.inFlight = 0 then s.wakeCalls else s).publish
  match rest with
  | .flush closing => (s.drain call (.error poolStopped) closing, [.refused call batch])
  | .enqueue _ =>
    let (s, events) := (s.release call).finishCall call (.error poolStopped)
    (s, .refused call batch :: events)

/-- Nothing is in flight: a flush returns, and a shutdown whose flush succeeded goes on. -/
def drained (s : State α) (call : Nat) (outcome : CallOutcome) (closing : Bool) :
    State α × List (Event α) :=
  match closing, outcome with
  | true, .ok _ => (s.endDrain.enlist call .close, [.flushed call outcome])
  | _, _ =>
    let (s, events) := s.endDrain.finishCall call outcome
    (s, .flushed call outcome :: events)

/-- A shutdown takes the handles of the tasks. They are there for one shutdown only: another one
that closes the queue at the same time may come first, and then none are left to wait for. -/
def collect (s : State α) (call : Nat) : State α × List (Event α) :=
  if s.handlesTaken then (s.setCall call (.joining [] []), [])
  else ({ s with handlesTaken := true }.setCall call (.joining s.handles []), [.collected call])

/-- How a task ended, if it did; the failure is the text of it. -/
def ended? (s : State α) : Handle → Option (Option String)
  | .worker index =>
    match s.workers[index]? with
    | some .exited => some none
    | some (.crashed failure) => some (some failure)
    | _ => none
  | .dispatcher =>
    match s.dispatcher with
    | .exited => some none
    | _ => none

def joined : List String → CallOutcome
  | [] => .ok ()
  | failures => .error (.internal ("; ".intercalate failures))

/-- A call goes on from where it waits, if it can. -/
def advance (s : State α) (call : Nat) : Phase α → Option (State α × List (Event α))
  | .queued task => if s.holds call then some (s.enter call task) else none
  | .sending batch rest =>
    if !s.isServed then some (s.refused call batch rest)
    else if s.queue.length < s.config.poolSize.toNat then
      some ({ s with queue := s.queue ++ [batch] }.sent call rest)
    else none
  | .draining outcome closing false woken =>
    if s.inFlight = 0 then some (s.drained call outcome closing)
    else some (s.setCall call (.draining outcome closing true woken), [])
  | .draining outcome closing true true =>
    some (s.setCall call (.draining outcome closing false false), [])
  | .draining _ _ true false => none
  | .collecting => some (s.collect call)
  | .joining [] failures => some (s.finishCall call (joined failures))
  | .joining (handle :: handles) failures =>
    (s.ended? handle).map fun failure =>
      (s.setCall call (.joining handles (failures ++ failure.toList)), [])
  | .returned _ | .dropped => none

/-- A caller drops a call. A batch that it had in hand is lost, but stays in flight. Between closing
the queue and taking the handles a call does not wait, so it cannot be dropped there. -/
def cancel (s : State α) (call : Nat) : Phase α → Option (State α × List (Event α))
  | .queued (.flush _) => some ((s.release call).endDrain.setCall call .dropped, [])
  | .queued _ => some ((s.release call).setCall call .dropped, [])
  | .sending batch (.flush _) =>
    some ((s.release call).endDrain.setCall call .dropped, [.abandoned call batch])
  | .sending batch (.enqueue _) =>
    some ((s.release call).setCall call .dropped, [.abandoned call batch])
  | .draining _ _ _ _ => some (s.endDrain.setCall call .dropped, [])
  | .joining _ _ => some (s.setCall call .dropped, [])
  | .collecting | .returned _ | .dropped => none

def begin (s : State α) (request : Request α) : State α :=
  let call := s.calls.length
  let s := { s with calls := s.calls ++ [Phase.dropped] }
  match request with
  | .enqueue items => s.enlist call (.enqueue items)
  | .flush => { s with drains := s.drains + 1 }.enlist call (.flush false)
  | .shutdown => { s with drains := s.drains + 1 }.enlist call (.flush true)

/-! ## Tasks -/

/-- An idle worker takes the next batch, or comes to its end if there will be none. -/
def take (s : State α) (worker : Nat) : Option (State α × List (Event α)) :=
  match s.queue with
  | batch :: queue =>
    some ({ s with queue }.setWorker worker (.submitting (.start s.config.retry batch)),
      [.taken worker batch, .submitted worker batch])
  | [] => if s.closed then some (s.setWorker worker .exited, []) else none

def reply (s : State α) (worker : Nat) (e : Execution α) (reply : Reply) : State α :=
  match e.next reply with
  | .retry wait e => s.setWorker worker (.backingOff wait e)
  | .done result => { s with results := s.results ++ [result] }.setWorker worker .idle

/-- A worker breaks down; with the last one the batches that queue are lost. -/
def crash (s : State α) (worker : Nat) (e : Execution α) (failure : String) :
    State α × List (Event α) :=
  let s := s.setWorker worker (.crashed failure)
  if s.isServed then (s, [.broken worker e.batch])
  else ({ s with queue := [] }, .broken worker e.batch :: s.queue.map .stranded)

/-- The dispatcher takes the next result, or comes to its end if there will be none. -/
def receive (s : State α) : Option (State α × List (Event α)) :=
  match s.results with
  | result :: results => some ({ s with results, dispatcher := .calling result }, [.called result])
  | [] => if s.isServed then none else some ({ s with dispatcher := .exited }, [])

/-- The batch of a result is no longer in flight. -/
def finish (s : State α) (result : BatchResult) : State α × List (Event α) :=
  let inFlight := s.inFlight - 1
  ({ s with inFlight, dispatcher := if inFlight = 0 then .waking else .idle }, [.finished result])

/-! ## Steps -/

/-- The state after a step and what the step brings about, if the step is possible. -/
def step (s : State α) : Label α → Option (State α × List (Event α))
  | .begin request => some (s.begin request, [.began s.calls.length request])
  | .advance call => s.calls[call]?.bind fun phase => s.advance call phase
  | .cancel call => s.calls[call]?.bind fun phase => s.cancel call phase
  | .expire call =>
    match s.calls[call]? with
    | some (.joining (handle :: handles) failures) =>
      if (s.ended? handle).isSome then none
      else some (s.setCall call (.joining handles (failures ++ ["join timeout"])), [])
    | _ => none
  | .take worker =>
    match s.workers[worker]? with
    | some .idle => s.take worker
    | _ => none
  | .reply worker reply =>
    match s.workers[worker]? with
    | some (.submitting e) => some (s.reply worker e reply, [.replied worker e.batch reply])
    | _ => none
  | .crash worker failure =>
    match s.workers[worker]? with
    | some (.submitting e) => some (s.crash worker e failure)
    | _ => none
  | .resume worker =>
    match s.workers[worker]? with
    | some (.backingOff _ e) =>
      some (s.setWorker worker (.submitting e), [.submitted worker e.batch])
    | _ => none
  | .receive =>
    match s.dispatcher with
    | .idle => s.receive
    | _ => none
  | .finish =>
    match s.dispatcher with
    | .calling result => some (s.finish result)
    | _ => none
  | .wake =>
    match s.dispatcher with
    | .waking => some ({ s.wakeCalls with dispatcher := .idle }, [])
    | _ => none

end State

/-! ## Runs -/

def Label.isCancel {α : Type} : Label α → Bool
  | .cancel _ => true
  | _ => false

def Label.isCrash {α : Type} : Label α → Bool
  | .crash _ _ => true
  | _ => false

/-- The steps `labels` take a batcher that was just started to a state, and bring about the events
of a history, the latest last. -/
inductive Runs {α : Type} (config : BatcherConfig) :
    List (Label α) → State α → List (Event α) → Prop where
  | start : Runs config [] (.initial config) []
  | step {labels : List (Label α)} {s t : State α} {label : Label α}
      {history events : List (Event α)} :
      Runs config labels s history → s.step label = some (t, events) →
      Runs config (labels ++ [label]) t (history ++ events)

end BulkWrite.Batcher
