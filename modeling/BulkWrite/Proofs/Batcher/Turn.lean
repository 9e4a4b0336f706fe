import Mathlib.Data.List.Basic
import BulkWrite.Batcher.Step

/-!
# Turns

What a single step can do, said once: a caller begins a call, or a call, a worker or the dispatcher
has a turn. A turn takes its actor from one point to the next and changes the rest of the batcher.
Main statement: every step is such a move (`State.move_of_step`). Later proofs go through the cases
of a turn and never open `State.step`.
-/

namespace BulkWrite.Batcher

variable {α : Type}

/-- What a call that was just begun waits to do. -/
def Request.task : Request α → Task α
  | .enqueue items => .enqueue items
  | .flush => .flush false
  | .shutdown => .flush true

/-- The flushes that a request publishes. -/
def Request.drains : Request α → Nat
  | .enqueue _ => 0
  | .flush | .shutdown => 1

/-- The flushes that a call publishes while it waits for the pending list. -/
def Task.drains : Task α → Nat
  | .flush _ => 1
  | .enqueue _ | .close => 0

/-- The flushes that a call publishes while it waits for room in the queue. -/
def Rest.drains : Rest α → Nat
  | .flush _ => 1
  | .enqueue _ => 0

/-! ## Turns of a call -/

/-- A call at a point is about to push items, the batcher being in a state: the call has got the
pending list, or the batch in its hand has gone into the queue. -/
inductive Pushing (s : State α) (call : Nat) : Phase α → State α → List α → Prop where
  | entered {items : List α} (holds : s.holds call) (isOpen : s.closed = false) :
      Pushing s call (.queued (.enqueue items)) s items
  | sent {batch : Batch α} {items : List α} (served : s.isServed)
      (room : s.queue.length < s.config.poolSize.toNat) :
      Pushing s call (.sending batch (.enqueue items)) { s with queue := s.queue ++ [batch] } items

/-- A label lets a call go from one point to another. The state is the one after the turn, but for
the point of the call itself. -/
inductive CallTurn (s : State α) (call : Nat) :
    Label α → Phase α → Phase α → State α → List (Event α) → Prop where
  | shutOut {items : List α} (holds : s.holds call) (closed : s.closed) :
      CallTurn s call (.advance call) (.queued (.enqueue items))
        (.returned (.error State.enqueueClosed)) (s.release call)
        [.returned call (.error State.enqueueClosed)]
  | pushed {phase : Phase α} {u : State α} {items : List α} (pushing : Pushing s call phase u items)
      (short : items.length < s.config.batchSize.toNat - s.pending.length) :
      CallTurn s call (.advance call) phase (.returned (.ok ()))
        (({ u with pending := s.pending ++ items }.publish).release call)
        [.pushed call items, .returned call (.ok ())]
  | filled {phase : Phase α} {u : State α} {items rest : List α}
      (pushing : Pushing s call phase u (items ++ rest))
      (full : items.length = s.config.batchSize.toNat - s.pending.length) :
      CallTurn s call (.advance call) phase
        (.sending ⟨s.nextSequence, s.pending ++ items⟩ (.enqueue rest))
        { u with pending := [], nextSequence := s.nextSequence + 1, inFlight := s.inFlight + 1 }
        [.pushed call items, .formed call ⟨s.nextSequence, s.pending ++ items⟩]
  | swept {closing : Bool} (holds : s.holds call) (empty : s.pending = []) :
      CallTurn s call (.advance call) (.queued (.flush closing))
        (.draining (.ok ()) closing false false) (s.release call) []
  | discarded {closing : Bool} (holds : s.holds call) (closed : s.closed)
      (nonempty : s.pending ≠ []) :
      CallTurn s call (.advance call) (.queued (.flush closing))
        (.draining (.error State.dispatchClosed) closing false false)
        (({ s with pending := [] }.publish).release call) [.discarded call s.pending]
  | cut {closing : Bool} (holds : s.holds call) (isOpen : s.closed = false)
      (nonempty : s.pending ≠ []) :
      CallTurn s call (.advance call) (.queued (.flush closing))
        (.sending ⟨s.nextSequence, s.pending⟩ (.flush closing))
        { s with pending := [], nextSequence := s.nextSequence + 1, inFlight := s.inFlight + 1 }
        [.formed call ⟨s.nextSequence, s.pending⟩]
  | closed (holds : s.holds call) (isOpen : s.closed = false) :
      CallTurn s call (.advance call) (.queued .close) .collecting
        ({ s with closed := true }.release call) [.closed call s.pending]
  | closedAgain (holds : s.holds call) (closed : s.closed) :
      CallTurn s call (.advance call) (.queued .close) .collecting
        ({ s with closed := true }.release call) []
  | collected (untaken : s.handlesTaken = false) :
      CallTurn s call (.advance call) .collecting (.joining s.handles [])
        { s with handlesTaken := true } [.collected call]
  | collectedAgain (handlesTaken : s.handlesTaken) :
      CallTurn s call (.advance call) .collecting (.joining [] []) s []
  | refusedPush {batch : Batch α} {items : List α} {calls : List (Phase α)}
      (unserved : s.isServed = false)
      (woken : calls = s.calls ∨ calls = s.calls.map State.wakeCall) :
      CallTurn s call (.advance call) (.sending batch (.enqueue items))
        (.returned (.error State.poolStopped))
        (({ s with inFlight := s.inFlight - 1, calls }.publish).release call)
        [.refused call batch, .returned call (.error State.poolStopped)]
  | refusedFlush {batch : Batch α} {closing : Bool} {calls : List (Phase α)}
      (unserved : s.isServed = false)
      (woken : calls = s.calls ∨ calls = s.calls.map State.wakeCall) :
      CallTurn s call (.advance call) (.sending batch (.flush closing))
        (.draining (.error State.poolStopped) closing false false)
        (({ s with inFlight := s.inFlight - 1, calls }.publish).release call)
        [.refused call batch]
  | sent {batch : Batch α} {closing : Bool} (served : s.isServed)
      (room : s.queue.length < s.config.poolSize.toNat) :
      CallTurn s call (.advance call) (.sending batch (.flush closing))
        (.draining (.ok ()) closing false false)
        (({ s with queue := s.queue ++ [batch] }.publish).release call) []
  | drained {woken : Bool} (idle : s.inFlight = 0) :
      CallTurn s call (.advance call) (.draining (.ok ()) true false woken) (.queued .close)
        { s.endDrain with lock := s.lock ++ [call] } [.flushed call (.ok ())]
  | flushed {outcome : CallOutcome} {closing woken : Bool} (idle : s.inFlight = 0)
      (last : closing = true → outcome ≠ .ok ()) :
      CallTurn s call (.advance call) (.draining outcome closing false woken) (.returned outcome)
        s.endDrain [.flushed call outcome, .returned call outcome]
  | parked {outcome : CallOutcome} {closing woken : Bool} (busy : s.inFlight ≠ 0) :
      CallTurn s call (.advance call) (.draining outcome closing false woken)
        (.draining outcome closing true woken) s []
  | unparked {outcome : CallOutcome} {closing : Bool} :
      CallTurn s call (.advance call) (.draining outcome closing true true)
        (.draining outcome closing false false) s []
  | joined {failures : List String} :
      CallTurn s call (.advance call) (.joining [] failures)
        (.returned (State.joined failures)) s [.returned call (State.joined failures)]
  | awaited {handle : Handle} {handles : List Handle} {failures : List String}
      {failure : Option String} (ended : s.ended? handle = some failure) :
      CallTurn s call (.advance call) (.joining (handle :: handles) failures)
        (.joining handles (failures ++ failure.toList)) s []
  | expired {handle : Handle} {handles : List Handle} {failures : List String} :
      CallTurn s call (.expire call) (.joining (handle :: handles) failures)
        (.joining handles (failures ++ ["join timeout"])) s []
  | leftList {task : Task α} :
      CallTurn s call (.cancel call) (.queued task) .dropped
        { s.release call with drains := s.drains - task.drains } []
  | abandoned {batch : Batch α} {rest : Rest α} :
      CallTurn s call (.cancel call) (.sending batch rest) .dropped
        { s.release call with drains := s.drains - rest.drains } [.abandoned call batch]
  | leftDrain {outcome : CallOutcome} {closing parked woken : Bool} :
      CallTurn s call (.cancel call) (.draining outcome closing parked woken) .dropped
        s.endDrain []
  | leftJoin {handles : List Handle} {failures : List String} :
      CallTurn s call (.cancel call) (.joining handles failures) .dropped s []

/-! ## Turns of a task -/

/-- A label lets a worker go from one point to another. The state is the one after the turn, but for
the point of the worker itself. -/
inductive WorkerTurn (s : State α) (worker : Nat) :
    Label α → Worker α → Worker α → State α → List (Event α) → Prop where
  | taken {batch : Batch α} {queue : List (Batch α)} (head : s.queue = batch :: queue) :
      WorkerTurn s worker (.take worker) .idle (.submitting (.start s.config.retry batch))
        { s with queue } [.taken worker batch, .submitted worker batch]
  | exited (empty : s.queue = []) (closed : s.closed) :
      WorkerTurn s worker (.take worker) .idle .exited s []
  | retried {e e' : Execution α} {reply : Reply} {wait : Duration}
      (next : e.next reply = .retry wait e') :
      WorkerTurn s worker (.reply worker reply) (.submitting e) (.backingOff wait e') s
        [.replied worker e.batch reply]
  | concluded {e : Execution α} {reply : Reply} {result : BatchResult}
      (next : e.next reply = .done result) :
      WorkerTurn s worker (.reply worker reply) (.submitting e) .idle
        { s with results := s.results ++ [result] } [.replied worker e.batch reply]
  | broken {e : Execution α} {failure : String}
      (served : (s.setWorker worker (.crashed failure)).isServed) :
      WorkerTurn s worker (.crash worker failure) (.submitting e) (.crashed failure) s
        [.broken worker e.batch]
  | brokenLast {e : Execution α} {failure : String}
      (unserved : (s.setWorker worker (.crashed failure)).isServed = false) :
      WorkerTurn s worker (.crash worker failure) (.submitting e) (.crashed failure)
        { s with queue := [] } (.broken worker e.batch :: s.queue.map .stranded)
  | resumed {wait : Duration} {e : Execution α} :
      WorkerTurn s worker (.resume worker) (.backingOff wait e) (.submitting e) s
        [.submitted worker e.batch]

/-- A label lets the dispatcher act. -/
inductive DispatcherTurn (s : State α) : Label α → State α → List (Event α) → Prop where
  | received {result : BatchResult} {results : List BatchResult} (idle : s.dispatcher = .idle)
      (head : s.results = result :: results) :
      DispatcherTurn s .receive { s with results, dispatcher := .calling result } [.called result]
  | stopped (idle : s.dispatcher = .idle) (empty : s.results = []) (unserved : s.isServed = false) :
      DispatcherTurn s .receive { s with dispatcher := .exited } []
  | finished {result : BatchResult} {next : Dispatcher} (calling : s.dispatcher = .calling result)
      (next_eq : next = .waking ∨ next = .idle) :
      DispatcherTurn s .finish { s with inFlight := s.inFlight - 1, dispatcher := next }
        [.finished result]
  | woken (waking : s.dispatcher = .waking) :
      DispatcherTurn s .wake { s.wakeCalls with dispatcher := .idle } []

/-! ## Moves -/

/-- A step as the turn of somebody. -/
inductive Move (s : State α) : Label α → State α → List (Event α) → Prop where
  | begun (request : Request α) :
      Move s (.begin request)
        { s with
          calls := s.calls ++ [.queued request.task]
          lock := s.lock ++ [s.calls.length]
          drains := s.drains + request.drains }
        [.began s.calls.length request]
  | call {call : Nat} {label : Label α} {phase next : Phase α} {u : State α}
      {events : List (Event α)} (at_phase : s.calls[call]? = some phase)
      (turn : CallTurn s call label phase next u events) :
      Move s label (u.setCall call next) events
  | worker {worker : Nat} {label : Label α} {w next : Worker α} {u : State α}
      {events : List (Event α)} (at_point : s.workers[worker]? = some w)
      (turn : WorkerTurn s worker label w next u events) :
      Move s label (u.setWorker worker next) events
  | dispatcher {label : Label α} {t : State α} {events : List (Event α)}
      (turn : DispatcherTurn s label t events) : Move s label t events

/-! ## What a turn leaves alone -/

namespace CallTurn

variable {s u : State α} {call : Nat} {label : Label α} {phase next : Phase α}
  {events : List (Event α)}

/-- The other calls stay where they are, but may be woken. -/
lemma calls_eq (turn : CallTurn s call label phase next u events) :
    u.calls = s.calls ∨ u.calls = s.calls.map State.wakeCall := by
  cases turn with
  | pushed pushing short => cases pushing <;> exact .inl rfl
  | filled pushing full => cases pushing <;> exact .inl rfl
  | refusedPush unserved woken | refusedFlush unserved woken => exact woken
  | _ => exact .inl rfl

lemma workers_eq (turn : CallTurn s call label phase next u events) : u.workers = s.workers := by
  cases turn with
  | pushed pushing short => cases pushing <;> rfl
  | filled pushing full => cases pushing <;> rfl
  | _ => rfl

lemma dispatcher_eq (turn : CallTurn s call label phase next u events) :
    u.dispatcher = s.dispatcher := by
  cases turn with
  | pushed pushing short => cases pushing <;> rfl
  | filled pushing full => cases pushing <;> rfl
  | _ => rfl

lemma results_eq (turn : CallTurn s call label phase next u events) : u.results = s.results := by
  cases turn with
  | pushed pushing short => cases pushing <;> rfl
  | filled pushing full => cases pushing <;> rfl
  | _ => rfl

lemma config_eq (turn : CallTurn s call label phase next u events) : u.config = s.config := by
  cases turn with
  | pushed pushing short => cases pushing <;> rfl
  | filled pushing full => cases pushing <;> rfl
  | _ => rfl

/-- A batch comes to the end of the queue from the hand of a call that is served. -/
lemma queue_eq (turn : CallTurn s call label phase next u events) :
    u.queue = s.queue ∨ ∃ batch rest, phase = .sending batch rest ∧ s.isServed = true ∧
      u.queue = s.queue ++ [batch] := by
  cases turn with
  | pushed pushing short =>
    cases pushing with
    | entered holds isOpen => exact .inl rfl
    | sent served room => exact .inr ⟨_, _, rfl, served, rfl⟩
  | filled pushing full =>
    cases pushing with
    | entered holds isOpen => exact .inl rfl
    | sent served room => exact .inr ⟨_, _, rfl, served, rfl⟩
  | sent served room => exact .inr ⟨_, _, rfl, served, rfl⟩
  | _ => exact .inl rfl

end CallTurn

namespace WorkerTurn

variable {s u : State α} {worker : Nat} {label : Label α} {w next : Worker α}
  {events : List (Event α)}

/-- The other workers stay where they are. -/
lemma workers_eq (turn : WorkerTurn s worker label w next u events) : u.workers = s.workers := by
  cases turn <;> rfl

lemma calls_eq (turn : WorkerTurn s worker label w next u events) : u.calls = s.calls := by
  cases turn <;> rfl

end WorkerTurn

/-- In its own turn, too, a call may be woken. -/
lemma State.phase_in_turn {s u : State α} {call : Nat} {phase : Phase α}
    (hcalls : u.calls = s.calls ∨ u.calls = s.calls.map wakeCall)
    (at_phase : s.calls[call]? = some phase) :
    ∃ old, u.calls[call]? = some old ∧ (old = phase ∨ old = wakeCall phase) := by
  rcases hcalls with hcalls | hcalls
  · exact ⟨phase, by rw [hcalls, at_phase], .inl rfl⟩
  · exact ⟨wakeCall phase, by rw [hcalls, List.getElem?_map, at_phase]; rfl, .inr rfl⟩

/-- The calls stay where they are, but may be woken. -/
lemma DispatcherTurn.calls_eq {s t : State α} {label : Label α} {events : List (Event α)}
    (turn : DispatcherTurn s label t events) :
    t.calls = s.calls ∨ t.calls = s.calls.map State.wakeCall := by
  cases turn with
  | woken waking => exact .inr rfl
  | _ => exact .inl rfl

/-- Moves leave the settings. -/
lemma Move.config_eq {s t : State α} {label : Label α} {events : List (Event α)}
    (move : Move s label t events) : t.config = s.config := by
  cases move with
  | begun request => rfl
  | call at_phase turn => exact turn.config_eq
  | worker at_point turn => cases turn <;> rfl
  | dispatcher turn => cases turn <;> rfl

/-- A closed batcher stays closed. -/
lemma Move.closed_of_closed {s t : State α} {label : Label α} {events : List (Event α)}
    (move : Move s label t events) (h : s.closed = true) : t.closed = true := by
  cases move with
  | begun request => exact h
  | call at_phase turn =>
    cases turn with
    | pushed pushing short => cases pushing <;> exact h
    | filled pushing full => cases pushing <;> exact h
    | closed | closedAgain => rfl
    | _ => exact h
  | worker at_point turn => cases turn <;> exact h
  | dispatcher turn => cases turn <;> exact h

/-! ## Every step is a move -/

lemma fill_of_short {batchSize : Nat} {pending items : List α}
    (short : items.length < batchSize - pending.length) :
    fill batchSize pending items = (pending ++ items, none, []) := by
  simp only [fill, if_pos short]

lemma fill_of_full {batchSize : Nat} {pending items rest : List α}
    (full : items.length = batchSize - pending.length) :
    fill batchSize pending (items ++ rest) = ([], some (pending ++ items), rest) := by
  have hroom : ¬(items ++ rest).length < batchSize - pending.length := by
    rw [List.length_append]
    omega
  rw [fill, if_neg hroom, ← full, List.take_left, List.drop_left]

namespace State

variable {s t : State α} {call : Nat} {events : List (Event α)}

lemma move_of_push {phase : Phase α} {u : State α} {items : List α}
    (at_phase : s.calls[call]? = some phase) (pushing : Pushing s call phase u items) :
    Move s (.advance call) (u.push call items).1 (u.push call items).2 := by
  have hpending : u.pending = s.pending := by cases pushing <;> rfl
  have hconfig : u.config = s.config := by cases pushing <;> rfl
  -- `push` looks only at the pending list and the settings, which are those of `s` in both cases
  by_cases short : items.length < s.config.batchSize.toNat - s.pending.length
  · have hfill := fill_of_short short
    rw [← hpending, ← hconfig] at hfill
    have hmove := Move.call at_phase (.pushed pushing short)
    simp only [push, hfill]
    cases pushing <;> exact hmove
  · -- the items divide into those that fill the batch and those that are left over
    obtain ⟨room, rest, rfl, full⟩ : ∃ room rest, items = room ++ rest ∧
        room.length = s.config.batchSize.toNat - s.pending.length := by
      refine ⟨_, _, (List.take_append_drop (s.config.batchSize.toNat - s.pending.length) items).symm,
        ?_⟩
      rw [List.length_take]
      omega
    have hfill : fill s.config.batchSize.toNat s.pending (room ++ rest) =
        ([], some (s.pending ++ room), rest) := fill_of_full full
    rw [← hpending, ← hconfig] at hfill
    have htake : (room ++ rest).take ((room ++ rest).length - rest.length) = room := by
      simp only [List.length_append, Nat.add_sub_cancel, List.take_left]
    have hmove := Move.call at_phase (.filled pushing full)
    simp only [push, hfill, htake]
    cases pushing <;> exact hmove

lemma move_of_enter {task : Task α} (at_phase : s.calls[call]? = some (.queued task))
    (holds : s.holds call) (h : s.enter call task = (t, events)) :
    Move s (.advance call) t events := by
  cases task with
  | enqueue items =>
    rw [enter] at h
    by_cases closed : s.closed
    · rw [if_pos closed] at h
      obtain ⟨rfl, rfl⟩ := Prod.mk.inj h
      exact .call at_phase (.shutOut holds closed)
    · rw [if_neg closed] at h
      have hmove := move_of_push at_phase (.entered holds (by simpa using closed))
      rwa [h] at hmove
  | flush closing =>
    rw [enter] at h
    by_cases empty : s.pending.isEmpty
    · rw [if_pos empty] at h
      obtain ⟨rfl, rfl⟩ := Prod.mk.inj h
      exact .call at_phase (.swept holds (by simpa using empty))
    · rw [if_neg empty] at h
      have nonempty : s.pending ≠ [] := by simpa using empty
      by_cases closed : s.closed
      · rw [if_pos closed] at h
        obtain ⟨rfl, rfl⟩ := Prod.mk.inj h
        exact .call at_phase (.discarded holds closed nonempty)
      · rw [if_neg closed] at h
        obtain ⟨rfl, rfl⟩ := Prod.mk.inj h
        exact .call at_phase (.cut holds (by simpa using closed) nonempty)
  | close =>
    obtain ⟨rfl, rfl⟩ := Prod.mk.inj h
    -- the second shutdown closes nothing, but takes the same way
    by_cases closed : s.closed
    · rw [if_pos closed]
      exact .call at_phase (.closedAgain holds closed)
    · rw [if_neg closed]
      exact .call at_phase (.closed holds (by simpa using closed))

lemma move_of_refused {batch : Batch α} {rest : Rest α}
    (at_phase : s.calls[call]? = some (.sending batch rest)) (unserved : s.isServed = false)
    (h : s.refused call batch rest = (t, events)) : Move s (.advance call) t events := by
  -- the last batch in flight wakes the flushes when it is refused
  by_cases last : s.inFlight - 1 = 0
  · cases rest with
    | enqueue items =>
      simp only [refused, last, ↓reduceIte] at h
      obtain ⟨rfl, rfl⟩ := Prod.mk.inj h
      have hmove := Move.call at_phase (.refusedPush unserved (.inr rfl))
      rwa [last] at hmove
    | flush closing =>
      simp only [refused, last, ↓reduceIte] at h
      obtain ⟨rfl, rfl⟩ := Prod.mk.inj h
      have hmove := Move.call at_phase (.refusedFlush unserved (.inr rfl))
      rwa [last] at hmove
  · cases rest with
    | enqueue items =>
      simp only [refused, last, ↓reduceIte] at h
      obtain ⟨rfl, rfl⟩ := Prod.mk.inj h
      exact .call at_phase (.refusedPush unserved (.inl rfl))
    | flush closing =>
      simp only [refused, last, ↓reduceIte] at h
      obtain ⟨rfl, rfl⟩ := Prod.mk.inj h
      exact .call at_phase (.refusedFlush unserved (.inl rfl))

lemma move_of_sending {batch : Batch α} {rest : Rest α}
    (at_phase : s.calls[call]? = some (.sending batch rest))
    (h : s.advance call (.sending batch rest) = some (t, events)) :
    Move s (.advance call) t events := by
  rw [advance] at h
  cases served : s.isServed with
  | false =>
    rw [served] at h
    exact move_of_refused at_phase served (Option.some.inj h)
  | true =>
    rw [served, if_neg (by simp)] at h
    by_cases room : s.queue.length < s.config.poolSize.toNat
    · rw [if_pos room] at h
      cases rest with
      | enqueue items =>
        have pushing : Pushing s call (.sending batch (.enqueue items))
            { s with queue := s.queue ++ [batch] } items := .sent served room
        have hmove := move_of_push at_phase pushing
        simp only [sent, Option.some.injEq] at h
        rwa [h] at hmove
      | flush closing =>
        obtain ⟨rfl, rfl⟩ := Prod.mk.inj (Option.some.inj h)
        exact .call at_phase (.sent served room)
    · rw [if_neg room] at h
      cases h

lemma move_of_drained {outcome : CallOutcome} {closing woken : Bool}
    (at_phase : s.calls[call]? = some (.draining outcome closing false woken))
    (idle : s.inFlight = 0) (h : s.drained call outcome closing = (t, events)) :
    Move s (.advance call) t events := by
  unfold drained at h
  split at h
  · obtain ⟨rfl, rfl⟩ := Prod.mk.inj h
    exact .call at_phase (.drained idle)
  · rename_i last
    obtain ⟨rfl, rfl⟩ := Prod.mk.inj h
    exact .call at_phase (.flushed idle (last ()))

lemma move_of_collect (at_phase : s.calls[call]? = some .collecting)
    (h : s.collect call = (t, events)) : Move s (.advance call) t events := by
  unfold collect at h
  by_cases handlesTaken : s.handlesTaken
  · rw [if_pos handlesTaken] at h
    obtain ⟨rfl, rfl⟩ := Prod.mk.inj h
    exact .call at_phase (.collectedAgain handlesTaken)
  · rw [if_neg handlesTaken] at h
    obtain ⟨rfl, rfl⟩ := Prod.mk.inj h
    exact .call at_phase (.collected (by simpa using handlesTaken))

lemma move_of_advance {phase : Phase α} (at_phase : s.calls[call]? = some phase)
    (h : s.advance call phase = some (t, events)) : Move s (.advance call) t events := by
  cases phase with
  | queued task =>
    rw [advance] at h
    by_cases holds : s.holds call
    · rw [if_pos holds] at h
      exact move_of_enter at_phase holds (Option.some.inj h)
    · rw [if_neg holds] at h
      cases h
  | sending batch rest => exact move_of_sending at_phase h
  | draining outcome closing parked woken =>
    -- a parked call goes on only when it was woken
    cases parked with
    | false =>
      rw [advance] at h
      by_cases idle : s.inFlight = 0
      · rw [if_pos idle] at h
        exact move_of_drained at_phase idle (Option.some.inj h)
      · rw [if_neg idle] at h
        obtain ⟨rfl, rfl⟩ := Prod.mk.inj (Option.some.inj h)
        exact .call at_phase (.parked idle)
    | true =>
      cases woken with
      | false => cases h
      | true =>
        obtain ⟨rfl, rfl⟩ := Prod.mk.inj (Option.some.inj h)
        exact .call at_phase .unparked
  | collecting => exact move_of_collect at_phase (Option.some.inj h)
  | joining handles failures =>
    cases handles with
    | nil =>
      obtain ⟨rfl, rfl⟩ := Prod.mk.inj (Option.some.inj h)
      exact .call at_phase .joined
    | cons handle handles =>
      obtain ⟨failure, ended, heq⟩ := Option.map_eq_some_iff.mp h
      obtain ⟨rfl, rfl⟩ := Prod.mk.inj heq
      exact .call at_phase (.awaited ended)
  | returned outcome => cases h
  | dropped => cases h

lemma move_of_cancel {phase : Phase α} (at_phase : s.calls[call]? = some phase)
    (h : s.cancel call phase = some (t, events)) : Move s (.cancel call) t events := by
  cases phase with
  | queued task =>
    cases task <;>
    · obtain ⟨rfl, rfl⟩ := Prod.mk.inj (Option.some.inj h)
      exact .call at_phase .leftList
  | sending batch rest =>
    cases rest <;>
    · obtain ⟨rfl, rfl⟩ := Prod.mk.inj (Option.some.inj h)
      exact .call at_phase .abandoned
  | draining outcome closing parked woken =>
    obtain ⟨rfl, rfl⟩ := Prod.mk.inj (Option.some.inj h)
    exact .call at_phase .leftDrain
  | joining handles failures =>
    obtain ⟨rfl, rfl⟩ := Prod.mk.inj (Option.some.inj h)
    exact .call at_phase .leftJoin
  | collecting => cases h
  | returned outcome => cases h
  | dropped => cases h

lemma begin_eq (s : State α) (request : Request α) :
    s.begin request =
      { s with
        calls := s.calls ++ [.queued request.task]
        lock := s.lock ++ [s.calls.length]
        drains := s.drains + request.drains } := by
  have hset (phase : Phase α) :
      (s.calls ++ [Phase.dropped]).set s.calls.length phase = s.calls ++ [phase] := by
    rw [List.set_append_right _ _ (Nat.le_refl _), Nat.sub_self, List.set_cons_zero]
  cases request <;> simp only [begin, enlist, setCall, hset] <;> rfl

lemma move_of_take {worker : Nat} (at_point : s.workers[worker]? = some .idle)
    (h : s.take worker = some (t, events)) : Move s (.take worker) t events := by
  unfold take at h
  split at h
  · rename_i batch queue head
    obtain ⟨rfl, rfl⟩ := Prod.mk.inj (Option.some.inj h)
    exact .worker at_point (.taken head)
  · rename_i empty
    by_cases closed : s.closed
    · rw [if_pos closed] at h
      obtain ⟨rfl, rfl⟩ := Prod.mk.inj (Option.some.inj h)
      exact .worker at_point (.exited empty closed)
    · rw [if_neg closed] at h
      cases h

lemma move_of_reply {worker : Nat} {e : Execution α} (reply : Reply)
    (at_point : s.workers[worker]? = some (.submitting e)) :
    Move s (.reply worker reply) (s.reply worker e reply) [.replied worker e.batch reply] := by
  unfold State.reply
  split
  · rename_i next
    exact .worker at_point (.retried next)
  · rename_i next
    exact .worker at_point (.concluded next)

lemma move_of_crash {worker : Nat} {e : Execution α} {failure : String}
    (at_point : s.workers[worker]? = some (.submitting e))
    (h : s.crash worker e failure = (t, events)) : Move s (.crash worker failure) t events := by
  unfold crash at h
  by_cases served : (s.setWorker worker (.crashed failure)).isServed
  · rw [if_pos served] at h
    obtain ⟨rfl, rfl⟩ := Prod.mk.inj h
    exact .worker at_point (.broken served)
  · rw [if_neg served] at h
    obtain ⟨rfl, rfl⟩ := Prod.mk.inj h
    exact .worker at_point (.brokenLast (by simpa using served))

lemma move_of_receive (idle : s.dispatcher = .idle) (h : s.receive = some (t, events)) :
    Move s .receive t events := by
  unfold receive at h
  split at h
  · rename_i result results head
    obtain ⟨rfl, rfl⟩ := Prod.mk.inj (Option.some.inj h)
    exact .dispatcher (.received idle head)
  · rename_i empty
    by_cases served : s.isServed
    · rw [if_pos served] at h
      cases h
    · rw [if_neg served] at h
      obtain ⟨rfl, rfl⟩ := Prod.mk.inj (Option.some.inj h)
      exact .dispatcher (.stopped idle empty (by simpa using served))

/-- Every step is a move. -/
theorem move_of_step {label : Label α} (h : s.step label = some (t, events)) :
    Move s label t events := by
  cases label with
  | begin request =>
    obtain ⟨rfl, rfl⟩ := Prod.mk.inj (Option.some.inj h)
    rw [begin_eq]
    exact .begun request
  | advance call =>
    obtain ⟨phase, at_phase, h⟩ := Option.bind_eq_some_iff.mp h
    exact move_of_advance at_phase h
  | cancel call =>
    obtain ⟨phase, at_phase, h⟩ := Option.bind_eq_some_iff.mp h
    exact move_of_cancel at_phase h
  | expire call =>
    rw [step] at h
    split at h
    · rename_i at_phase
      split at h
      · cases h
      · obtain ⟨rfl, rfl⟩ := Prod.mk.inj (Option.some.inj h)
        exact .call at_phase .expired
    · cases h
  | take worker =>
    rw [step] at h
    split at h
    · rename_i at_point
      exact move_of_take at_point h
    · cases h
  | reply worker reply =>
    rw [step] at h
    split at h
    · rename_i at_point
      obtain ⟨rfl, rfl⟩ := Prod.mk.inj (Option.some.inj h)
      exact move_of_reply reply at_point
    · cases h
  | crash worker failure =>
    rw [step] at h
    split at h
    · rename_i at_point
      exact move_of_crash at_point (Option.some.inj h)
    · cases h
  | resume worker =>
    rw [step] at h
    split at h
    · rename_i at_point
      obtain ⟨rfl, rfl⟩ := Prod.mk.inj (Option.some.inj h)
      exact .worker at_point .resumed
    · cases h
  | receive =>
    rw [step] at h
    split at h
    · rename_i idle
      exact move_of_receive idle h
    · cases h
  | finish =>
    rw [step] at h
    split at h
    · rename_i calling
      obtain ⟨rfl, rfl⟩ := Prod.mk.inj (Option.some.inj h)
      refine .dispatcher (.finished calling ?_)
      split <;> simp
    · cases h
  | wake =>
    rw [step] at h
    split at h
    · rename_i waking
      obtain ⟨rfl, rfl⟩ := Prod.mk.inj (Option.some.inj h)
      exact .dispatcher (.woken waking)
    · cases h

end State

end BulkWrite.Batcher
