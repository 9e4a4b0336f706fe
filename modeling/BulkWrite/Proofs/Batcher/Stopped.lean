import BulkWrite.Proofs.Batcher.Loss

/-!
# What a shutdown has stopped

One shutdown takes the handles of all tasks, and returns when these have come to their end. A
shutdown that comes to take them after that finds none and returns at once. Main statement, for any
number of shutdowns: from the return of each one on, every call that pushes items is turned away, and
the batches formed before its own flush was over are delivered; and if it is the one that took the
handles, all batches are delivered and no task does anything any more (`Runs.stopped_of_shutdown`).
The others may return while a batch still waits for a worker (`not_all_stopped`).
-/

namespace BulkWrite.Batcher

open History

variable {α : Type} {config : BatcherConfig} {labels : List (Label α)} {s t u : State α}
  {history events before after : List (Event α)} {call : Nat} {label : Label α}
  {phase next : Phase α} {left : List α}

/-! ## Calls that come too late -/

/-- Where a call that pushes items can be. -/
lemma Phase.Serves.of_enqueue {items pushed : List α} (h : phase.Serves (.enqueue items) pushed) :
    phase = .queued (.enqueue items) ∨ (∃ batch rest, phase = .sending batch rest) ∨
      phase.IsOver := by
  cases phase with
  | queued task =>
    cases task with
    | enqueue items' =>
      obtain ⟨heq, -⟩ := h
      exact .inl (by rw [Request.enqueue.inj heq])
    | flush closing => cases closing <;> cases h.1
    | close => cases h.1
  | sending batch rest => exact .inr (.inl ⟨batch, rest, rfl⟩)
  | draining outcome closing parked woken => cases closing <;> cases h.1
  | collecting | joining => cases h.1
  | returned outcome | dropped => exact .inr (.inr trivial)

/-- Once the queue is closed, a call that pushes items is turned away in its turn. -/
lemma CallTurn.shutOut_of_closed (turn : CallTurn s call label phase next u events)
    (hlocked : Locked s) (at_phase : s.calls[call]? = some phase) (hclosed : s.closed = true)
    {items pushed : List α} (hserves : phase.Serves (.enqueue items) pushed) :
    next = .dropped ∨ next = .returned (.error State.enqueueClosed) ∧ u = s.release call ∧
      events = [.returned call (.error State.enqueueClosed)] := by
  rcases hserves.of_enqueue with rfl | ⟨batch, rest, rfl⟩ | hover
  · have hentered (hopen : s.closed = false) : False := by
      rw [hopen] at hclosed
      cases hclosed
    cases turn with
    | shutOut holds closed => exact .inr ⟨rfl, rfl, rfl⟩
    | pushed pushing short =>
      cases pushing with
      | entered holds isOpen => exact (hentered isOpen).elim
    | filled pushing full =>
      cases pushing with
      | entered holds isOpen => exact (hentered isOpen).elim
    | leftList => exact .inl rfl
  · -- nobody has a batch in hand any more
    rw [hlocked.sender_open at_phase] at hclosed
    cases hclosed
  · exact absurd hover turn.not_isOver

/-- A call that goes on once the queue is closed, to push items, is turned away and changes neither
the pending list nor the counters. -/
lemma Runs.shutOut_of_closed (hrun : Runs config labels s history) (hclosed : s.closed = true)
    {items : List α} (hbegan : .began call (.enqueue items) ∈ history)
    (hstep : s.step (.advance call) = some (t, events)) :
    events = [.returned call (.error State.enqueueClosed)] ∧ t.pending = s.pending ∧
      t.nextSequence = s.nextSequence ∧ t.inFlight = s.inFlight ∧ t.published = s.published := by
  cases State.move_of_step hstep with
  | @call other label phase next u events at_phase turn =>
    obtain rfl : other = call := by cases turn <;> rfl
    rcases turn.shutOut_of_closed hrun.locked at_phase hclosed (hrun.serves hbegan at_phase) with
      rfl | ⟨-, rfl, hevents⟩
    · cases turn
    · exact ⟨hevents, rfl, rfl, rfl, rfl⟩
  | worker at_point turn => cases turn
  | dispatcher turn => cases turn

/-- A call that was begun to push items and returns once the queue is closed was turned away. -/
lemma Runs.outcome_of_closed (hrun : Runs config labels s history) {items : List α}
    {outcome : CallOutcome} (hhistory : history = before ++ .returned call outcome :: after)
    (hclosed : ∃ other left, .closed other left ∈ before)
    (hbegan : .began call (.enqueue items) ∈ history) :
    outcome = .error State.enqueueClosed := by
  obtain ⟨labels, u, past, label, phase, v, first, rest, hpast, rfl, at_phase, -, hserves, turn⟩ :=
    hrun.turn_of_returned hhistory hbegan
  have hbefore : u.closed = true := by
    obtain ⟨other, left, hclosed⟩ := hclosed
    rcases List.mem_append.mp hclosed with hclosed | hclosed
    · exact hpast.closing.closed_of_mem hclosed
    · -- a step that closes the queue does nothing else
      have move := Move.call at_phase turn
      have halone := (move.closed_eq (List.mem_append_left _ hclosed)).2.2.2.1
      obtain ⟨rfl, -⟩ := append_cons_eq_singleton halone
      cases hclosed
  rcases turn.shutOut_of_closed hpast.locked at_phase hbefore hserves with hnext | ⟨hnext, -⟩
  · cases hnext
  · exact Phase.returned.inj hnext

/-! ## The return of a shutdown -/

/-- A shutdown that returns without an error waits for no task any more, and does nothing else in
that turn. -/
lemma CallTurn.joining_of_returned
    (turn : CallTurn s call label phase (.returned (.ok ())) u events) {pushed : List α}
    (hserves : phase.Serves .shutdown pushed) :
    phase = .joining [] [] ∧ events = [.returned call (.ok ())] := by
  generalize hnext : Phase.returned (.ok ()) = next at turn
  cases turn with
  | pushed pushing short => cases pushing <;> simp [Phase.Serves] at hserves
  | refusedPush unserved woken => cases hserves
  | @flushed outcome closing woken idle last =>
    obtain rfl : .ok () = outcome := Phase.returned.inj hnext
    cases closing with
    | true => exact absurd rfl (last rfl)
    | false => cases hserves.1
  | @joined failures =>
    have hjoined := Phase.returned.inj hnext
    obtain rfl := joined_eq_ok hjoined.symm
    exact ⟨rfl, rfl⟩
  | _ => cases hnext

/-- The run up to the return of a shutdown. -/
lemma Runs.before_returned (hrun : Runs config labels s history)
    (hbegan : .began call .shutdown ∈ history)
    (hhistory : history = before ++ .returned call (.ok ()) :: after) :
    ∃ (labels : List (Label α)) (u : State α), Runs config labels u before ∧
      u.calls[call]? = some (.joining [] []) ∧ .began call .shutdown ∈ before := by
  obtain ⟨labels, u, past, label, phase, v, first, rest, hpast, rfl, at_phase, hasked, hserves,
    turn⟩ := hrun.turn_of_returned hhistory hbegan
  obtain ⟨rfl, halone⟩ := turn.joining_of_returned hserves
  obtain ⟨rfl, -⟩ := append_cons_eq_singleton halone
  rw [List.append_nil]
  exact ⟨labels, u, hpast, at_phase, hasked⟩

/-- When a shutdown returns without an error, the handles have been taken, by whomever, and the queue
has been closed. -/
lemma Runs.collected_of_returned (hrun : Runs config labels s history)
    (hbegan : .began call .shutdown ∈ history)
    (hhistory : history = before ++ .returned call (.ok ()) :: after) :
    (∃ other, .collected other ∈ before) ∧ ∃ other left, .closed other left ∈ before := by
  obtain ⟨labels, u, hpast, hcall, hbegan⟩ := hrun.before_returned hbegan hhistory
  have htaken := hpast.handlesTaken_of_awaits hbegan hcall rfl
  exact ⟨hpast.collecting.exists_collected htaken,
    hpast.closing.exists_closed (hpast.collecting.closed htaken)⟩

/-- A call at this point is a shutdown whose flush succeeded. -/
def Phase.IsClosing : Phase α → Prop
  | .queued .close | .collecting | .joining _ _ => True
  | _ => False

lemma isClosing_wakeCall {phase : Phase α} :
    (State.wakeCall phase).IsClosing ↔ phase.IsClosing := by
  cases phase <;> rfl

/-- A shutdown comes to close the queue when its flush has succeeded. -/
lemma CallTurn.isClosing (turn : CallTurn s call label phase next u events)
    (h : next.IsClosing) : phase.IsClosing ∨ .flushed call (.ok ()) ∈ events := by
  cases turn with
  | closed | closedAgain | collected | collectedAgain | awaited | expired => exact .inl trivial
  | drained idle => exact .inr List.mem_cons_self
  | _ => exact h.elim

/-- A shutdown that closes the queue, or waits for the tasks after that, has a flush behind it that
succeeded. -/
lemma Runs.flushed_of_closing (hrun : Runs config labels s history)
    (hcall : s.calls[call]? = some phase) (h : phase.IsClosing) :
    .flushed call (.ok ()) ∈ history := by
  induction hrun generalizing phase with
  | start => simp [State.initial] at hcall
  | @step labels s t label history events hrun hstep ih =>
    cases (State.move_of_step hstep).phaseChange hcall with
    | begun request new events_eq phase_eq =>
      subst phase_eq
      cases request <;> exact h.elim
    | turned at_phase turn state_eq =>
      rcases turn.isClosing h with hold | hover
      · exact List.mem_append_left _ (ih at_phase hold)
      · exact List.mem_append_right _ hover
    | stayed at_phase same others =>
      have hold := (State.iff_of_stayed Phase.IsClosing isClosing_wakeCall same).mp h
      exact List.mem_append_left _ (ih at_phase hold)

/-! ## Tasks that have come to their end -/

/-- What happens in one step is the doing of one call, or of none. -/
lemma Move.caller_eq (move : Move s label t events) {event other : Event α}
    (hevent : event ∈ events) (hother : other ∈ events) : event.caller = other.caller := by
  cases move with
  | begun request => rw [List.mem_singleton.mp hevent, List.mem_singleton.mp hother]
  | call at_phase turn => rw [turn.caller_eq event hevent, turn.caller_eq other hother]
  | worker at_point turn => rw [turn.caller_eq event hevent, turn.caller_eq other hother]
  | dispatcher turn => rw [turn.caller_eq event hevent, turn.caller_eq other hother]

/-- Where all tasks have come to their end, nothing happens but what calls do. -/
lemma State.EndedBut.caller_ne (h : s.EndedBut []) (move : Move s label t events)
    {event : Event α} (hevent : event ∈ events) : event.caller ≠ none := by
  cases move with
  | begun request => simp [List.mem_singleton.mp hevent, Event.caller]
  | call at_phase turn => simp [turn.caller_eq event hevent]
  | worker at_point turn =>
    rw [h.worker_exited at_point] at turn
    cases turn
  | dispatcher turn =>
    have hexited := h.dispatcher_exited
    cases turn with
    | received idle | stopped idle => simp [hexited] at idle
    | finished calling => simp [hexited] at calling
    | woken waking => simp [hexited] at waking

/-- The run up to the taking of the handles. -/
lemma Runs.before_collected (hrun : Runs config labels s history)
    (hhistory : history = before ++ .collected call :: after) :
    ∃ (labels : List (Label α)) (u : State α), Runs config labels u before ∧
      u.calls[call]? = some .collecting := by
  obtain ⟨labels, u, past, label, v, first, rest, hpast, hstep, rfl⟩ := hrun.exists_step hhistory
  have hmem : .collected call ∈ first ++ .collected call :: rest := by simp
  obtain ⟨at_phase, -, hevents, -⟩ := (State.move_of_step hstep).collected_eq hmem
  obtain ⟨rfl, -⟩ := append_cons_eq_singleton hevents
  rw [List.append_nil]
  exact ⟨labels, u, hpast, at_phase⟩

/-- The shutdown that took the handles did so before it returned. -/
lemma Runs.collected_before_returned (hrun : Runs config labels s history) {outcome : CallOutcome}
    (hhistory : history = before ++ .returned call outcome :: after)
    (hcollected : .collected call ∈ history) : .collected call ∈ before := by
  rw [hhistory, List.mem_append, List.mem_cons] at hcollected
  rcases hcollected with hcollected | heq | hcollected
  · exact hcollected
  · cases heq
  · -- it would take the handles after its return
    obtain ⟨middle, rest, rfl⟩ := List.append_of_mem hcollected
    have hsplit : history = (before ++ .returned call outcome :: middle) ++
        .collected call :: rest := by simp [hhistory]
    obtain ⟨labels, u, hpast, at_phase⟩ := hrun.before_collected hsplit
    have hreturned : .returned call outcome ∈ before ++ .returned call outcome :: middle := by simp
    rw [hpast.asked.phase_of_returned hreturned] at at_phase
    cases at_phase

/-- After the return of the shutdown that took the handles, nothing happens but what calls do. -/
lemma Runs.caller_ne_of_stopped (hrun : Runs config labels s history)
    (hhistory : history = before ++ .returned call (.ok ()) :: after)
    (hcollected : .collected call ∈ before) {event : Event α} (hevent : event ∈ after) :
    event.caller ≠ none := by
  intro hnone
  obtain ⟨middle, rest, rfl⟩ := List.append_of_mem hevent
  have hsplit : history = (before ++ .returned call (.ok ()) :: middle) ++ event :: rest := by
    simp [hhistory]
  obtain ⟨labels, u, past, label, v, first, later, hpast, hstep, hearlier⟩ :=
    hrun.exists_step hsplit
  have move := State.move_of_step hstep
  have hmem : event ∈ first ++ event :: later := by simp
  -- a task had this turn, so what the calls did before was done in earlier steps
  have hearly {other : Event α} (hother : other ∈ before ++ .returned call (.ok ()) :: middle)
      (hcaller : other.caller ≠ none) : other ∈ past := by
    rw [hearlier] at hother
    refine (List.mem_append.mp hother).resolve_right fun hfirst => hcaller ?_
    rw [move.caller_eq (List.mem_append_left _ hfirst) hmem, hnone]
  have hreturned : .returned call (.ok ()) ∈ past := hearly (by simp) (by simp [Event.caller])
  have hcollected : .collected call ∈ past :=
    hearly (by simp [hcollected]) (by simp [Event.caller])
  have hended : u.EndedBut [] :=
    hpast.endedBut_of_collected hcollected (hpast.asked.phase_of_returned hreturned) rfl
  exact hended.caller_ne move hmem hnone

/-- Where all tasks have come to their end and no batch was lost, every batch has been delivered. -/
lemma Runs.delivered_of_ended (hvalid : config.validate = .ok ())
    (hrun : Runs config labels s history) (hlost : lost history = []) (hended : s.EndedBut [])
    {batch : Batch α} (hbatch : batch ∈ formed history) : Delivered batch history := by
  have hpool : 0 < s.workers.length := by
    rw [hrun.staffed.size]
    exact hrun.poolSize_pos hvalid
  have hidle : s.inFlight = 0 := by
    rw [hrun.balanced.counted, hlost, hended.afloat_eq_nil hrun.locked hrun.staffed hpool]
    rfl
  exact hrun.delivered_of_idle hvalid hidle hbatch

/-- Where nobody can go on and the queue is closed, a worker has come to its end, if no batch was
lost. -/
lemma Runs.worker_of_quiet (hrun : Runs config labels s history) (hlost : lost history = [])
    (hquiet : s.IsQuiet) (hclosed : s.closed = true) {worker : Nat} {w : Worker α}
    (hw : s.workers[worker]? = some w) : w = .exited := by
  have hnone := hquiet.execution_eq_none hw
  cases w with
  | idle =>
    have htake := hquiet (.take worker) rfl
    simp [State.step, hw, State.take, hrun.queue_of_quiet hquiet, hclosed] at htake
  | submitting | backingOff => cases hnone
  | exited => rfl
  | crashed failure => exact absurd (broken_eq_nil hlost) (hrun.staffed.broken_of_crashed hw)

/-- Where nobody can go on and no worker serves, the dispatcher has come to its end. -/
lemma State.IsQuiet.dispatcher_exited (h : s.IsQuiet) (hstaffed : Staffed s history)
    (hunserved : s.isServed = false) : s.dispatcher = .exited := by
  cases hdispatcher : s.dispatcher with
  | idle =>
    -- no result is left, so it could come to its end
    have hresults := (List.append_eq_nil_iff.mp (h.results_eq_nil hstaffed)).1
    have hreceive := h .receive rfl
    simp [State.step, hdispatcher, State.receive, hresults, hunserved] at hreceive
  | calling result =>
    have hfinish := h .finish rfl
    simp [State.step, hdispatcher] at hfinish
  | waking =>
    have hwake := h .wake rfl
    simp [State.step, hdispatcher] at hwake
  | exited => rfl

/-- Where nobody can go on and the queue is closed, all tasks have come to their end, if no batch
was lost. -/
lemma Runs.ended_of_quiet (hrun : Runs config labels s history) (hlost : lost history = [])
    (hquiet : s.IsQuiet) (hclosed : s.closed = true) : s.EndedBut [] := by
  have hunserved : s.isServed = false := by
    rw [State.isServed, List.any_eq_false]
    intro w hmem
    obtain ⟨worker, hw⟩ := List.mem_iff_getElem?.mp hmem
    simp [hrun.worker_of_quiet hlost hquiet hclosed hw, Worker.isAlive]
  intro handle hmem
  refine .inr ?_
  cases handle with
  | worker worker =>
    have hlt : worker < s.workers.length := by simpa [State.handles] using hmem
    have hw := List.getElem?_eq_getElem hlt
    exact ended_worker.mpr (hrun.worker_of_quiet hlost hquiet hclosed hw ▸ hw)
  | dispatcher => exact ended_dispatcher.mpr (hquiet.dispatcher_exited hrun.staffed hunserved)

/-! ## Before and after the return of a shutdown -/

/-- After the return of a shutdown, nothing is pushed and no batch is formed. -/
lemma Runs.nothing_after_returned (hrun : Runs config labels s history)
    (hbegan : .began call .shutdown ∈ history)
    (hhistory : history = before ++ .returned call (.ok ()) :: after) :
    pushes after = [] ∧ formed after = [] := by
  obtain ⟨-, closer, left, hclosed⟩ := hrun.collected_of_returned hbegan hhistory
  obtain ⟨first, rest, rfl⟩ := List.append_of_mem hclosed
  rw [List.append_assoc, List.cons_append] at hhistory
  obtain ⟨hpushes, hformed⟩ := hrun.formed_after_closed hhistory
  rw [Projection.append, List.append_eq_nil_iff] at hpushes hformed
  exact ⟨hpushes.2, hformed.2⟩

/-- A call that was begun to push items and returns after a shutdown was turned away. -/
lemma Runs.outcome_after_returned (hrun : Runs config labels s history)
    (hbegan : .began call .shutdown ∈ history)
    (hhistory : history = before ++ .returned call (.ok ()) :: after) {other : Nat} {items : List α}
    {outcome : CallOutcome} (hasked : .began other (.enqueue items) ∈ history)
    (hmem : .returned other outcome ∈ after) : outcome = .error State.enqueueClosed := by
  obtain ⟨-, closer, left, hclosed⟩ := hrun.collected_of_returned hbegan hhistory
  obtain ⟨middle, rest, rfl⟩ := List.append_of_mem hmem
  have hsplit : history = (before ++ .returned call (.ok ()) :: middle) ++
      .returned other outcome :: rest := by simp [hhistory]
  exact hrun.outcome_of_closed hsplit ⟨closer, left, List.mem_append_left _ hclosed⟩ hasked

/-- When a shutdown returns, its flush is over, and the batches formed before that are delivered. -/
lemma Runs.delivered_before_returned (hvalid : config.validate = .ok ())
    (hrun : Runs config labels s history) (hbegan : .began call .shutdown ∈ history)
    (hhistory : history = before ++ .returned call (.ok ()) :: after) :
    ∃ earlier later, before = earlier ++ .flushed call (.ok ()) :: later ∧
      ∀ batch ∈ formed earlier, Delivered batch before := by
  obtain ⟨labels, u, hpast, hcall, -⟩ := hrun.before_returned hbegan hhistory
  obtain ⟨earlier, later, hsplit⟩ := List.append_of_mem (hpast.flushed_of_closing hcall trivial)
  refine ⟨earlier, later, hsplit, fun batch hbatch => ?_⟩
  have hdelivered := hpast.delivered_of_flushed hvalid hsplit hbatch
  rw [hsplit]
  exact hdelivered.append _

/-- When the shutdown that took the handles returns, every batch that is ever formed has been
delivered, if none was lost. -/
lemma Runs.delivered_of_collected (hvalid : config.validate = .ok ())
    (hrun : Runs config labels s history) (hlost : lost history = [])
    (hbegan : .began call .shutdown ∈ history)
    (hhistory : history = before ++ .returned call (.ok ()) :: after)
    (hcollected : .collected call ∈ before) {batch : Batch α} (hbatch : batch ∈ formed history) :
    Delivered batch before := by
  obtain ⟨labels, u, hpast, hcall, -⟩ := hrun.before_returned hbegan hhistory
  have hnothing := (hrun.nothing_after_returned hbegan hhistory).2
  have hformed : batch ∈ formed before := by
    rw [hhistory, Projection.append, Projection.cons, hnothing] at hbatch
    simpa using hbatch
  have hkept : lost before = [] := by
    rw [hhistory, Projection.append] at hlost
    exact (List.append_eq_nil_iff.mp hlost).1
  exact hpast.delivered_of_ended hvalid hkept (hpast.endedBut_of_collected hcollected hcall rfl)
    hformed

/-- Where nobody can go on, a call that was begun to push items has returned. -/
lemma Runs.exists_returned_of_quiet (hvalid : config.validate = .ok ())
    (hrun : Runs config labels s history) (hkept : ∀ label ∈ labels, label.isCancel = false)
    (hsound : ∀ label ∈ labels, label.isCrash = false) (hquiet : s.IsQuiet) {items : List α}
    (hasked : .began call (.enqueue items) ∈ history) :
    ∃ outcome, .returned call outcome ∈ history := by
  have hcall := List.getElem?_eq_getElem (hrun.asked.caller_lt hasked rfl)
  obtain ⟨outcome, hphase⟩ := (hrun.returned_of_quiet hvalid hkept hsound hquiet).1 _
    (List.mem_of_getElem? hcall)
  exact ⟨outcome, hrun.asked.returned_of_phase (hphase ▸ hcall)⟩

/-! ## Shutdown -/

/-- **Stopped.** After a shutdown has returned without an error, nothing is pushed and no batch is
formed, calls that push items are turned away and change nothing, and the batches formed before its
flush was over have been delivered; and some shutdown has taken the handles of the tasks. If it is
the one that took them, all tasks have come to their end, every batch has been delivered, and from
then on only calls do anything. If it is not, all tasks come to their end and every batch is delivered
by the time the batcher is at rest. -/
theorem Runs.stopped_of_shutdown (hvalid : config.validate = .ok ())
    (hrun : Runs config labels s history) (hkept : ∀ label ∈ labels, label.isCancel = false)
    (hsound : ∀ label ∈ labels, label.isCrash = false)
    (hbegan : .began call .shutdown ∈ history)
    (hhistory : history = before ++ .returned call (.ok ()) :: after) :
    (pushes after = [] ∧ formed after = []) ∧
    (∀ other items outcome, .began other (.enqueue items) ∈ history →
      .returned other outcome ∈ after → outcome = .error State.enqueueClosed) ∧
    (∀ other items t events, .began other (.enqueue items) ∈ history →
      s.step (.advance other) = some (t, events) →
        events = [.returned other (.error State.enqueueClosed)] ∧ t.pending = s.pending ∧
          t.nextSequence = s.nextSequence ∧ t.inFlight = s.inFlight ∧ t.published = s.published) ∧
    (∃ earlier later, before = earlier ++ .flushed call (.ok ()) :: later ∧
      ∀ batch ∈ formed earlier, Delivered batch before) ∧
    (∃ collector, .collected collector ∈ before) ∧
    (.collected call ∈ history →
      s.EndedBut [] ∧ (∀ batch ∈ formed history, Delivered batch before) ∧
        ∀ event ∈ after, event.caller ≠ none) ∧
    (s.IsQuiet →
      s.EndedBut [] ∧ (∀ batch ∈ formed history, Delivered batch history) ∧
        ∀ other items, .began other (.enqueue items) ∈ history →
          (∀ outcome, .returned other outcome ∉ before) →
            .returned other (.error State.enqueueClosed) ∈ after) := by
  have hlost := hrun.lost_eq_nil hkept hsound
  obtain ⟨hcollected, closer, left, hclosed⟩ := hrun.collected_of_returned hbegan hhistory
  have hshut : s.closed = true := by
    have hmem : .closed closer left ∈ history := hhistory ▸ List.mem_append_left _ hclosed
    exact hrun.closing.closed_of_mem hmem
  have hreturned : .returned call (.ok ()) ∈ history := by simp [hhistory]
  refine ⟨hrun.nothing_after_returned hbegan hhistory,
    fun other items outcome => hrun.outcome_after_returned hbegan hhistory,
    fun other items t events => hrun.shutOut_of_closed hshut,
    hrun.delivered_before_returned hvalid hbegan hhistory, hcollected, ?_, ?_⟩
  · intro hcollected
    have hbefore := hrun.collected_before_returned hhistory hcollected
    exact ⟨hrun.endedBut_of_collected hcollected (hrun.asked.phase_of_returned hreturned) rfl,
      fun batch => hrun.delivered_of_collected hvalid hlost hbegan hhistory hbefore,
      fun event => hrun.caller_ne_of_stopped hhistory hbefore⟩
  · intro hquiet
    have hended := hrun.ended_of_quiet hlost hquiet hshut
    refine ⟨hended, fun batch => hrun.delivered_of_ended hvalid hlost hended, ?_⟩
    intro other items hasked hnone
    obtain ⟨outcome, hmem⟩ := hrun.exists_returned_of_quiet hvalid hkept hsound hquiet hasked
    have hafter : .returned other outcome ∈ after := by
      rw [hhistory, List.mem_append, List.mem_cons] at hmem
      rcases hmem with hmem | heq | hmem
      · exact absurd hmem (hnone outcome)
      · -- no call is a shutdown that pushes items
        obtain ⟨rfl, -⟩ := Event.returned.inj heq
        cases hrun.asked.began_unique hbegan hasked
      · exact hmem
    exact hrun.outcome_after_returned hbegan hhistory hasked hafter ▸ hafter

/-! Two shutdowns at once. Both flushes are over before a batch is formed; the first one closes the
queue and takes the handles, and the second one finds no task to wait for and returns while the batch
is in the queue. -/

def earlyLabels : List (Label Nat) :=
  [.begin .shutdown, .advance 0, .begin .shutdown, .advance 1, .begin (.enqueue [10, 11]),
    .advance 0, .advance 1, .advance 2, .advance 2, .advance 0, .advance 0, .advance 1, .advance 1,
    .advance 1, .take 0, .reply 0 (.ok [.success "a", .success "b"]), .receive, .finish, .wake,
    .take 0, .receive, .advance 0, .advance 0, .advance 0, .begin (.enqueue [12]), .advance 3]

def earlyBefore : List (Event Nat) :=
  [.began 0 .shutdown, .began 1 .shutdown, .began 2 (.enqueue [10, 11]), .flushed 0 (.ok ()),
    .flushed 1 (.ok ()), .pushed 2 [10, 11], .formed 2 ⟨0, [10, 11]⟩, .pushed 2 [],
    .returned 2 (.ok ()), .closed 0 [], .collected 0]

def earlyMiddle : List (Event Nat) :=
  let result : BatchResult := ⟨0, [.success "a", .success "b"], none, { attempts := 1 }⟩
  [.taken 0 ⟨0, [10, 11]⟩, .submitted 0 ⟨0, [10, 11]⟩,
    .replied 0 ⟨0, [10, 11]⟩ (.ok result.items), .called result, .finished result]

def earlyAfter : List (Event Nat) :=
  [.began 3 (.enqueue [12]), .returned 3 (.error State.enqueueClosed)]

def earlyHistory : List (Event Nat) :=
  earlyBefore ++ .returned 1 (.ok ()) :: (earlyMiddle ++ .returned 0 (.ok ()) :: earlyAfter)

lemma quiet_early : ∃ s, Runs .small earlyLabels s earlyHistory ∧ s.IsQuiet := by
  refine ⟨_, Runs.of_run rfl, fun label hlabel => ?_⟩
  cases label with
  | begin | cancel => cases hlabel
  | advance call | expire call => rcases call with _ | _ | _ | _ | call <;> rfl
  | take worker | reply worker | crash worker | resume worker =>
    rcases worker with _ | worker <;> rfl
  | receive | finish | wake => rfl

lemma kept_early : ∀ label ∈ earlyLabels, label.isCancel = false := by
  simp [earlyLabels, Label.isCancel]

lemma sound_early : ∀ label ∈ earlyLabels, label.isCrash = false := by
  simp [earlyLabels, Label.isCrash]

theorem stopped_of_shutdown_early :
    ∃ s, BatcherConfig.small.validate = .ok () ∧ Runs .small earlyLabels s earlyHistory ∧
      (∀ label ∈ earlyLabels, label.isCancel = false) ∧
      (∀ label ∈ earlyLabels, label.isCrash = false) ∧ s.IsQuiet ∧ s.EndedBut [] ∧
      .returned 3 (.error State.enqueueClosed) ∈ earlyMiddle ++ .returned 0 (.ok ()) :: earlyAfter ∧
      Delivered ⟨0, [10, 11]⟩ (earlyBefore ++ .returned 1 (.ok ()) :: earlyMiddle) ∧
      ∀ event ∈ earlyAfter, event.caller ≠ none := by
  obtain ⟨s, hrun, hquiet⟩ := quiet_early
  have hbegan : .began 0 .shutdown ∈ earlyHistory ∧ .began 1 .shutdown ∈ earlyHistory := by
    simp [earlyHistory, earlyBefore]
  have hcloser : earlyHistory = (earlyBefore ++ .returned 1 (.ok ()) :: earlyMiddle) ++
      .returned 0 (.ok ()) :: earlyAfter := by
    simp [earlyHistory]
  -- the second shutdown only learns what becomes of the batcher in the end
  obtain ⟨-, -, -, -, -, -, hrest⟩ :=
    Runs.stopped_of_shutdown rfl hrun kept_early sound_early hbegan.2 rfl
  obtain ⟨-, -, hlate⟩ := hrest hquiet
  obtain ⟨-, -, -, -, -, hstopped, -⟩ :=
    Runs.stopped_of_shutdown rfl hrun kept_early sound_early hbegan.1 hcloser
  obtain ⟨hended, hdelivered, hcalls⟩ := hstopped (by simp [earlyHistory, earlyBefore])
  refine ⟨s, rfl, hrun, kept_early, sound_early, hquiet, hended, ?_, ?_, hcalls⟩
  · exact hlate 3 [12] (by simp [earlyHistory, earlyAfter]) (by simp [earlyBefore])
  · exact hdelivered _ (by simp [earlyHistory, earlyBefore])

/-- A shutdown that has returned without an error need not have stopped the batcher: batches are
submitted and called back after it. -/
theorem not_all_stopped :
    ¬∀ (config : BatcherConfig) (labels : List (Label Nat)) (s : State Nat)
      (history before after : List (Event Nat)) (call : Nat), config.validate = .ok () →
        Runs config labels s history → (∀ label ∈ labels, label.isCancel = false) →
        (∀ label ∈ labels, label.isCrash = false) → .began call .shutdown ∈ history →
        history = before ++ .returned call (.ok ()) :: after →
          (∀ batch ∈ formed before, Delivered batch before) ∧
          (∀ worker batch, .submitted worker batch ∉ after) ∧ ∀ result, .called result ∉ after := by
  intro h
  obtain ⟨s, hrun, -⟩ := quiet_early
  obtain ⟨-, hsubmitted, -⟩ := h .small earlyLabels s earlyHistory earlyBefore
    (earlyMiddle ++ .returned 0 (.ok ()) :: earlyAfter) 1 rfl hrun kept_early sound_early
    (by simp [earlyHistory, earlyBefore]) rfl
  exact hsubmitted 0 ⟨0, [10, 11]⟩ (by simp [earlyMiddle])

end BulkWrite.Batcher
