import BulkWrite.Proofs.Batcher.Barrier
import BulkWrite.Proofs.Batcher.Cut
import BulkWrite.Proofs.Batcher.Delivery
import BulkWrite.Proofs.Batcher.Join

/-!
# What a shutdown leaves behind

A shutdown is a flush, and then a step that closes the queue, for which it has to get the pending
list again. What calls push in between and does not fill a batch stays pending for good. Main
statement: when the only shutdown of a batcher has returned without an error, every batch has been
submitted and called back, and the items that were accepted and are in no batch are exactly those
that were pending when the queue was closed (`Runs.drained_of_shutdown`). So all accepted items have
been delivered if and only if none was pending then; and there are runs in which one was
(`not_all_delivered`).
-/

namespace BulkWrite.Batcher

open History

variable {α : Type} {config : BatcherConfig} {labels : List (Label α)} {s : State α}
  {history before after : List (Event α)} {call : Nat} {left : List α}

/-! ## Nothing is lost on the way -/

/-- Where no worker breaks down, the lost batches are those whose call was dropped. -/
lemma Runs.length_lost (hrun : Runs config labels s history)
    (hsound : ∀ label ∈ labels, label.isCrash = false) :
    (lost history).length = history.countP Event.isAbandoned := by
  induction hrun with
  | start => rfl
  | @step labels s t label history events hrun hstep ih =>
    have hold := ih fun label hlabel => hsound label (List.mem_append_left _ hlabel)
    have hlabel := hsound label (List.mem_append_right _ List.mem_cons_self)
    have hevents : (lost events).length = events.countP Event.isAbandoned := by
      cases State.move_of_step hstep with
      | begun request => rfl
      | call at_phase turn => cases turn <;> rfl
      | worker at_point turn =>
        cases turn with
        | broken | brokenLast => cases hlabel
        | _ => rfl
      | dispatcher turn => cases turn <;> rfl
    rw [Projection.append, List.length_append, List.countP_append, hold, hevents]

/-- Where no call is dropped and no worker breaks down, no batch is lost. -/
lemma Runs.lost_eq_nil (hrun : Runs config labels s history)
    (hkept : ∀ label ∈ labels, label.isCancel = false)
    (hsound : ∀ label ∈ labels, label.isCrash = false) : lost history = [] := by
  have hnone := hrun.not_abandoned hkept
  rw [← List.length_eq_zero_iff, hrun.length_lost hsound, List.countP_eq_zero]
  simpa using hnone

namespace State.EndedBut

/-- All workers have come to their end. -/
lemma worker_exited (h : s.EndedBut []) {worker : Nat} {w : Worker α}
    (hw : s.workers[worker]? = some w) : w = .exited := by
  have hlt := (List.getElem?_eq_some_iff.mp hw).1
  have hmem : Handle.worker worker ∈ s.handles := by simp [State.handles, hlt]
  have hended := (h _ hmem).resolve_left List.not_mem_nil
  rw [ended_worker, hw] at hended
  exact Option.some.inj hended

/-- The dispatcher has come to its end. -/
lemma dispatcher_exited (h : s.EndedBut []) : s.dispatcher = .exited := by
  have hmem : Handle.dispatcher ∈ s.handles := by simp [State.handles]
  exact ended_dispatcher.mp ((h _ hmem).resolve_left List.not_mem_nil)

/-- The queue is closed and empty. -/
lemma closed (h : s.EndedBut []) (hstaffed : Staffed s history) (hpool : 0 < s.workers.length) :
    s.closed = true ∧ s.queue = [] := by
  have hworker : s.workers[0]? = some s.workers[0] := List.getElem?_eq_getElem hpool
  rw [h.worker_exited hworker] at hworker
  exact hstaffed.drained_of_exited hworker

/-- No batch is on its way. -/
lemma afloat_eq_nil (h : s.EndedBut []) (hlocked : Locked s) (hstaffed : Staffed s history)
    (hpool : 0 < s.workers.length) : s.afloat = [] := by
  obtain ⟨hclosed, hqueue⟩ := h.closed hstaffed hpool
  have hdispatcher := h.dispatcher_exited
  refine State.afloat_eq_nil ?_ hqueue ?_ ?_
  · intro call batch rest hcall
    rw [hlocked.sender_open hcall] at hclosed
    cases hclosed
  · intro worker w hw
    rw [h.worker_exited hw]
    rfl
  · rw [hdispatcher, (hstaffed.unserved_of_stopped hdispatcher).2]
    rfl

end State.EndedBut

/-- A batch that a worker took was submitted. -/
lemma Runs.submitted_of_taken (hrun : Runs config labels s history) {batch : Batch α}
    (h : batch ∈ taken history) : ∃ worker, .submitted worker batch ∈ history := by
  induction hrun with
  | start => simp at h
  | step hrun hstep ih =>
    rw [Projection.append, List.mem_append] at h
    rcases h with h | h
    · obtain ⟨worker, hsubmitted⟩ := ih h
      exact ⟨worker, List.mem_append_left _ hsubmitted⟩
    · cases State.move_of_step hstep with
      | begun request => simp at h
      | call at_phase turn => cases turn <;> simp at h
      | @worker worker label w next u events at_point turn =>
        cases turn with
        | @taken other queue head =>
          obtain rfl : batch = other := by simpa using h
          exact ⟨worker, List.mem_append_right _ (by simp)⟩
        | _ => simp at h
      | dispatcher turn => cases turn <;> simp at h

/-- A batch that was called back was submitted. -/
lemma Runs.submitted_of_delivered (hrun : Runs config labels s history) {batch : Batch α}
    (hbatch : batch ∈ formed history) (hdelivered : Delivered batch history) :
    ∃ worker, .submitted worker batch ∈ history := by
  obtain ⟨result, hcalled, -, hsequence⟩ := hdelivered
  have hmem := List.mem_append_left s.results (mem_called.mpr hcalled)
  obtain ⟨other, htaken, hother, -⟩ := hrun.executed.yielded hmem
  have hformed := hrun.taken_sublist.subset htaken
  rw [hrun.balanced.batch_unique hformed hbatch (hother.symm.trans hsequence)] at htaken
  exact hrun.submitted_of_taken htaken

/-! ## Items -/

/-- A call that has pushed an item in its turn has a batch in hand or returns without an error,
unless it was dropped or found no worker. -/
lemma CallTurn.accepted {s u : State α} {call : Nat} {label : Label α} {phase next : Phase α}
    {events : List (Event α)} (turn : CallTurn s call label phase next u events)
    {request : Request α} {pushed : List α} (hserves : phase.Serves request pushed)
    (hkept : label.isCancel = false) (hserved : events.any Event.isUnserved = false)
    (hsome : pushed ++ pushedBy call events ≠ []) :
    next = .returned (.ok ()) ∨ ∃ batch rest, next = .sending batch rest := by
  cases turn with
  | pushed pushing short => exact .inl rfl
  | filled pushing full => exact .inr ⟨_, _, rfl⟩
  | cut holds isOpen nonempty => exact .inr ⟨_, _, rfl⟩
  | refusedPush | refusedFlush => cases hserved
  | leftList | abandoned | leftDrain | leftJoin => cases hkept
  | _ => exact absurd (by simp [hserves.2]) hsome

/-- Where no call is dropped and every batch finds a worker, a call that has pushed an item has a
batch in hand or has returned without an error. -/
lemma Runs.accepted (hrun : Runs config labels s history)
    (hkept : ∀ label ∈ labels, label.isCancel = false)
    (hserved : history.any Event.isUnserved = false) {phase : Phase α}
    (hcall : s.calls[call]? = some phase) (hsome : pushedBy call history ≠ []) :
    phase = .returned (.ok ()) ∨ ∃ batch rest, phase = .sending batch rest := by
  induction hrun generalizing phase with
  | start => simp at hsome
  | @step labels s t label history events hrun hstep ih =>
    have move := State.move_of_step hstep
    have hlabel := hkept label (List.mem_append_right _ List.mem_cons_self)
    rw [List.any_append, Bool.or_eq_false_iff] at hserved
    rw [Projection.append] at hsome
    cases move.phaseChange hcall with
    | begun request new events_eq phase_eq =>
      subst new events_eq
      rw [pushedBy_of_caller hrun.asked.caller_ne] at hsome
      exact absurd rfl hsome
    | turned at_phase turn state_eq =>
      obtain ⟨request, -, hserves⟩ := hrun.asked.serves at_phase
      exact turn.accepted hserves hlabel hserved.2 hsome
    | stayed at_phase same others =>
      rw [pushedBy_of_caller others, List.append_nil] at hsome
      have hold := ih (fun label hmem => hkept label (List.mem_append_left _ hmem)) hserved.1
        at_phase hsome
      rcases same with rfl | rfl
      · exact hold
      · rcases hold with rfl | ⟨batch, rest, rfl⟩
        · exact .inl rfl
        · exact .inr ⟨batch, rest, rfl⟩

/-- Once the queue is closed, whoever pushed an item has returned without an error. -/
lemma Runs.returned_of_pushed (hrun : Runs config labels s history)
    (hkept : ∀ label ∈ labels, label.isCancel = false)
    (hserved : history.any Event.isUnserved = false) (hclosed : s.closed = true)
    {entry : Nat × α} (hentry : entry ∈ pushes history) :
    .returned entry.1 (.ok ()) ∈ history := by
  have hsome : pushedBy entry.1 history ≠ [] :=
    fun hnone => Grouped.ne_of_pushedBy_eq_nil hnone entry hentry rfl
  have hlt : entry.1 < s.calls.length := by
    by_contra hge
    exact hsome (pushedBy_of_caller fun event hevent hcaller =>
      hge (hrun.asked.caller_lt hevent hcaller))
  have hcall := List.getElem?_eq_getElem hlt
  rcases hrun.accepted hkept hserved hcall hsome with heq | ⟨batch, rest, heq⟩
  · exact hrun.asked.returned_of_phase (heq ▸ hcall)
  · -- nobody has a batch in hand once the queue is closed
    rw [hrun.locked.sender_open (heq ▸ hcall)] at hclosed
    cases hclosed

/-- Once the queue is closed, nothing is pushed and no batch is formed. -/
lemma Runs.formed_after_closed (hrun : Runs config labels s history)
    (hhistory : history = before ++ .closed call left :: after) :
    pushes after = [] ∧ formed after = [] := by
  induction hrun generalizing after with
  | start => simp at hhistory
  | @step labels s t label history events hrun hstep ih =>
    have move := State.move_of_step hstep
    rcases split_of_append hhistory with ⟨more, hold, rfl⟩ | ⟨first, -, hevents⟩
    · obtain ⟨hpushes, hformed⟩ := ih hold
      have hmem : .closed call left ∈ history := hold ▸ by simp
      have hclosed : s.closed = true := hrun.closing.closed_of_mem hmem
      obtain ⟨hpushes', hformed'⟩ := move.formed_eq_nil hrun.locked hclosed
      rw [Projection.append, Projection.append, hpushes, hformed, hpushes', hformed']
      exact ⟨rfl, rfl⟩
    · have hmem : .closed call left ∈ events := hevents ▸ by simp
      have halone := (move.closed_eq hmem).2.2.2.1
      rw [hevents] at halone
      obtain ⟨-, rfl⟩ := append_cons_eq_singleton halone
      exact ⟨rfl, rfl⟩

/-- Until a shutdown closed the queue, it was open. -/
lemma Runs.before_closed (hrun : Runs config labels s history)
    (hhistory : history = before ++ .closed call left :: after) :
    ∃ (labels : List (Label α)) (u : State α), Runs config labels u before ∧
      u.calls[call]? = some (.queued .close) ∧ u.closed = false ∧ left = u.pending := by
  obtain ⟨labels, u, past, label, v, first, rest, hpast, hstep, rfl⟩ := hrun.exists_step hhistory
  have hmem : .closed call left ∈ first ++ .closed call left :: rest := by simp
  obtain ⟨at_phase, hopen, hleft, hevents, -⟩ := (State.move_of_step hstep).closed_eq hmem
  obtain ⟨rfl, -⟩ := append_cons_eq_singleton hevents
  rw [List.append_nil]
  exact ⟨labels, u, hpast, at_phase, hopen, hleft⟩

/-- When the queue was closed, the items that are in no batch were pending, and they had been pushed
since the shutdown began that closed it. -/
lemma Runs.pushed_of_closed (hvalid : config.validate = .ok ())
    (hrun : Runs config labels s history) (hclosed : .closed call left ∈ history) :
    ∃ before middle after,
      history = before ++ .began call .shutdown :: (middle ++ .closed call left :: after) ∧
        pushed history = (formed history).flatMap Batch.items ++ left ∧
          left <:+ pushed middle ∧ left.length < config.batchSize.toNat := by
  obtain ⟨earlier, after, hhistory⟩ := List.append_of_mem hclosed
  obtain ⟨labels, u, hpast, at_phase, hopen, rfl⟩ := hrun.before_closed hhistory
  -- whoever is about to close the queue is a shutdown, and its flush has emptied the list
  obtain ⟨request, hbegan, rfl, -⟩ := hpast.asked.serves at_phase
  obtain ⟨before, middle, hsplit⟩ := List.append_of_mem hbegan
  refine ⟨before, middle, after, ?_, ?_, hpast.pending_suffix hsplit at_phase trivial,
    hpast.short hvalid⟩
  · rw [hhistory, hsplit]
    simp
  · obtain ⟨hpushes, hformed⟩ := hrun.formed_after_closed hhistory
    have hportioned := hpast.portioned hvalid
    have hthen := hportioned.split
    rw [hportioned.discarded_eq_nil hopen, List.append_nil] at hthen
    rw [hhistory, pushed_append, Projection.append, Projection.cons, hformed, hthen]
    simp [pushed, hpushes]

/-! ## Shutdown -/

/-- When the only shutdown has returned without an error, every batch has been delivered, and the
items that were accepted and not delivered are those that were pending when the queue was closed. -/
theorem Runs.drained_of_shutdown (hvalid : config.validate = .ok ())
    (hrun : Runs config labels s history) (hkept : ∀ label ∈ labels, label.isCancel = false)
    (hsound : ∀ label ∈ labels, label.isCrash = false)
    (honly : ∀ other, .began other .shutdown ∈ history → other = call)
    (hbegan : .began call .shutdown ∈ history) (hreturned : .returned call (.ok ()) ∈ history) :
    ∃ before middle left after,
      history = before ++ .began call .shutdown :: (middle ++ .closed call left :: after) ∧
      pushed history = (formed history).flatMap Batch.items ++ left ∧
      discarded history ++ s.pending = left ∧
      left <:+ pushed middle ∧ left.length < config.batchSize.toNat ∧
      (∀ entry ∈ pushes history, .returned entry.1 (.ok ()) ∈ history) ∧
      (∀ other items, .began other (.enqueue items) ∈ history →
        .returned other (.ok ()) ∈ history → pushedBy other history = items) ∧
      (∀ batch ∈ formed history,
        (∃ worker, .submitted worker batch ∈ history) ∧ Delivered batch history) ∧
      (pushed history = (formed history).flatMap Batch.items ↔ left = []) := by
  have hpool : 0 < s.workers.length := by
    rw [hrun.staffed.size, hrun.config_eq]
    exact (BatcherConfig.sizes_pos hvalid).2
  have hlost := hrun.lost_eq_nil hkept hsound
  have hserved := hrun.all_served hvalid (broken_eq_nil hlost)
  have hended := hrun.endedBut honly hbegan (hrun.asked.phase_of_returned hreturned) rfl
  have hafloat := hended.afloat_eq_nil hrun.locked hrun.staffed hpool
  -- the workers are at their end, so the queue is closed, and nobody else closed it
  have hclosed := (hended.closed hrun.staffed hpool).1
  obtain ⟨other, left, hmem⟩ := hrun.closing.exists_closed hclosed
  obtain rfl := honly other (hrun.closing.began_shutdown hmem)
  obtain ⟨before, middle, after, hhistory, hpushed, hsuffix, hshort⟩ :=
    hrun.pushed_of_closed hvalid hmem
  refine ⟨before, middle, left, after, hhistory, hpushed, ?_, hsuffix, hshort, ?_,
    fun _ _ => hrun.pushedBy_of_returned, ?_, ?_⟩
  · have hsplit := (hrun.portioned hvalid).split
    rw [hpushed, List.append_assoc] at hsplit
    exact (List.append_cancel_left hsplit).symm
  · exact fun entry => hrun.returned_of_pushed hkept hserved hclosed
  · intro batch hbatch
    have hidle : s.inFlight = 0 := by
      rw [hrun.balanced.counted, hlost, hafloat]
      rfl
    have hdelivered := hrun.delivered_of_idle hvalid hidle hbatch
    exact ⟨hrun.submitted_of_delivered hbatch hdelivered, hdelivered⟩
  · rw [hpushed]
    exact List.append_right_eq_self

/-! An item that is pushed while the flush of a shutdown waits for a batch. It stays pending when
the queue is closed, and a later flush drops it. -/

def lossLabels : List (Label Nat) :=
  [.begin (.enqueue [10, 11]), .advance 0, .advance 0, .begin .shutdown, .advance 1, .take 0,
    .begin (.enqueue [12]), .advance 2, .advance 1, .reply 0 (.ok [.success "a", .success "b"]),
    .receive, .finish, .wake, .advance 1, .advance 1, .advance 1, .advance 1, .take 0, .receive,
    .advance 1, .advance 1, .advance 1, .begin .flush, .advance 3, .advance 3]

def lossHistory : List (Event Nat) :=
  let result : BatchResult := ⟨0, [.success "a", .success "b"], none, { attempts := 1 }⟩
  [.began 0 (.enqueue [10, 11]), .pushed 0 [10, 11], .formed 0 ⟨0, [10, 11]⟩, .pushed 0 [],
    .returned 0 (.ok ()), .began 1 .shutdown, .taken 0 ⟨0, [10, 11]⟩, .submitted 0 ⟨0, [10, 11]⟩,
    .began 2 (.enqueue [12]), .pushed 2 [12], .returned 2 (.ok ()),
    .replied 0 ⟨0, [10, 11]⟩ (.ok result.items), .called result, .finished result,
    .flushed 1 (.ok ()), .closed 1 [12], .collected 1, .returned 1 (.ok ()), .began 3 .flush,
    .discarded 3 [12], .flushed 3 (.error State.dispatchClosed),
    .returned 3 (.error State.dispatchClosed)]

lemma runs_loss : ∃ s, Runs .small lossLabels s lossHistory :=
  ⟨_, Runs.of_run rfl⟩

lemma kept_loss : ∀ label ∈ lossLabels, label.isCancel = false := by
  simp [lossLabels, Label.isCancel]

lemma sound_loss : ∀ label ∈ lossLabels, label.isCrash = false := by
  simp [lossLabels, Label.isCrash]

lemma only_loss : ∀ other, .began other .shutdown ∈ lossHistory → other = 1 := by
  simp [lossHistory]

theorem drained_of_shutdown_loss :
    ∃ s, BatcherConfig.small.validate = .ok () ∧ Runs .small lossLabels s lossHistory ∧
      .returned 1 (.ok ()) ∈ lossHistory ∧
      ∃ left, .closed 1 left ∈ lossHistory ∧ left = [12] ∧
        discarded lossHistory ++ s.pending = left := by
  obtain ⟨s, hrun⟩ := runs_loss
  have hreturned : .returned 1 (.ok ()) ∈ lossHistory := by simp [lossHistory]
  obtain ⟨before, middle, left, after, hhistory, hpushed, hleft, -⟩ :=
    Runs.drained_of_shutdown rfl hrun kept_loss sound_loss only_loss (by simp [lossHistory])
      hreturned
  refine ⟨s, rfl, hrun, hreturned, left, hhistory ▸ by simp, ?_, hleft⟩
  symm
  simpa [lossHistory, pushed] using hpushed

/-- A shutdown does not deliver all items that were accepted. -/
theorem not_all_delivered :
    ¬∀ (config : BatcherConfig) (labels : List (Label Nat)) (s : State Nat)
      (history : List (Event Nat)) (call : Nat), config.validate = .ok () →
        Runs config labels s history → (∀ label ∈ labels, label.isCancel = false) →
        (∀ label ∈ labels, label.isCrash = false) →
        (∀ other, .began other .shutdown ∈ history → other = call) →
        .began call .shutdown ∈ history → .returned call (.ok ()) ∈ history →
        ∀ other items, .began other (.enqueue items) ∈ history →
          .returned other (.ok ()) ∈ history → ∀ item ∈ items, ∃ batch ∈ formed history,
            item ∈ batch.items ∧ (∃ worker, .submitted worker batch ∈ history) ∧
              Delivered batch history := by
  intro h
  obtain ⟨s, hrun⟩ := runs_loss
  obtain ⟨batch, hformed, hitem, -⟩ :=
    h .small lossLabels s lossHistory 1 rfl hrun kept_loss sound_loss only_loss
      (by simp [lossHistory]) (by simp [lossHistory]) 2 [12] (by simp [lossHistory])
      (by simp [lossHistory]) 12 (by simp)
  obtain rfl : batch = ⟨0, [10, 11]⟩ := by
    simpa [lossHistory] using hformed
  simp at hitem

end BulkWrite.Batcher
