import BulkWrite.Proofs.Batcher.Delivery
import BulkWrite.Proofs.Batcher.Line
import BulkWrite.Proofs.Batcher.Shutdown

/-!
# Where a batcher comes to rest

Who can still be waiting when nobody can go on? Not a task: a worker at work has a reply or a wait
to come, and the queue and the results are empty. Not a call in the line for the pending list: the
first in the line has the list, and there is room in the queue. And not a shutdown that waits for
the tasks, for it stops waiting after a time. What is left is a flush that has seen batches in flight
and was not woken since; as long as it waits, either something is still in flight or the dispatcher
is about to wake it (`Runs.waking_of_parked`).

So where the batcher is at rest, a call that has neither returned nor been dropped is a flush that
waits for batches which are lost (`Runs.phase_of_quiet`). Main statement: where no call is dropped
and no worker breaks down, none is lost, and so every call has returned (`Runs.returned_of_quiet`).
-/

namespace BulkWrite.Batcher

open History

variable {α : Type} {config : BatcherConfig} {labels : List (Label α)} {s : State α}
  {history : List (Event α)}

/-! ## The queue without workers -/

/-- The last worker leaves an empty queue. -/
lemma WorkerTurn.queue_of_unserved {u : State α} {worker : Nat} {label : Label α}
    {w next : Worker α} {events : List (Event α)}
    (turn : WorkerTurn s worker label w next u events) (at_point : s.workers[worker]? = some w)
    (hunserved : (u.setWorker worker next).isServed = false) : u.queue = [] := by
  have hlt := (List.getElem?_eq_some_iff.mp at_point).1
  have hnext : (u.setWorker worker next).workers[worker]? = some next := by
    rw [State.setWorker, turn.workers_eq]
    exact List.getElem?_set_self hlt
  -- a worker that goes on serves, so this turn was the last one of its worker
  have hdead : next = .exited ∨ ∃ failure, next = .crashed failure :=
    State.gone_of_unserved hunserved hnext
  cases turn with
  | exited empty closed => exact empty
  | broken served =>
    rw [hunserved] at served
    cases served
  | brokenLast unserved => rfl
  | taken | retried | concluded | resumed => rcases hdead with hdead | ⟨failure, hdead⟩ <;> cases hdead

/-- Where nobody takes batches, none waits in the queue. -/
lemma Runs.queue_of_unserved (hrun : Runs config labels s history)
    (hunserved : s.isServed = false) : s.queue = [] := by
  induction hrun with
  | start => rfl
  | @step labels s t label history events hrun hstep ih =>
    cases State.move_of_step hstep with
    | begun request => exact ih hunserved
    | @call call label phase next u events at_phase turn =>
      have hserved : s.isServed = false := by
        rw [← hunserved]
        show s.workers.any Worker.isAlive = u.workers.any Worker.isAlive
        rw [turn.workers_eq]
      show u.queue = []
      rcases turn.queue_eq with hqueue | ⟨batch, rest, -, served, -⟩
      · rw [hqueue, ih hserved]
      · rw [hserved] at served
        cases served
    | worker at_point turn => exact turn.queue_of_unserved at_point hunserved
    | dispatcher turn => cases turn <;> exact ih hunserved

/-! ## Flushes that wait -/

/-- A batch that finds no worker is not the only one in flight: the batches that broke the workers
down are, too. -/
lemma Runs.two_le_inFlight (hvalid : config.validate = .ok ()) (hrun : Runs config labels s history)
    {call : Nat} {batch : Batch α} {rest : Rest α}
    (hcall : s.calls[call]? = some (.sending batch rest)) (hunserved : s.isServed = false) :
    2 ≤ s.inFlight := by
  obtain ⟨w, hworker⟩ := hrun.exists_worker hvalid
  obtain ⟨failure, rfl⟩ := hrun.staffed.crashed_of_unserved hunserved
    (.inl (hrun.locked.sender_open hcall)) hworker
  have hlost : lost history ≠ [] :=
    mt broken_eq_nil (hrun.staffed.broken_of_crashed hworker)
  have hhand : batch.sequence ∈ s.afloat := by
    have hmem : batch.sequence ∈ s.calls.flatMap Phase.numbers :=
      List.mem_flatMap.mpr ⟨_, List.mem_of_getElem? hcall, List.mem_singleton.mpr rfl⟩
    simp [State.afloat, hmem]
  have hfirst := List.length_pos_of_ne_nil hlost
  have hsecond := List.length_pos_of_mem hhand
  rw [hrun.balanced.counted]
  omega

/-- The turn of a call leaves batches in flight if there were any. -/
lemma CallTurn.idle_of_idle {u : State α} {call : Nat} {label : Label α} {phase next : Phase α}
    {events : List (Event α)} (turn : CallTurn s call label phase next u events)
    (hrefused : ∀ batch rest, phase = .sending batch rest → s.isServed = false → 2 ≤ s.inFlight)
    (hidle : u.inFlight = 0) : s.inFlight = 0 := by
  cases turn with
  | pushed pushing short => cases pushing <;> exact hidle
  | filled pushing full => cases hidle
  | cut holds isOpen nonempty => cases hidle
  | refusedPush unserved woken | refusedFlush unserved woken =>
    have hmore := hrefused _ _ rfl unserved
    have hless : s.inFlight - 1 = 0 := hidle
    omega
  | _ => exact hidle

/-- The last callback is followed by a call to the flushes. -/
lemma State.waking_of_finish {t : State α} {events : List (Event α)}
    (h : s.step .finish = some (t, events)) (hidle : t.inFlight = 0) : t.dispatcher = .waking := by
  rw [step] at h
  split at h
  · obtain ⟨rfl, -⟩ := Prod.mk.inj (Option.some.inj h)
    exact if_pos hidle
  · cases h

/-- Nobody comes to wait in vain by being woken. -/
lemma State.parked_of_wakeCall {phase : Phase α} {outcome : CallOutcome} {closing : Bool}
    (h : .draining outcome closing true false = wakeCall phase) :
    phase = .draining outcome closing true false := by
  cases phase with
  | draining => cases h
  | _ => exact h.symm

/-- No wake-up is lost: where a flush waits and nothing is in flight any more, the dispatcher is about
to wake it. -/
theorem Runs.waking_of_parked (hvalid : config.validate = .ok ())
    (hrun : Runs config labels s history) {call : Nat} {outcome : CallOutcome} {closing : Bool}
    (hcall : s.calls[call]? = some (.draining outcome closing true false))
    (hidle : s.inFlight = 0) : s.dispatcher = .waking := by
  induction hrun with
  | start => simp [State.initial] at hcall
  | @step labels s t label history events hrun hstep ih =>
    cases State.move_of_step hstep with
    | begun request =>
      rcases State.phase_of_begun hcall with hold | ⟨-, heq⟩
      · exact ih hold hidle
      · cases heq
    | @call other label phase next u events at_phase turn =>
      have hbefore : s.inFlight = 0 :=
        turn.idle_of_idle (fun batch rest heq => hrun.two_le_inFlight hvalid (heq ▸ at_phase)) hidle
      have hold : s.calls[call]? = some (.draining outcome closing true false) := by
        rcases State.phase_of_setCall turn.calls_eq hcall with ⟨-, rfl⟩ | ⟨-, old, hold, heq | heq⟩
        · -- a flush that begins to wait has just seen a batch in flight
          cases turn with
          | parked busy => exact absurd hbefore busy
        · exact heq ▸ hold
        · exact State.parked_of_wakeCall heq ▸ hold
      show u.dispatcher = .waking
      rw [turn.dispatcher_eq]
      exact ih hold hbefore
    | worker at_point turn =>
      have hold : s.calls[call]? = some (.draining outcome closing true false) :=
        turn.calls_eq ▸ hcall
      cases turn <;> exact ih hold hidle
    | dispatcher turn =>
      cases turn with
      | received idle head =>
        have hwaking := ih hcall hidle
        rw [idle] at hwaking
        cases hwaking
      | stopped idle empty unserved =>
        have hwaking := ih hcall hidle
        rw [idle] at hwaking
        cases hwaking
      | finished calling next_eq => exact State.waking_of_finish hstep hidle
      | woken waking =>
        -- all flushes have just been woken
        rw [State.wakeCalls, List.getElem?_map] at hcall
        obtain ⟨old, -, heq⟩ := Option.map_eq_some_iff.mp hcall
        cases old <;> cases heq

/-! ## Where nobody can go on -/

section

variable (hvalid : config.validate = .ok ()) (hrun : Runs config labels s history)
  (hquiet : s.IsQuiet)

include hrun hquiet

/-- Where nobody can go on, the queue is empty. -/
lemma Runs.queue_of_quiet : s.queue = [] := by
  cases hserved : s.isServed with
  | false => exact hrun.queue_of_unserved hserved
  | true =>
    obtain ⟨w, hmem, halive⟩ := List.any_eq_true.mp hserved
    obtain ⟨worker, hw⟩ := List.mem_iff_getElem?.mp hmem
    refine hquiet.queue_eq_nil hrun.staffed hw ?_
    rintro failure rfl
    cases halive

include hvalid

/-- Where nobody can go on, no batch is on its way. -/
lemma Runs.afloat_of_quiet : s.afloat = [] :=
  hquiet.afloat_eq_nil hrun.staffed (hrun.poolSize_pos hvalid) (hrun.queue_of_quiet hquiet)

/-- Where nobody can go on, nobody stands in the line for the pending list. -/
lemma Runs.lock_of_quiet : s.lock = [] := by
  have hpool := hrun.poolSize_pos hvalid
  have hqueue := hrun.queue_of_quiet hquiet
  cases hlock : s.lock with
  | nil => rfl
  | cons call line =>
    have hline := (hrun.lined.mem_iff call).mp (hlock ▸ List.mem_cons_self)
    cases hcall : s.calls[call]? with
    | none => simp [hcall] at hline
    | some phase =>
      cases phase with
      | queued task =>
        -- the first in the line has the list
        have hadvance := hquiet (.advance call) rfl
        simp [State.step, hcall, State.advance, State.holds, hlock] at hadvance
      | sending batch rest => exact absurd hcall (hquiet.not_sending hqueue hpool)
      | _ => simp [hcall, Phase.inLine] at hline

/-- Where nobody can go on, a call that is not over is a flush that waits for lost batches. -/
theorem Runs.phase_of_quiet {call : Nat} {phase : Phase α} (hcall : s.calls[call]? = some phase) :
    (∃ outcome, phase = .returned outcome) ∨ phase = .dropped ∨
      ((∃ outcome closing, phase = .draining outcome closing true false) ∧ lost history ≠ []) := by
  have hnone : s.calls[call]?.any Phase.inLine = false := by
    have hout : call ∉ s.lock := by simp [hrun.lock_of_quiet hvalid hquiet]
    rw [hrun.lined.mem_iff] at hout
    simpa using hout
  have hadvance := hquiet (.advance call) rfl
  have hexpire := hquiet (.expire call) rfl
  cases phase with
  | queued task => simp [hcall, Phase.inLine] at hnone
  | sending batch rest => simp [hcall, Phase.inLine] at hnone
  | draining outcome closing parked woken =>
    refine .inr (.inr ?_)
    cases parked with
    | false =>
      by_cases hidle : s.inFlight = 0 <;>
      simp [State.step, hcall, State.advance, hidle] at hadvance
    | true =>
      cases woken with
      | true => simp [State.step, hcall, State.advance] at hadvance
      | false =>
        refine ⟨⟨outcome, closing, rfl⟩, fun hlost => ?_⟩
        -- nothing is in flight, so the dispatcher can go on to wake the flush
        have hidle : s.inFlight = 0 := by
          rw [hrun.balanced.counted, hlost, hrun.afloat_of_quiet hvalid hquiet]
          rfl
        have hwake := hquiet .wake rfl
        simp [State.step, hrun.waking_of_parked hvalid hcall hidle] at hwake
  | collecting =>
    cases htaken : s.handlesTaken <;>
    simp [State.step, hcall, State.advance, State.collect, htaken] at hadvance
  | joining handles failures =>
    cases handles with
    | nil => simp [State.step, hcall, State.advance] at hadvance
    | cons handle handles =>
      cases hended : s.ended? handle with
      | none => simp [State.step, hcall, hended] at hexpire
      | some failure => simp [State.step, hcall, State.advance, hended] at hadvance
  | returned outcome => exact .inl ⟨outcome, rfl⟩
  | dropped => exact .inr (.inl rfl)

end

/-- The calls that were dropped are those that a caller dropped. -/
lemma Runs.dropped_iff (hrun : Runs config labels s history) {call : Nat} :
    s.calls[call]? = some .dropped ↔ .cancel call ∈ labels := by
  induction hrun with
  | start => simp [State.initial]
  | @step labels s t label history events hrun hstep ih =>
    have move := State.move_of_step hstep
    rw [List.mem_append, List.mem_singleton, ← ih]
    constructor
    · intro hcall
      cases move.phaseChange hcall with
      | begun request new events_eq phase_eq => cases phase_eq
      | turned at_phase turn state_eq => cases turn <;> exact .inr rfl
      | stayed at_phase same others =>
        have hold := (State.iff_of_stayed (· = .dropped) State.wakeCall_eq_dropped same).mp rfl
        exact .inl (hold ▸ at_phase)
    · rintro (hcall | rfl)
      · exact move.phase_of_over hcall trivial
      · cases move with
        | @call other label phase next u events at_phase turn =>
          cases turn <;> exact State.setCall_self (.inl rfl) at_phase
        | worker at_point turn => cases turn
        | dispatcher turn => cases turn

/-- Where no call is dropped, none has been. -/
lemma Runs.phase_ne_dropped (hrun : Runs config labels s history)
    (hkept : ∀ label ∈ labels, label.isCancel = false) {call : Nat} {phase : Phase α}
    (hcall : s.calls[call]? = some phase) : phase ≠ .dropped := by
  rintro rfl
  cases hkept _ (hrun.dropped_iff.mp hcall)

/-- Where no call is dropped and no worker breaks down, the batcher comes to rest only when every
call has returned and every batch has been called back. -/
theorem Runs.returned_of_quiet (hvalid : config.validate = .ok ())
    (hrun : Runs config labels s history) (hkept : ∀ label ∈ labels, label.isCancel = false)
    (hsound : ∀ label ∈ labels, label.isCrash = false) (hquiet : s.IsQuiet) :
    (∀ phase ∈ s.calls, ∃ outcome, phase = .returned outcome) ∧ s.lock = [] ∧ s.queue = [] ∧
      s.results = [] ∧ s.inFlight = 0 := by
  have hlost := hrun.lost_eq_nil hkept hsound
  refine ⟨fun phase hmem => ?_, hrun.lock_of_quiet hvalid hquiet,
    hrun.queue_of_quiet hquiet, ?_, ?_⟩
  · obtain ⟨call, hcall⟩ := List.mem_iff_getElem?.mp hmem
    rcases hrun.phase_of_quiet hvalid hquiet hcall with hreturned | hdropped | ⟨-, hwaits⟩
    · exact hreturned
    · exact absurd hdropped (hrun.phase_ne_dropped hkept hcall)
    · exact absurd hlost hwaits
  · exact (List.append_eq_nil_iff.mp (hquiet.results_eq_nil hrun.staffed)).1
  · rw [hrun.balanced.counted, hlost, hrun.afloat_of_quiet hvalid hquiet]
    rfl

/-! A call that waits twice for room in the queue, and two flushes that wait behind it and then for
its three batches. -/

def restLabels : List (Label Nat) :=
  [.begin (.enqueue [10, 11, 12, 13, 14, 15]), .advance 0, .advance 0, .begin .flush,
    .begin .flush, .take 0, .advance 0, .reply 0 (.ok [.success "a", .success "b"]), .take 0,
    .advance 0, .advance 1, .advance 1, .advance 2, .advance 2, .receive, .finish,
    .reply 0 (.ok [.success "c", .success "d"]), .take 0,
    .reply 0 (.ok [.success "e", .success "f"]), .receive, .finish, .receive, .finish, .wake,
    .advance 1, .advance 1, .advance 2, .advance 2]

/-- The worker waits for a batch, and all three calls are over. -/
lemma quiet_rest : ∃ s history, Runs .small restLabels s history ∧ s.calls.length = 3 ∧
    s.IsQuiet := by
  refine ⟨_, _, Runs.of_run rfl, rfl, fun label hlabel => ?_⟩
  cases label with
  | begin | cancel => cases hlabel
  | advance call | expire call => rcases call with _ | _ | _ | call <;> rfl
  | take worker | reply worker | crash worker | resume worker => cases worker <;> rfl
  | receive | finish | wake => rfl

theorem returned_of_quiet_rest :
    ∃ s history, BatcherConfig.small.validate = .ok () ∧ Runs .small restLabels s history ∧
      (∀ label ∈ restLabels, label.isCancel = false) ∧
      (∀ label ∈ restLabels, label.isCrash = false) ∧ s.IsQuiet ∧ s.calls.length = 3 ∧
      (∀ phase ∈ s.calls, ∃ outcome, phase = .returned outcome) ∧ s.inFlight = 0 := by
  obtain ⟨s, history, hrun, hcalls, hquiet⟩ := quiet_rest
  have hkept : ∀ label ∈ restLabels, label.isCancel = false := by
    simp [restLabels, Label.isCancel]
  have hsound : ∀ label ∈ restLabels, label.isCrash = false := by
    simp [restLabels, Label.isCrash]
  have h := Runs.returned_of_quiet rfl hrun hkept hsound hquiet
  exact ⟨s, history, rfl, hrun, hkept, hsound, hquiet, hcalls, h.1, h.2.2.2.2⟩

end BulkWrite.Batcher
