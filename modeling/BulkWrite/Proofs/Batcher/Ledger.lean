import Mathlib.Data.List.Nodup
import Mathlib.Data.List.Perm.Basic
import BulkWrite.Proofs.Batcher.History
import BulkWrite.Proofs.Batcher.Turn

/-!
# The ledger of batches

A batch that was formed is in exactly one place: settled, lost, or afloat, that is, in the hand of a
call, in the queue, with a worker, among the results or in the callback. No step makes or loses a
batch (`Move.count_afloat`), so the sequence numbers given so far are those of the settled, the lost
and the floating batches, each number once, and the batches in flight are the lost and the floating
ones (`Runs.balanced`).
-/

namespace BulkWrite.Batcher

variable {α : Type}

/-- The number of the batch that a call has in hand. -/
def Phase.numbers : Phase α → List Nat
  | .sending batch _ => [batch.sequence]
  | _ => []

/-- The number of the batch that a worker executes. -/
def Worker.numbers : Worker α → List Nat
  | .submitting e | .backingOff _ e => [e.batch.sequence]
  | _ => []

/-- The result that the dispatcher calls back. -/
def Dispatcher.inHand : Dispatcher → List BatchResult
  | .calling result => [result]
  | _ => []

/-- The numbers of the batches on their way. -/
def State.afloat (s : State α) : List Nat :=
  s.calls.flatMap Phase.numbers ++ s.queue.map Batch.sequence ++ s.workers.flatMap Worker.numbers
    ++ (s.results ++ s.dispatcher.inHand).map BatchResult.sequence

/-- Where nobody has a batch, no batch is on its way. -/
lemma State.afloat_eq_nil {s : State α}
    (hcalls : ∀ (call : Nat) (batch : Batch α) (rest : Rest α),
      s.calls[call]? ≠ some (.sending batch rest))
    (hqueue : s.queue = [])
    (hworkers : ∀ (worker : Nat) (w : Worker α), s.workers[worker]? = some w → w.numbers = [])
    (hresults : s.results ++ s.dispatcher.inHand = []) : s.afloat = [] := by
  have hhands : s.calls.flatMap Phase.numbers = [] := by
    apply List.flatMap_eq_nil_iff.mpr
    intro phase hphase
    obtain ⟨call, hcall⟩ := List.mem_iff_getElem?.mp hphase
    cases phase with
    | sending batch rest => exact absurd hcall (hcalls call batch rest)
    | _ => rfl
  have hwork : s.workers.flatMap Worker.numbers = [] := by
    apply List.flatMap_eq_nil_iff.mpr
    intro w hw
    obtain ⟨worker, hworker⟩ := List.mem_iff_getElem?.mp hw
    exact hworkers worker w hworker
  rw [State.afloat, hhands, hqueue, hwork, hresults]
  rfl

/-! ## One actor moves -/

/-- Where one entry of a list is replaced, its share is. -/
lemma count_flatMap_set {β γ : Type} [DecidableEq γ] (f : β → List γ) (c : γ) {l : List β} {i : Nat}
    {x : β} (y : β) (h : l[i]? = some x) :
    ((l.set i y).flatMap f).count c + (f x).count c = (l.flatMap f).count c + (f y).count c := by
  induction l generalizing i with
  | nil => cases h -- there is no entry to replace
  | cons z l ih =>
    cases i with
    | zero =>
      obtain rfl : z = x := by simpa using h
      simp only [List.set_cons_zero, List.flatMap_cons, List.count_append]
      omega
    | succ i =>
      have hget : l[i]? = some x := by simpa using h
      have hrest := ih hget
      simp only [List.set_cons_succ, List.flatMap_cons, List.count_append]
      omega

@[simp]
lemma numbers_wakeCall (phase : Phase α) : (State.wakeCall phase).numbers = phase.numbers := by
  cases phase <;> rfl

lemma flatMap_numbers_wakeCalls (calls : List (Phase α)) :
    (calls.map State.wakeCall).flatMap Phase.numbers = calls.flatMap Phase.numbers := by
  simp only [List.flatMap_map, numbers_wakeCall]

/-- A call takes its batch along from its old point to its new one. -/
lemma count_afloat_setCall {s u : State α} {call : Nat} {phase : Phase α} (n : Nat)
    (at_phase : s.calls[call]? = some phase) (next : Phase α)
    (hcalls : u.calls = s.calls ∨ u.calls = s.calls.map State.wakeCall) :
    (u.setCall call next).afloat.count n + phase.numbers.count n =
      u.afloat.count n + next.numbers.count n := by
  obtain ⟨old, hold, hsame⟩ := State.phase_in_turn hcalls at_phase
  -- the call may have been woken, which does not change its batch
  have hnumbers : old.numbers = phase.numbers := by
    rcases hsame with rfl | rfl
    · rfl
    · rw [numbers_wakeCall]
  have hset := count_flatMap_set Phase.numbers n next hold
  rw [hnumbers] at hset
  simp only [State.afloat, State.setCall, List.count_append]
  omega

/-- A worker takes its batch along from its old point to its new one. -/
lemma count_afloat_setWorker {s : State α} {worker : Nat} {w : Worker α} (n : Nat)
    (at_point : s.workers[worker]? = some w) (next : Worker α) :
    (s.setWorker worker next).afloat.count n + w.numbers.count n =
      s.afloat.count n + next.numbers.count n := by
  have hset := count_flatMap_set Worker.numbers n next at_point
  simp only [State.afloat, State.setWorker, List.count_append]
  omega

/-- A retry is an attempt at the same batch. -/
lemma Execution.batch_of_retry {e e' : Execution α} {reply : Reply} {wait : Duration}
    (h : e.next reply = .retry wait e') : e'.batch = e.batch := by
  unfold Execution.next at h
  split at h
  · cases h
  · split at h
    · obtain ⟨-, rfl⟩ := Execution.Next.retry.inj h
      rfl
    · cases h

/-- The result of an execution has the number of its batch. -/
lemma Execution.sequence_of_done {e : Execution α} {reply : Reply} {result : BatchResult}
    (h : e.next reply = .done result) : result.sequence = e.batch.sequence := by
  unfold Execution.next at h
  split at h
  · obtain rfl := Execution.Next.done.inj h
    rfl
  · split at h
    · cases h
    · obtain rfl := Execution.Next.done.inj h
      rfl

/-! ## Conservation -/

open History

lemma CallTurn.count_afloat {s u : State α} {call : Nat} {label : Label α} {phase next : Phase α}
    {events : List (Event α)} (turn : CallTurn s call label phase next u events) (n : Nat) :
    u.afloat.count n + next.numbers.count n + (settled events).count n + (lost events).count n =
      s.afloat.count n + phase.numbers.count n + (numbers events).count n := by
  cases turn with
  | pushed pushing short =>
    cases pushing with
    | entered holds isOpen =>
      simp [State.afloat, State.publish, State.release, Phase.numbers, numbers]
    | sent served room =>
      simp [State.afloat, State.publish, State.release, Phase.numbers, numbers, List.count_cons]
      omega
  | filled pushing full =>
    cases pushing with
    | entered holds isOpen =>
      simp [State.afloat, Phase.numbers, numbers]
    | sent served room =>
      simp [State.afloat, Phase.numbers, numbers, List.count_cons]
      omega
  | refusedPush unserved woken | refusedFlush unserved woken =>
    rcases woken with rfl | rfl <;>
    simp [State.afloat, State.publish, State.release, flatMap_numbers_wakeCalls, Phase.numbers,
      numbers]
  | sent served room =>
    simp [State.afloat, State.publish, State.release, Phase.numbers, numbers, List.count_cons]
    omega
  | _ =>
    simp [State.afloat, State.publish, State.release, State.endDrain, Phase.numbers, numbers]

lemma WorkerTurn.count_afloat {s u : State α} {worker : Nat} {label : Label α} {w next : Worker α}
    {events : List (Event α)} (turn : WorkerTurn s worker label w next u events) (n : Nat) :
    u.afloat.count n + next.numbers.count n + (settled events).count n + (lost events).count n =
      s.afloat.count n + w.numbers.count n + (numbers events).count n := by
  cases turn with
  | taken head =>
    simp [State.afloat, head, Worker.numbers, numbers, Execution.start, List.count_cons]
    omega
  | retried next =>
    simp [State.afloat, Worker.numbers, numbers, Execution.batch_of_retry next]
  | concluded next =>
    simp [State.afloat, Worker.numbers, numbers, Execution.sequence_of_done next, List.count_cons]
    omega
  | brokenLast unserved =>
    simp [State.afloat, Worker.numbers, numbers, List.count_cons]
    omega
  | _ =>
    simp [State.afloat, Worker.numbers, numbers]

lemma DispatcherTurn.count_afloat {s t : State α} {label : Label α} {events : List (Event α)}
    (turn : DispatcherTurn s label t events) (n : Nat) :
    t.afloat.count n + (settled events).count n + (lost events).count n =
      s.afloat.count n + (numbers events).count n := by
  cases turn with
  | received idle head =>
    simp [State.afloat, idle, head, Dispatcher.inHand, numbers, List.count_cons]
  | stopped idle empty unserved =>
    simp [State.afloat, idle, Dispatcher.inHand, numbers]
  | finished calling next_eq =>
    rcases next_eq with rfl | rfl <;>
    · simp [State.afloat, calling, Dispatcher.inHand, numbers, List.count_cons]
      omega
  | woken waking =>
    simp [State.afloat, State.wakeCalls, waking, Dispatcher.inHand, numbers,
      flatMap_numbers_wakeCalls]

/-- No step makes or loses a batch. -/
theorem Move.count_afloat {s t : State α} {label : Label α} {events : List (Event α)}
    (move : Move s label t events) (n : Nat) :
    t.afloat.count n + (settled events).count n + (lost events).count n =
      s.afloat.count n + (numbers events).count n := by
  cases move with
  | begun request =>
    simp [State.afloat, Phase.numbers, numbers]
  | @call call label phase next u events at_phase turn =>
    have hset := count_afloat_setCall n at_phase next turn.calls_eq
    have hturn := turn.count_afloat n
    omega
  | @worker worker label w next u events at_point turn =>
    rw [← turn.workers_eq] at at_point
    have hset := count_afloat_setWorker n at_point next
    have hturn := turn.count_afloat n
    omega
  | dispatcher turn => exact turn.count_afloat n

/-- A step counts the batches in flight: those that it forms, less those that it settles. -/
lemma Move.inFlight_eq {s t : State α} {label : Label α} {events : List (Event α)}
    (move : Move s label t events) :
    t.inFlight = s.inFlight + (numbers events).length - (settled events).length := by
  cases move with
  | begun request => simp [numbers]
  | call at_phase turn =>
    cases turn with
    | pushed pushing short =>
      cases pushing <;>
      simp [State.setCall, State.publish, State.release, numbers]
    | _ =>
      simp [State.setCall, State.publish, State.release, State.endDrain, numbers]
  | worker at_point turn =>
    cases turn <;> simp [State.setWorker, numbers]
  | dispatcher turn =>
    cases turn <;> simp [State.wakeCalls, numbers]

/-- A step gives the next number to the batch that it forms. -/
lemma Move.range_nextSequence {s t : State α} {label : Label α} {events : List (Event α)}
    (move : Move s label t events) :
    List.range t.nextSequence = List.range s.nextSequence ++ numbers events := by
  cases move with
  | begun request => simp [numbers]
  | call at_phase turn =>
    cases turn with
    | pushed pushing short =>
      cases pushing <;>
      simp [State.setCall, State.publish, State.release, numbers]
    | _ =>
      simp [State.setCall, State.publish, State.release, State.endDrain, numbers, List.range_succ]
  | worker at_point turn =>
    cases turn <;> simp [State.setWorker, numbers]
  | dispatcher turn => cases turn <;> simp [State.wakeCalls, numbers]

/-! ## Runs -/

/-- The books of a batcher balance with its history. -/
structure Balanced (s : State α) (history : List (Event α)) : Prop where
  /-- The batches are numbered in the order in which they were formed. -/
  numbered : numbers history = List.range s.nextSequence
  /-- Every batch is in exactly one place. -/
  conserved : (numbers history).Perm (settled history ++ lost history ++ s.afloat)
  /-- The lost and the floating batches are in flight. -/
  counted : s.inFlight = (lost history).length + s.afloat.length

lemma balanced_initial (config : BatcherConfig) : Balanced (State.initial (α := α) config) [] := by
  have hafloat : (State.initial (α := α) config).afloat = [] := by
    simp [State.initial, State.afloat, Dispatcher.inHand, Worker.numbers]
  constructor
  case numbered =>
    simp [numbers, State.initial]
  case conserved =>
    simp [numbers, hafloat]
  case counted =>
    rw [hafloat]
    rfl

lemma Balanced.step {s t : State α} {label : Label α} {history events : List (Event α)}
    (h : Balanced s history) (move : Move s label t events) : Balanced t (history ++ events) := by
  have conserved : (numbers (history ++ events)).Perm
      (settled (history ++ events) ++ lost (history ++ events) ++ t.afloat) := by
    -- number by number, so that the places of a batch need no order
    rw [List.perm_iff_count]
    intro n
    have hold := h.conserved.count_eq n
    have hmove := move.count_afloat n
    simp only [numbers_append, Projection.append, List.count_append] at hold ⊢
    omega
  refine ⟨by rw [numbers_append, h.numbered, move.range_nextSequence], conserved, ?_⟩
  -- the counter subtracts; that it does not stop at zero follows from the lengths of both ledgers
  have hold := h.conserved.length_eq
  have hnew := conserved.length_eq
  have hflight := move.inFlight_eq
  have hcounted := h.counted
  simp only [numbers_append, Projection.append, List.length_append] at hold hnew ⊢
  omega

/-- The books of every run balance. -/
theorem Runs.balanced {config : BatcherConfig} {labels : List (Label α)} {s : State α}
    {history : List (Event α)} (hrun : Runs config labels s history) : Balanced s history := by
  induction hrun with
  | start => exact balanced_initial config
  | step hrun hstep ih => exact ih.step (State.move_of_step hstep)

/-- Of numbers that are either gone or kept, those that are not gone are kept. -/
lemma filter_notMem_perm {all gone kept : List Nat} (h : all.Perm (gone ++ kept))
    (hnodup : (gone ++ kept).Nodup) : (all.filter (· ∉ gone)).Perm kept := by
  have hgone : gone.filter (· ∉ gone) = [] := by simp
  have hkept : kept.filter (· ∉ gone) = kept := by
    apply List.filter_eq_self.mpr
    intro number hmem
    apply decide_eq_true
    intro hover
    exact (List.nodup_append.mp hnodup).2.2 number hover number hmem rfl
  have hfilter := h.filter (· ∉ gone)
  rwa [List.filter_append, hgone, hkept] at hfilter

/-- No number is in two places. -/
lemma Balanced.nodup {s : State α} {history : List (Event α)} (h : Balanced s history) :
    (settled history ++ lost history ++ s.afloat).Nodup :=
  h.conserved.nodup_iff.mp (h.numbered ▸ List.nodup_range)

/-- Batches of one number are one batch. -/
lemma Balanced.batch_unique {s : State α} {history : List (Event α)} (h : Balanced s history)
    {batch batch' : Batch α} (hbatch : batch ∈ formed history) (hbatch' : batch' ∈ formed history)
    (hsame : batch.sequence = batch'.sequence) : batch = batch' := by
  have hnodup : (numbers history).Nodup := h.numbered ▸ List.nodup_range
  exact List.inj_on_of_nodup_map hnodup hbatch hbatch' hsame

/-! ## Callbacks -/

/-- Only the dispatcher calls back. -/
lemma Move.called_eq {s t : State α} {label : Label α} {events : List (Event α)}
    (move : Move s label t events) :
    s.dispatcher.inHand ++ called events = finished events ++ t.dispatcher.inHand := by
  cases move with
  | begun request => simp
  | @call call label phase next u events at_phase turn =>
    have hdispatcher : (u.setCall call next).dispatcher = s.dispatcher := turn.dispatcher_eq
    rw [hdispatcher]
    cases turn <;> simp
  | worker at_point turn =>
    cases turn <;> simp [State.setWorker]
  | dispatcher turn =>
    cases turn with
    | received idle head =>
      simp [idle, Dispatcher.inHand]
    | stopped idle empty unserved => simp [idle, Dispatcher.inHand]
    | finished calling next_eq =>
      rcases next_eq with rfl | rfl <;>
      simp [calling, Dispatcher.inHand]
    | woken waking => simp [waking, Dispatcher.inHand]

/-- The results are called back one at a time: a callback is over before the next one begins. -/
theorem Runs.called_eq {config : BatcherConfig} {labels : List (Label α)} {s : State α}
    {history : List (Event α)} (hrun : Runs config labels s history) :
    called history = finished history ++ s.dispatcher.inHand := by
  induction hrun with
  | start => rfl
  | step hrun hstep ih =>
    have hmove := (State.move_of_step hstep).called_eq
    rw [Projection.append, Projection.append, ih, List.append_assoc, hmove, List.append_assoc]

end BulkWrite.Batcher
