import BulkWrite.Proofs.Batcher.Pool
import BulkWrite.Proofs.Batcher.Provenance

/-!
# Delivery

Main statement: while no call is dropped and a worker is left, no batch is called back twice, a
result is what the executor makes of the one batch with its number, and the counter of the batches
in flight is right; and where nobody can go on any more, every batch has been called back, but for
those that broke a worker down (`Runs.delivery`).
-/

namespace BulkWrite.Batcher

open History

variable {α : Type} {config : BatcherConfig} {labels : List (Label α)} {s : State α}
  {history : List (Event α)}

/-! ## Where nobody can go on -/

/-- Whether a caller acts. -/
def Label.isCaller : Label α → Bool
  | .begin _ | .cancel _ => true
  | _ => false

/-- No call and no task can go on, and nothing is awaited from the transport or from the clock. -/
def State.IsQuiet (s : State α) : Prop :=
  ∀ label : Label α, label.isCaller = false → s.step label = none

namespace State.IsQuiet

/-- No worker is at work. -/
lemma execution_eq_none (h : s.IsQuiet) {worker : Nat} {w : Worker α}
    (hw : s.workers[worker]? = some w) : w.execution? = none := by
  cases w with
  | submitting e =>
    -- whatever the transport answers, the worker could go on
    have hreply := h (.reply worker (.ok [])) rfl
    simp [State.step, hw] at hreply
  | backingOff wait e =>
    have hresume := h (.resume worker) rfl
    simp [State.step, hw] at hresume
  | _ => rfl

/-- No batch is left in the queue. -/
lemma queue_eq_nil (h : s.IsQuiet) (hstaffed : Staffed s history) {worker : Nat} {w : Worker α}
    (hw : s.workers[worker]? = some w) (hsound : ∀ failure, w ≠ .crashed failure) :
    s.queue = [] := by
  have hnone := h.execution_eq_none hw
  cases w with
  | idle =>
    have htake := h (.take worker) rfl
    cases hqueue : s.queue with
    | nil => rfl
    | cons batch queue => simp [State.step, hw, State.take, hqueue] at htake
  | submitting | backingOff => cases hnone
  | exited => exact (hstaffed.drained_of_exited hw).2
  | crashed failure => exact absurd rfl (hsound failure)

/-- No call has a batch in hand. -/
lemma not_sending (h : s.IsQuiet) (hqueue : s.queue = []) (hpool : 0 < s.config.poolSize.toNat)
    {call : Nat} {batch : Batch α} {rest : Rest α} :
    s.calls[call]? ≠ some (.sending batch rest) := by
  intro hcall
  have hadvance := h (.advance call) rfl
  cases hserved : s.isServed <;>
  simp [State.step, hcall, State.advance, hserved, hqueue, hpool] at hadvance

/-- No result is left to be called back. -/
lemma results_eq_nil (h : s.IsQuiet) (hstaffed : Staffed s history) :
    s.results ++ s.dispatcher.inHand = [] := by
  cases hdispatcher : s.dispatcher with
  | idle =>
    have hreceive := h .receive rfl
    cases hresults : s.results with
    | nil => rfl
    | cons result results =>
      simp [State.step, hdispatcher, State.receive, hresults] at hreceive
  | calling result =>
    have hfinish := h .finish rfl
    simp [State.step, hdispatcher] at hfinish
  | waking =>
    have hwake := h .wake rfl
    simp [State.step, hdispatcher] at hwake
  | exited => rw [(hstaffed.unserved_of_stopped hdispatcher).2]; rfl

/-- No batch is on its way. -/
lemma afloat_eq_nil (h : s.IsQuiet) (hstaffed : Staffed s history)
    (hpool : 0 < s.config.poolSize.toNat) (hqueue : s.queue = []) : s.afloat = [] := by
  refine State.afloat_eq_nil (fun call batch rest => h.not_sending hqueue hpool) hqueue ?_
    (h.results_eq_nil hstaffed)
  intro worker w hw
  have hnone := h.execution_eq_none hw
  cases w with
  | submitting | backingOff => cases hnone
  | _ => rfl

end State.IsQuiet

/-! ## Runs in which a worker is left -/

/-- Where no call is dropped, none is dropped with a batch in hand. -/
lemma Runs.not_abandoned (hrun : Runs config labels s history)
    (hkept : ∀ label ∈ labels, label.isCancel = false) :
    history.any Event.isAbandoned = false := by
  induction hrun with
  | start => rfl
  | @step labels s t label history events hrun hstep ih =>
    have hold := ih fun label hlabel => hkept label (List.mem_append_left _ hlabel)
    have hlabel := hkept label (List.mem_append_right _ List.mem_cons_self)
    rw [List.any_append, hold, Bool.false_or]
    cases State.move_of_step hstep with
    | begun request => rfl
    | call at_phase turn =>
      cases turn with
      | abandoned => cases hlabel
      | _ => rfl
    | worker at_point turn => cases turn <;> simp [Event.isAbandoned]
    | dispatcher turn => cases turn <;> rfl

section

variable {worker : Nat} {w : Worker α} (hrun : Runs config labels s history)
  (hw : s.workers[worker]? = some w) (hsound : ∀ failure, w ≠ .crashed failure)

include hrun hw hsound

/-- The batches that are settled are those whose callback is over. -/
lemma Runs.settled_eq : settled history = (finished history).map BatchResult.sequence :=
  settled_eq_finished (hrun.staffed.all_served hw hsound)

/-- No batch is called back twice. -/
theorem Runs.called_nodup : ((called history).map BatchResult.sequence).Nodup := by
  rw [hrun.called_eq, List.map_append, ← hrun.settled_eq hw hsound]
  have hhand : (s.dispatcher.inHand.map BatchResult.sequence).Sublist s.afloat := by
    rw [State.afloat, List.map_append]
    exact (List.sublist_append_right _ _).trans (List.sublist_append_right _ _)
  exact hrun.balanced.nodup.sublist ((List.sublist_append_left _ _).append hhand)

/-- The batches in flight are those whose callback is not over. -/
theorem Runs.inFlight_eq : s.inFlight =
    ((numbers history).filter
      fun number => number ∉ (finished history).map BatchResult.sequence).length := by
  have hperm := hrun.balanced.conserved
  have hnodup := hrun.balanced.nodup
  -- of the ledger, the filter drops the settled part and keeps the lost and the floating ones
  rw [hrun.settled_eq hw hsound, List.append_assoc] at hperm hnodup
  rw [(filter_notMem_perm hperm hnodup).length_eq, hrun.balanced.counted, List.length_append]

omit hw hsound

/-- Whatever is called back is the result of a batch: what the executor makes of it, given the
replies to its submissions. -/
theorem Runs.result_of_called (hvalid : config.validate = .ok ()) {result : BatchResult}
    (h : .called result ∈ history) :
    ∃ batch ∈ formed history, result.sequence = batch.sequence ∧
      ∃ answer : Nat → Reply, (Execution.run config.retry batch answer).result = result ∧
        replies batch.sequence history =
          (List.range (Execution.run config.retry batch answer).submissions).map answer := by
  have hcalled := List.mem_append_left s.results (mem_called.mpr h)
  obtain ⟨batch, htaken, hsequence, hyields⟩ := hrun.executed.yielded hcalled
  have hformed := hrun.taken_sublist.subset htaken
  have hsome := hrun.items_ne_nil hvalid hformed
  rw [hrun.config_eq] at hyields
  exact ⟨batch, hformed, hsequence, Execution.run_of_yields hsome hyields⟩

include hw hsound

/-- Where nobody can go on, every batch has been called back that did not break a worker down. -/
theorem Runs.called_once_of_quiet (hvalid : config.validate = .ok ())
    (hkept : ∀ label ∈ labels, label.isCancel = false) (hquiet : s.IsQuiet) {batch : Batch α}
    (hbatch : batch ∈ formed history) (hunbroken : batch ∉ broken history) :
    ((called history).map BatchResult.sequence).count batch.sequence = 1 := by
  have hqueue := hquiet.queue_eq_nil hrun.staffed hw hsound
  have hafloat := hquiet.afloat_eq_nil hrun.staffed (hrun.poolSize_pos hvalid) hqueue
  have hserved := hrun.staffed.all_served hw hsound
  have hlost := lost_eq_broken hserved (hrun.not_abandoned hkept)
  have hconserved := hrun.balanced.conserved
  rw [hrun.settled_eq hw hsound, hlost, hafloat, List.append_nil] at hconserved
  have hmem : batch.sequence ∈ numbers history := List.mem_map_of_mem hbatch
  refine List.count_eq_one_of_mem (hrun.called_nodup hw hsound) ?_
  rw [hrun.called_eq, List.map_append]
  -- nothing is on its way, so the batch is settled, or it broke a worker down
  rcases List.mem_append.mp (hconserved.mem_iff.mp hmem) with hfinished | hbroken
  · exact List.mem_append_left _ hfinished
  · obtain ⟨batch', hbatch', hsequence⟩ := List.mem_map.mp hbroken
    have hformed := hrun.taken_sublist.subset (hrun.executed.taken_of_broken hbatch')
    rw [hrun.balanced.batch_unique hformed hbatch hsequence] at hbatch'
    exact absurd hbatch' hunbroken

end

/-- While no call is dropped and a worker is left, every batch is called back once. -/
theorem Runs.delivery (hvalid : config.validate = .ok ()) (hrun : Runs config labels s history)
    (hkept : ∀ label ∈ labels, label.isCancel = false) {worker : Nat} {w : Worker α}
    (hw : s.workers[worker]? = some w) (hsound : ∀ failure, w ≠ .crashed failure) :
    ((called history).map BatchResult.sequence).Nodup ∧
    (∀ result, .called result ∈ history →
      ∃ batch ∈ formed history, result.sequence = batch.sequence ∧
        ∃ answer : Nat → Reply, (Execution.run config.retry batch answer).result = result ∧
          replies batch.sequence history =
            (List.range (Execution.run config.retry batch answer).submissions).map answer) ∧
    s.inFlight =
      ((numbers history).filter
        fun number => number ∉ (finished history).map BatchResult.sequence).length ∧
    (∀ result, s.dispatcher = .calling result → 0 < s.inFlight) ∧
    (s.IsQuiet → ∀ batch ∈ formed history, batch ∉ broken history →
      ((called history).map BatchResult.sequence).count batch.sequence = 1) := by
  refine ⟨hrun.called_nodup hw hsound, fun result => hrun.result_of_called hvalid,
    hrun.inFlight_eq hw hsound, ?_, ?_⟩
  · intro result hcalling
    rw [hrun.balanced.counted, State.afloat, hcalling]
    simp only [Dispatcher.inHand, List.length_append, List.length_map, List.length_singleton]
    omega
  · intro hquiet batch hbatch hunbroken
    exact hrun.called_once_of_quiet hw hsound hvalid hkept hquiet hbatch hunbroken

/-! Two workers, of which the first one breaks down. -/

def pairConfig : BatcherConfig := { batchSize := 1, poolSize := 2, retry := .noRetries }

def deliveryLabels : List (Label Nat) :=
  [.begin (.enqueue [10, 11]), .advance 0, .advance 0, .take 0, .crash 0 "no route",
    .advance 0, .take 1, .reply 1 (.ok [.success "b"]), .receive, .finish]

def deliveryHistory : List (Event Nat) :=
  let result : BatchResult := ⟨1, [.success "b"], none, { attempts := 1 }⟩
  [.began 0 (.enqueue [10, 11]), .pushed 0 [10], .formed 0 ⟨0, [10]⟩, .pushed 0 [11],
    .formed 0 ⟨1, [11]⟩, .taken 0 ⟨0, [10]⟩, .submitted 0 ⟨0, [10]⟩, .broken 0 ⟨0, [10]⟩,
    .pushed 0 [], .returned 0 (.ok ()), .taken 1 ⟨1, [11]⟩, .submitted 1 ⟨1, [11]⟩,
    .replied 1 ⟨1, [11]⟩ (.ok [.success "b"]), .called result, .finished result]

/-- The first worker is gone, and the other one waits for a batch. -/
lemma quiet_pair : ∃ s, Runs pairConfig deliveryLabels s deliveryHistory ∧
    s.workers[1]? = some .idle ∧ s.IsQuiet := by
  refine ⟨_, Runs.of_run rfl, rfl, fun label hlabel => ?_⟩
  cases label with
  | begin | cancel => cases hlabel
  | advance call | expire call => cases call <;> rfl
  | take worker | reply worker | crash worker | resume worker =>
    rcases worker with _ | _ | worker <;> rfl
  | receive | finish | wake => rfl

theorem delivery_pair :
    ∃ s, pairConfig.validate = .ok () ∧ Runs pairConfig deliveryLabels s deliveryHistory ∧
      (∀ label ∈ deliveryLabels, label.isCancel = false) ∧ s.workers[1]? = some .idle ∧
      s.IsQuiet ∧ s.inFlight = 1 ∧
      ((called deliveryHistory).map BatchResult.sequence).count 1 = 1 := by
  obtain ⟨s, hrun, hw, hquiet⟩ := quiet_pair
  have hkept : ∀ label ∈ deliveryLabels, label.isCancel = false := by
    simp [deliveryLabels, Label.isCancel]
  have h := Runs.delivery rfl hrun hkept hw (by simp)
  refine ⟨s, rfl, hrun, hkept, hw, hquiet, h.2.2.1, h.2.2.2.2 hquiet ⟨1, [11]⟩ ?_ ?_⟩
  · simp [deliveryHistory]
  · simp [deliveryHistory]

end BulkWrite.Batcher
