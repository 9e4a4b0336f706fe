import BulkWrite.Proofs.Batcher.Counters

/-!
# How much is under way

Nobody counts the batches that wait for their execution, and yet there are never many. A worker
executes one batch at a time, the queue takes as many batches as there are workers, and a call that
waits for room in the queue has the pending list all the while, so that nobody else can cut a batch.
Main statement: of the batches that were formed, at most `2 * poolSize + 1` wait for or are under
execution, however many items the callers offer (`Runs.bounded`).
-/

namespace BulkWrite.Batcher

open History

variable {α : Type} {config : BatcherConfig} {labels : List (Label α)} {s t u : State α}
  {history events : List (Event α)} {call worker : Nat} {label : Label α}

/-! ## The queue -/

/-- A call puts its batch into the queue only where there is room. -/
lemma CallTurn.length_queue_le {phase next : Phase α}
    (turn : CallTurn s call label phase next u events)
    (h : s.queue.length ≤ s.config.poolSize.toNat) : u.queue.length ≤ s.config.poolSize.toNat := by
  have happend (batch : Batch α) (room : s.queue.length < s.config.poolSize.toNat) :
      (s.queue ++ [batch]).length ≤ s.config.poolSize.toNat := by
    rw [List.length_append, List.length_singleton]
    omega
  cases turn with
  | pushed pushing | filled pushing =>
    cases pushing with
    | entered holds isOpen => exact h
    | sent served room => exact happend _ room
  | sent served room => exact happend _ room
  | _ => exact h

/-- Workers only take batches out of the queue. -/
lemma WorkerTurn.length_queue_le {w next : Worker α}
    (turn : WorkerTurn s worker label w next u events) : u.queue.length ≤ s.queue.length := by
  cases turn with
  | taken head =>
    rw [head, List.length_cons]
    exact Nat.le_succ _
  | brokenLast unserved => exact Nat.zero_le _
  | _ => exact Nat.le_refl _

lemma Move.length_queue_le (move : Move s label t events)
    (h : s.queue.length ≤ s.config.poolSize.toNat) : t.queue.length ≤ s.config.poolSize.toNat := by
  cases move with
  | begun request => exact h
  | call at_phase turn => exact turn.length_queue_le h
  | worker at_point turn => exact Nat.le_trans turn.length_queue_le h
  | dispatcher turn => cases turn <;> exact h

/-- In every run there are no more batches in the queue than workers. -/
theorem Runs.length_queue_le (hrun : Runs config labels s history) :
    s.queue.length ≤ s.config.poolSize.toNat := by
  induction hrun with
  | start => exact Nat.zero_le _
  | step hrun hstep ih =>
    have move := State.move_of_step hstep
    rw [move.config_eq]
    exact move.length_queue_le ih

/-! ## Workers and calls -/

/-- In every run there are no more executions than workers. -/
lemma Runs.countP_isBusy_le (hrun : Runs config labels s history) :
    s.workers.countP Worker.isBusy ≤ s.config.poolSize.toNat :=
  hrun.staffed.size ▸ List.countP_le_length

/-- A property of no two places of a list holds at one place at most. -/
lemma countP_le_one {β : Type} {p : β → Bool} {l : List β}
    (h : ∀ (i j : Nat) (x y : β), l[i]? = some x → l[j]? = some y → p x = true → p y = true →
      i = j) :
    l.countP p ≤ 1 := by
  induction l with
  | nil => exact Nat.zero_le 1
  | cons x l ih =>
    by_cases hx : p x = true
    · have hnone : l.countP p = 0 := by
        rw [List.countP_eq_zero]
        intro y hmem hy
        obtain ⟨j, hj⟩ := List.mem_iff_getElem?.mp hmem
        cases h 0 (j + 1) x y rfl hj hx hy
      rw [List.countP_cons_of_pos hx]
      exact Nat.le_of_eq (congrArg Nat.succ hnone)
    · rw [List.countP_cons_of_neg hx]
      exact ih fun i j y z hi hj hy hz => Nat.succ.inj (h (i + 1) (j + 1) y z hi hj hy hz)

/-- In every run at most one call has a batch in hand. -/
lemma Runs.countP_isSending_le (hrun : Runs config labels s history) :
    s.calls.countP Phase.isSending ≤ 1 := by
  refine countP_le_one fun call other phase phase' hcall hother hsending hsending' => ?_
  cases phase with
  | sending batch rest =>
    cases phase' with
    | sending batch' rest' => exact hrun.locked.sender_unique hcall hother
    | _ => cases hsending'
  | _ => cases hsending

/-! ## Batches before their result -/

/-- The numbers of the batches that nothing more will come of, or that have a result already. -/
def State.concluded (s : State α) (history : List (Event α)) : List Nat :=
  settled history ++ lost history ++ (s.results ++ s.dispatcher.inHand).map BatchResult.sequence

/-- The batches that were formed and wait for or are under execution. -/
def State.unexecuted (s : State α) (history : List (Event α)) : List (Batch α) :=
  (formed history).filter fun batch => batch.sequence ∉ s.concluded history

/-- A batch before its result is in the hand of a call, in the queue or with a worker. -/
lemma Runs.unexecuted_perm (hrun : Runs config labels s history) :
    ((s.unexecuted history).map Batch.sequence).Perm
      (s.calls.flatMap Phase.numbers ++ s.queue.map Batch.sequence ++
        s.workers.flatMap Worker.numbers) := by
  have hperm : (settled history ++ lost history ++ s.afloat).Perm
      (s.concluded history ++ (s.calls.flatMap Phase.numbers ++ s.queue.map Batch.sequence ++
        s.workers.flatMap Worker.numbers)) := by
    rw [State.concluded, List.append_assoc _ _ (_ ++ _ ++ s.workers.flatMap _)]
    exact (List.perm_append_left_iff _).mpr List.perm_append_comm
  have hkept := filter_notMem_perm (hrun.balanced.conserved.trans hperm)
    (hperm.nodup_iff.mp hrun.balanced.nodup)
  rwa [numbers, List.filter_map] at hkept

/-- So it counts among the calls with a batch in hand, in the queue or among the busy workers. -/
lemma Runs.length_unexecuted (hrun : Runs config labels s history) :
    (s.unexecuted history).length =
      s.calls.countP Phase.isSending + s.queue.length + s.workers.countP Worker.isBusy := by
  have hlength := hrun.unexecuted_perm.length_eq
  rwa [List.length_map, List.length_append, List.length_append, List.length_map,
    State.length_numbers_calls, State.length_numbers_workers] at hlength

/-! ## Main statement -/

/-- **Bounds on what is under way**, in every state of every run: on executions, on the queue, on
batches in the hand of a call, and on all batches that were formed and have no result yet. No two
workers execute batches of one number. -/
theorem Runs.bounded (hrun : Runs config labels s history) :
    s.workers.countP Worker.isBusy ≤ config.poolSize.toNat ∧
    s.queue.length ≤ config.poolSize.toNat ∧
    s.calls.countP Phase.isSending ≤ 1 ∧
    (∀ (worker other : Nat) (w x : Worker α) (e f : Execution α),
      s.workers[worker]? = some w → s.workers[other]? = some x → w.execution? = some e →
      x.execution? = some f → e.batch.sequence = f.batch.sequence → worker = other) ∧
    (s.unexecuted history).length ≤ 2 * config.poolSize.toNat + 1 := by
  have hbusy := hrun.countP_isBusy_le
  have hqueue := hrun.length_queue_le
  have hsending := hrun.countP_isSending_le
  rw [hrun.config_eq] at hbusy hqueue
  refine ⟨hbusy, hqueue, hsending, ?_, ?_⟩
  · intro worker other w x e f hw hx he hf hsame
    exact hrun.balanced.worker_unique hw hx he hf hsame
  · rw [hrun.length_unexecuted]
    omega

/-! One worker that executes a batch, a batch in the queue, and a call with a third one in hand. -/

def crowdedLabels : List (Label Nat) :=
  [.begin (.enqueue [10, 11, 12, 13, 14, 15, 16, 17]), .begin (.enqueue [18, 19]), .advance 0,
    .advance 0, .take 0, .advance 0, .reply 0 (.ok [.success "a"]), .take 0, .advance 0]

theorem bounded_crowded :
    ∃ s history, Runs .small crowdedLabels s history ∧
      s.workers.countP Worker.isBusy = 1 ∧ s.queue.length = 1 ∧
      (s.unexecuted history).map Batch.items = [[12, 13], [14, 15], [16, 17]] ∧
      (s.unexecuted history).length ≤ 2 * BatcherConfig.small.poolSize.toNat + 1 := by
  have hrun : ∃ s history, Runs .small crowdedLabels s history ∧
      s.workers.countP Worker.isBusy = 1 ∧ s.queue.length = 1 ∧
      (s.unexecuted history).map Batch.items = [[12, 13], [14, 15], [16, 17]] :=
    ⟨_, _, Runs.of_run rfl, rfl, rfl, rfl⟩
  obtain ⟨s, history, hrun, hbusy, hqueue, hunexecuted⟩ := hrun
  exact ⟨s, history, hrun, hbusy, hqueue, hunexecuted, (Runs.bounded hrun).2.2.2.2⟩

end BulkWrite.Batcher
