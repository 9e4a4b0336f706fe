import Mathlib.Data.List.Flatten
import BulkWrite.Proofs.Batcher.Delivery

/-!
# Answers of a transport

A transport may answer by the batch and by how often it was submitted (`AnsweredBy`). Every
submission was answered or broke its worker down, or the worker waits for the answer
(`Runs.submissions_eq`), and nobody else submits a batch meanwhile; so the replies to a batch are its
first, second, … answer, whatever the other workers do. Main statement: a result is that of an
execution of the batch on its own, with the same answers (`Runs.result_of_answered`).
-/

namespace BulkWrite.Batcher

open History

variable {α : Type} {config : BatcherConfig} {labels : List (Label α)} {s t u : State α}
  {history events before after : List (Event α)} {worker : Nat} {label : Label α}
  {batch : Batch α} {reply : Reply} {answer : Batch α → Nat → Reply}

/-! ## Submissions -/

/-- The number of the batch that a worker submitted, if any. -/
@[simp]
def Event.numbersSubmitted : Event α → List Nat
  | .submitted _ batch => [batch.sequence]
  | _ => []

/-- The numbers of the batches that were submitted, once for each submission. -/
@[simps]
def History.submitted : Projection α Nat := ⟨Event.numbersSubmitted⟩

/-- The number of the batch to which a worker waits for a reply. -/
def Worker.awaited : Worker α → List Nat
  | .submitting e => [e.batch.sequence]
  | _ => []

/-- The numbers of the batches to which workers wait for a reply. -/
def State.awaited (s : State α) : List Nat :=
  s.workers.flatMap Worker.awaited

lemma WorkerTurn.count_submitted {w next : Worker α}
    (turn : WorkerTurn s worker label w next u events) (n : Nat) :
    (submitted events).count n + w.awaited.count n = (replies n events).length +
      ((History.broken events).map Batch.sequence).count n + next.awaited.count n := by
  cases turn with
  | @retried e | @concluded e =>
    by_cases hn : e.batch.sequence = n <;>
    simp [Worker.awaited, hn]
  | _ =>
    simp [Worker.awaited, Execution.start]

/-- A submission is awaited until it is answered or breaks its worker down. -/
lemma Move.count_submitted (move : Move s label t events) (n : Nat) :
    (submitted events).count n + s.awaited.count n = (replies n events).length +
      ((broken events).map Batch.sequence).count n + t.awaited.count n := by
  cases move with
  | begun request => simp [State.awaited]
  | @call call label phase next u events at_phase turn =>
    have hworkers : (u.setCall call next).workers = s.workers := turn.workers_eq
    rw [State.awaited, State.awaited, hworkers]
    cases turn <;> simp
  | @worker worker label w next u events at_point turn =>
    -- of the workers only this one changes what it awaits
    rw [← turn.workers_eq] at at_point
    have hset := count_flatMap_set Worker.awaited n next at_point
    have hturn := turn.count_submitted n
    rw [turn.workers_eq] at hset
    show _ + (s.workers.flatMap Worker.awaited).count n =
      _ + ((u.workers.set worker next).flatMap Worker.awaited).count n
    rw [turn.workers_eq]
    omega
  | dispatcher turn =>
    have hworkers : t.workers = s.workers := by cases turn <;> rfl
    rw [State.awaited, State.awaited, hworkers]
    cases turn <;> simp

/-- Every submission was answered or broke its worker down, or is awaited. -/
theorem Runs.count_submitted (hrun : Runs config labels s history) (n : Nat) :
    (submitted history).count n = (replies n history).length +
      ((broken history).map Batch.sequence).count n + s.awaited.count n := by
  induction hrun with
  | start =>
    have hnone : (State.initial (α := α) config).awaited = [] := by
      apply List.flatMap_eq_nil_iff.mpr
      intro w hw
      rw [List.eq_of_mem_replicate hw]
      rfl
    rw [hnone]
    rfl
  | step hrun hstep ih =>
    have hmove := (State.move_of_step hstep).count_submitted n
    simp only [Projection.append, List.map_append, List.count_append,
      List.length_append]
    omega

/-- A batch to which a worker waits for a reply has been submitted once more than it was answered. -/
lemma Runs.count_submitted_of_awaited (hrun : Runs config labels s history) {e : Execution α}
    (at_point : s.workers[worker]? = some (.submitting e)) :
    (submitted history).count e.batch.sequence = (replies e.batch.sequence history).length + 1 := by
  have hbroken : ((History.broken history).map Batch.sequence).Sublist (lost history) := by
    rw [Projection.ofHistory, List.map_flatMap]
    apply List.Sublist.flatMap_right
    intro event hevent
    cases event <;> simp
  have hafloat : s.awaited.Sublist s.afloat := by
    have hworkers : s.awaited.Sublist (s.workers.flatMap Worker.numbers) := by
      apply List.Sublist.flatMap_right
      intro w hw
      cases w <;> simp [Worker.awaited, Worker.numbers]
    exact hworkers.trans ((List.sublist_append_right _ _).trans (List.sublist_append_left _ _))
  -- the batch is in one place only, so that it neither broke a worker down nor is awaited twice
  have honce := List.nodup_iff_count_le_one.mp hrun.balanced.nodup e.batch.sequence
  have hawaited : 0 < s.awaited.count e.batch.sequence :=
    List.count_pos_iff.mpr (List.mem_flatMap.mpr ⟨_, List.mem_of_getElem? at_point, by
      simp [Worker.awaited]⟩)
  have hlost := hbroken.count_le e.batch.sequence
  have hworker := hafloat.count_le e.batch.sequence
  have hall := hrun.count_submitted e.batch.sequence
  rw [List.count_append, List.count_append] at honce
  omega

/-! ## Replies -/

/-- A reply comes to a worker that waits for it, and nothing else happens then. -/
lemma Move.of_replied {first rest : List (Event α)}
    (move : Move s label t (first ++ .replied worker batch reply :: rest)) :
    first = [] ∧ ∃ e, s.workers[worker]? = some (.submitting e) ∧ e.batch = batch := by
  generalize hevents : first ++ Event.replied worker batch reply :: rest = events at move
  have hmem : .replied worker batch reply ∈ events := by
    rw [← hevents]
    simp
  cases move with
  | begun request => simp at hmem
  | call at_phase turn => cases turn <;> simp at hmem
  | worker at_point turn =>
    cases turn with
    | retried next | concluded next =>
      obtain ⟨rfl, -⟩ := append_cons_eq_singleton hevents
      obtain ⟨rfl, rfl, -⟩ := Event.replied.inj (List.mem_singleton.mp hmem)
      exact ⟨rfl, _, at_point, rfl⟩
    | _ => simp at hmem
  | dispatcher turn => cases turn <;> simp at hmem

/-- When a batch is answered, it was formed before, and it has been submitted once more than it was
answered. -/
lemma Runs.submitted_of_replied (hrun : Runs config labels s history)
    (hhistory : history = before ++ .replied worker batch reply :: after) :
    batch ∈ formed before ∧
      (submitted before).count batch.sequence = (replies batch.sequence before).length + 1 := by
  obtain ⟨labels, u, past, label, v, first, rest, hpast, hstep, rfl⟩ := hrun.exists_step hhistory
  obtain ⟨rfl, e, at_point, rfl⟩ := (State.move_of_step hstep).of_replied
  rw [List.append_nil]
  exact ⟨hpast.taken_sublist.subset (hpast.executed.underway at_point rfl).1,
    hpast.count_submitted_of_awaited at_point⟩

/-- Where the `k`-th reply to a batch, counted from 0, stands in a history. -/
lemma exists_replied {number k : Nat} (h : (replies number history)[k]? = some reply) :
    ∃ before worker batch after, history = before ++ .replied worker batch reply :: after ∧
      batch.sequence = number ∧ (replies number before).length = k := by
  have hone (event : Event α) : (event.repliesTo number).length ≤ 1 := by
    unfold Event.repliesTo
    split
    · split <;> simp
    · simp
  obtain ⟨before, event, after, hhistory, hevent, hlength⟩ := Projection.exists_event hone h
  cases event with
  | replied worker batch other =>
    by_cases hnumber : batch.sequence = number
    · obtain rfl : other = reply := by simpa [hnumber] using hevent
      exact ⟨before, worker, batch, after, hhistory, hnumber, hlength⟩
    · simp [hnumber] at hevent
  | _ => simp at hevent

/-! ## Main statement -/

/-- A transport answers by the batch, and by how often that batch was submitted until then. -/
def AnsweredBy (answer : Batch α → Nat → Reply) (history : List (Event α)) : Prop :=
  ∀ before worker batch reply after, history = before ++ .replied worker batch reply :: after →
    reply = answer batch ((submitted before).count batch.sequence)

namespace AnsweredBy

lemma nil : AnsweredBy answer [] := by
  intro before worker batch reply after h
  simp at h

/-- Other events than replies are no matter of the transport. -/
lemma append (h : AnsweredBy answer history)
    (hnone : ∀ worker batch reply, .replied worker batch reply ∉ events) :
    AnsweredBy answer (history ++ events) := by
  intro before worker batch reply after hhistory
  rcases split_of_append hhistory with ⟨more, hold, -⟩ | ⟨first, -, hevents⟩
  · exact h before worker batch reply more hold
  · exact absurd (hevents ▸ by simp) (hnone worker batch reply)

lemma concat (h : AnsweredBy answer history)
    (hreply : reply = answer batch ((submitted history).count batch.sequence)) :
    AnsweredBy answer (history ++ [.replied worker batch reply]) := by
  intro before worker' batch' reply' after hhistory
  rcases split_of_append hhistory with ⟨more, hold, -⟩ | ⟨first, hbefore, hevents⟩
  · exact h before worker' batch' reply' more hold
  · obtain ⟨rfl, -⟩ := append_cons_eq_singleton hevents.symm
    obtain ⟨rfl, rfl, rfl⟩ := Event.replied.inj (List.cons.inj hevents).1
    rw [hbefore, List.append_nil]
    exact hreply

end AnsweredBy

/-- The replies to a batch are its answers, the first one first. -/
lemma Runs.reply_eq (hrun : Runs config labels s history) (hanswered : AnsweredBy answer history)
    (hbatch : batch ∈ formed history) {k : Nat}
    (hreply : (replies batch.sequence history)[k]? = some reply) :
    answer batch (k + 1) = reply := by
  obtain ⟨before, worker, batch', after, hhistory, hnumber, rfl⟩ := exists_replied hreply
  obtain ⟨hformed, hsubmitted⟩ := hrun.submitted_of_replied hhistory
  have hformed' : batch' ∈ formed history := by
    rw [hhistory, Projection.append]
    exact List.mem_append_left _ hformed
  obtain rfl := hrun.balanced.batch_unique hformed' hbatch hnumber
  rw [hanswered before worker batch' reply after hhistory, hsubmitted]

/-- The result of a batch that is executed on its own, with the answers to its first, second, …
submission. -/
def alone (policy : RetryPolicy) (answer : Batch α → Nat → Reply) (batch : Batch α) : BatchResult :=
  (Execution.run policy batch fun k => answer batch (k + 1)).result

/-- Whatever is called back is the result of a batch that is executed on its own. -/
theorem Runs.result_of_answered (hvalid : config.validate = .ok ())
    (hrun : Runs config labels s history) (hanswered : AnsweredBy answer history)
    {result : BatchResult} (h : .called result ∈ history) :
    ∃ batch ∈ formed history, result.sequence = batch.sequence ∧
      result = alone config.retry answer batch := by
  have hcalled := List.mem_append_left s.results (mem_called.mpr h)
  obtain ⟨batch, htaken, hsequence, hyields⟩ := hrun.executed.yielded hcalled
  have hformed := hrun.taken_sublist.subset htaken
  refine ⟨batch, hformed, hsequence, ?_⟩
  rw [hrun.config_eq] at hyields
  -- the replies that the worker got are the first answers to the batch, so a run on its own gets them
  exact (Execution.run_eq_of_yields (hrun.items_ne_nil hvalid hformed) hyields fun k reply =>
    hrun.reply_eq hanswered hformed).1.symm

end BulkWrite.Batcher
