import BulkWrite.Proofs.Batcher.Ledger
import BulkWrite.Proofs.Batcher.Pool
import BulkWrite.Proofs.Batcher.Request

/-!
# The flush barrier

A flush returns at a moment at which nothing is in flight. The ledger says what that means: no batch
is afloat and none was lost, so no worker broke down, so none was refused, and all that were formed
are settled by their callbacks (`Runs.delivered_of_idle`). Main statement: when a flush returns,
every batch formed before it began, and the one that it cut itself, has been called back and its
callback is over (`Runs.flush_barrier`).
-/

namespace BulkWrite.Batcher

open History

variable {α : Type}

/-- The callback of a batch was invoked and was over. -/
def Delivered (batch : Batch α) (history : List (Event α)) : Prop :=
  ∃ result, .called result ∈ history ∧ .finished result ∈ history ∧
    result.sequence = batch.sequence

lemma Delivered.append {batch : Batch α} {history : List (Event α)} (h : Delivered batch history)
    (later : List (Event α)) : Delivered batch (history ++ later) := by
  obtain ⟨result, hcalled, hfinished, hsequence⟩ := h
  exact ⟨result, List.mem_append_left _ hcalled, List.mem_append_left _ hfinished, hsequence⟩

lemma delivered_of_mem_finished {config : BatcherConfig} {labels : List (Label α)} {s : State α}
    {history : List (Event α)} (hrun : Runs config labels s history) {batch : Batch α}
    (h : batch.sequence ∈ (finished history).map BatchResult.sequence) :
    Delivered batch history := by
  obtain ⟨result, hfinished, hsequence⟩ := List.mem_map.mp h
  have hcalled : result ∈ called history := by
    rw [hrun.called_eq]
    exact List.mem_append_left _ hfinished
  exact ⟨result, mem_called.mp hcalled, mem_finished.mp hfinished, hsequence⟩

/-- Where nothing is in flight, every batch that was formed has been called back. -/
theorem Runs.delivered_of_idle {config : BatcherConfig} (hvalid : config.validate = .ok ())
    {labels : List (Label α)} {s : State α} {history : List (Event α)}
    (hrun : Runs config labels s history) (hidle : s.inFlight = 0) {batch : Batch α}
    (hbatch : batch ∈ formed history) : Delivered batch history := by
  have hbalanced := hrun.balanced
  have hcounted := hbalanced.counted
  have hlost : lost history = [] := List.length_eq_zero_iff.mp (by omega)
  have hafloat : s.afloat = [] := List.length_eq_zero_iff.mp (by omega)
  have hserved := hrun.all_served hvalid (broken_eq_nil hlost)
  have hconserved := hbalanced.conserved
  -- of the ledger nothing remains but the callbacks that are over
  rw [hlost, hafloat, List.append_nil, List.append_nil, settled_eq_finished hserved] at hconserved
  have hmem : batch.sequence ∈ numbers history := List.mem_map_of_mem hbatch
  exact delivered_of_mem_finished hrun (hconserved.mem_iff.mp hmem)

/-- A step ends a flush only while nothing is in flight, and does so first of all. -/
lemma Move.idle_of_flushed {s t : State α} {label : Label α} {first rest : List (Event α)}
    {call : Nat} {outcome : CallOutcome}
    (move : Move s label t (first ++ .flushed call outcome :: rest)) :
    s.inFlight = 0 ∧ first = [] := by
  generalize hevents : first ++ Event.flushed call outcome :: rest = events at move
  have hmem : .flushed call outcome ∈ events := by
    rw [← hevents]
    simp
  cases move with
  | begun request => simp at hmem
  | call at_phase turn =>
    cases turn with
    | drained idle | flushed idle last =>
      refine ⟨idle, ?_⟩
      rcases first with _ | ⟨event, _ | ⟨event', first⟩⟩
      · rfl
      · simp at hevents
      · simp at hevents
    | _ => simp at hmem
  | worker at_point turn => cases turn <;> simp at hmem
  | dispatcher turn => cases turn <;> simp at hmem

/-- When a flush is over, every batch formed until then has been called back. -/
theorem Runs.delivered_of_flushed {config : BatcherConfig} (hvalid : config.validate = .ok ())
    {labels : List (Label α)} {s : State α} {history earlier later : List (Event α)} {call : Nat}
    {outcome : CallOutcome} (hrun : Runs config labels s history)
    (h : history = earlier ++ .flushed call outcome :: later) {batch : Batch α}
    (hbatch : batch ∈ formed earlier) : Delivered batch earlier := by
  obtain ⟨before, u, past, label, v, first, rest, hpast, hstep, rfl⟩ := hrun.exists_step h
  obtain ⟨hidle, rfl⟩ := (State.move_of_step hstep).idle_of_flushed
  rw [List.append_nil] at hbatch ⊢
  exact hpast.delivered_of_idle hvalid hidle hbatch

/-- A flush that was called directly returns when it is over. -/
lemma CallTurn.flushed_of_returned {s u : State α} {call : Nat} {label : Label α} {phase : Phase α}
    {events : List (Event α)} {outcome : CallOutcome} {pushed : List α}
    (turn : CallTurn s call label phase (.returned outcome) u events)
    (hserves : phase.Serves .flush pushed) :
    events = [.flushed call outcome, .returned call outcome] := by
  cases turn with
  | pushed pushing short => cases pushing <;> simp [Phase.Serves] at hserves
  | flushed idle last => rfl
  | _ => simp [Phase.Serves] at hserves

/-- When a flush that was called directly returns, it has just been over. -/
lemma Runs.flushed_of_returned {config : BatcherConfig} {labels : List (Label α)} {s : State α}
    {history earlier later : List (Event α)} {call : Nat} {outcome : CallOutcome}
    (hrun : Runs config labels s history) (hflush : .began call .flush ∈ earlier)
    (h : history = earlier ++ .returned call outcome :: later) :
    ∃ past, earlier = past ++ [.flushed call outcome] := by
  have hbegan : .began call .flush ∈ history := h ▸ List.mem_append_left _ hflush
  obtain ⟨labels, u, past, label, phase, v, first, rest, -, rfl, -, -, hserves, turn⟩ :=
    hrun.turn_of_returned h hbegan
  have hevents := turn.flushed_of_returned hserves
  refine ⟨past, ?_⟩
  rcases first with _ | ⟨event, _ | ⟨event', first⟩⟩
  · simp at hevents
  · obtain ⟨rfl, -⟩ := List.cons.inj hevents
    rfl
  · simp at hevents

/-- **Flush barrier.** When a flush is over, called directly or by a shutdown, every batch that was
formed before the flush began has been called back and its callback is over; so has the batch that
the flush cut itself, if it succeeds. -/
theorem Runs.flush_barrier {config : BatcherConfig} (hvalid : config.validate = .ok ())
    {labels : List (Label α)} {s : State α} {history before middle after : List (Event α)}
    {call : Nat} {request : Request α} {outcome : CallOutcome} {event : Event α}
    (hrun : Runs config labels s history)
    (hhistory : history = before ++ .began call request :: middle ++ event :: after)
    (hover : event = .flushed call outcome ∨ request = .flush ∧ event = .returned call outcome) :
    (∀ other batch, .formed other batch ∈ before →
      Delivered batch (before ++ .began call request :: middle)) ∧
    (outcome = .ok () → ∀ batch, .formed call batch ∈ middle →
      Delivered batch (before ++ .began call request :: middle)) := by
  -- either event tells that the flush is over, and then all that was formed so far is delivered
  have key {batch : Batch α} (hbatch : batch ∈ formed (before ++ .began call request :: middle)) :
      Delivered batch (before ++ .began call request :: middle) := by
    rcases hover with rfl | ⟨rfl, rfl⟩
    · exact hrun.delivered_of_flushed hvalid hhistory hbatch
    · obtain ⟨past, hpast⟩ := hrun.flushed_of_returned (by simp) hhistory
      rw [hpast, List.append_assoc] at hhistory
      rw [hpast] at hbatch ⊢
      have hformed : batch ∈ formed past := by simpa using hbatch
      exact (hrun.delivered_of_flushed hvalid hhistory hformed).append _
  refine ⟨fun other batch hmem => key ?_, fun _ batch hmem => key ?_⟩
  · rw [Projection.append]
    exact List.mem_append_left _ (mem_formed.mpr ⟨other, hmem⟩)
  · rw [Projection.append, Projection.cons]
    exact List.mem_append_right _ (List.mem_append_right _ (mem_formed.mpr ⟨call, hmem⟩))

/-! A flush that waits for a full batch and for the one that it cuts itself, while another call
pushes an item. -/

def barrierLabels : List (Label Nat) :=
  [.begin (.enqueue [10, 11]), .advance 0, .advance 0, .begin (.enqueue [12]), .advance 1,
    .begin .flush, .advance 2, .take 0, .advance 2, .begin (.enqueue [13]), .advance 3,
    .reply 0 (.ok [.success "a", .success "b"]), .receive, .finish, .take 0,
    .reply 0 (.ok [.success "c"]), .receive, .finish, .advance 2]

def barrierBefore : List (Event Nat) :=
  [.began 0 (.enqueue [10, 11]), .pushed 0 [10, 11], .formed 0 ⟨0, [10, 11]⟩, .pushed 0 [],
    .returned 0 (.ok ()), .began 1 (.enqueue [12]), .pushed 1 [12], .returned 1 (.ok ())]

def barrierMiddle : List (Event Nat) :=
  let first : BatchResult := ⟨0, [.success "a", .success "b"], none, { attempts := 1 }⟩
  let second : BatchResult := ⟨1, [.success "c"], none, { attempts := 1 }⟩
  [.formed 2 ⟨1, [12]⟩, .taken 0 ⟨0, [10, 11]⟩, .submitted 0 ⟨0, [10, 11]⟩,
    .began 3 (.enqueue [13]), .pushed 3 [13], .returned 3 (.ok ()),
    .replied 0 ⟨0, [10, 11]⟩ (.ok first.items), .called first, .finished first,
    .taken 0 ⟨1, [12]⟩, .submitted 0 ⟨1, [12]⟩, .replied 0 ⟨1, [12]⟩ (.ok second.items),
    .called second, .finished second]

theorem flush_barrier_small :
    ∃ s, BatcherConfig.small.validate = .ok () ∧
      Runs .small barrierLabels s (barrierBefore ++ .began 2 .flush :: barrierMiddle ++
        .flushed 2 (.ok ()) :: [.returned 2 (.ok ())]) ∧
      Delivered ⟨0, [10, 11]⟩ (barrierBefore ++ .began 2 .flush :: barrierMiddle) ∧
      Delivered ⟨1, [12]⟩ (barrierBefore ++ .began 2 .flush :: barrierMiddle) := by
  have hrun : Runs .small barrierLabels _ (barrierBefore ++ .began 2 .flush :: barrierMiddle ++
      .flushed 2 (.ok ()) :: [.returned 2 (.ok ())]) := Runs.of_run rfl
  have h := Runs.flush_barrier rfl hrun rfl (.inl rfl)
  exact ⟨_, rfl, hrun, h.1 0 _ (by simp [barrierBefore]), h.2 rfl _ (by simp [barrierMiddle])⟩

end BulkWrite.Batcher
