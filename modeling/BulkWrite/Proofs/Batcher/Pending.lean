import BulkWrite.Proofs.Batcher.Pool
import BulkWrite.Proofs.Batcher.Request

/-!
# The pending list

An item that was pushed is in a batch, or a flush of the closed batcher discarded it, or it is still
pending, in the order

`pushed = items of the batches formed ++ discarded ++ pending`

(`Portioned.split`). Nothing is discarded while the batcher is open and no batch is formed after
that, which is why the middle part can stand where it does. A call that enqueues cuts batches that
are full, any other call cuts batches that are not (`Portioned.sized`).
-/

namespace BulkWrite.Batcher

open History

variable {α : Type}

/-! ## One step -/

/-- Whoever pushes items pushes them to an open batcher. -/
lemma Pushing.isOpen {s u : State α} {call : Nat} {phase : Phase α} {items : List α}
    (hlocked : Locked s) (at_phase : s.calls[call]? = some phase)
    (pushing : Pushing s call phase u items) : s.closed = false := by
  cases pushing with
  | entered holds isOpen => exact isOpen
  | sent served room => exact hlocked.sender_open at_phase

/-- A step moves items from the pending list to a batch, or drops them. -/
lemma Move.split {s t : State α} {label : Label α} {events : List (Event α)}
    (move : Move s label t events) :
    s.pending ++ pushed events =
      (formed events).flatMap Batch.items ++ discarded events ++ t.pending := by
  cases move with
  | begun request =>
    simp [pushed]
  | call at_phase turn =>
    cases turn with
    | pushed pushing short =>
      cases pushing <;>
      simp [State.setCall, State.publish, State.release, pushed, Function.comp_def]
    | filled pushing full =>
      cases pushing <;>
      simp [State.setCall, pushed, Function.comp_def]
    | _ =>
      simp [State.setCall, State.publish, State.release, State.endDrain, pushed]
  | worker at_point turn =>
    cases turn <;>
    simp [State.setWorker, pushed]
  | dispatcher turn =>
    cases turn <;>
    simp [State.wakeCalls, pushed]

/-- An open batcher drops no item. -/
lemma Move.discarded_eq_nil {s t : State α} {label : Label α} {events : List (Event α)}
    (move : Move s label t events) (h : s.closed = false) : discarded events = [] := by
  cases move with
  | begun request => rfl
  | call at_phase turn =>
    cases turn with
    | discarded holds closed nonempty => rw [h] at closed; cases closed
    | _ => rfl
  | worker at_point turn => cases turn <;> simp
  | dispatcher turn => cases turn <;> rfl

/-- A closed batcher gets no item and forms no batch. -/
lemma Move.formed_eq_nil {s t : State α} {label : Label α} {events : List (Event α)}
    (hlocked : Locked s) (move : Move s label t events) (h : s.closed = true) :
    pushes events = [] ∧ formed events = [] := by
  cases move with
  | begun request => exact ⟨rfl, rfl⟩
  | call at_phase turn =>
    cases turn with
    | pushed pushing short => rw [pushing.isOpen hlocked at_phase] at h; cases h
    | filled pushing full => rw [pushing.isOpen hlocked at_phase] at h; cases h
    | cut holds isOpen nonempty => rw [isOpen] at h; cases h
    | _ => exact ⟨rfl, rfl⟩
  | worker at_point turn => cases turn <;> simp
  | dispatcher turn => cases turn <;> exact ⟨rfl, rfl⟩

/-- The pending list stays shorter than a batch. -/
lemma Move.short {s t : State α} {label : Label α} {events : List (Event α)}
    (move : Move s label t events) (h : s.pending.length < s.config.batchSize.toNat) :
    t.pending.length < s.config.batchSize.toNat := by
  have hpos : 0 < s.config.batchSize.toNat := by omega
  cases move with
  | begun request => exact h
  | call at_phase turn =>
    cases turn with
    | pushed pushing short =>
      cases pushing <;>
      · simp only [State.setCall, State.publish, State.release, List.length_append]
        omega
    | filled | cut | discarded => exact hpos
    | _ => exact h
  | worker at_point turn => cases turn <;> exact h
  | dispatcher turn => cases turn <;> exact h

/-- How many items a batch has that such a call forms. -/
def Request.Sizes (batchSize : Nat) (size : Nat) : Request α → Prop
  | .enqueue _ => size = batchSize
  | .flush | .shutdown => 0 < size ∧ size < batchSize

lemma Request.Sizes.pos {batchSize size : Nat} {request : Request α}
    (h : request.Sizes batchSize size) (hpos : 0 < batchSize) : 0 < size := by
  cases request with
  | enqueue items => exact h ▸ hpos
  | flush | shutdown => exact h.1

/-- A call that enqueues forms full batches, any other call forms smaller ones. -/
lemma Move.sized {s t : State α} {label : Label α} {history events : List (Event α)}
    (hasked : Asked s history) (hshort : s.pending.length < s.config.batchSize.toNat)
    (move : Move s label t events) {call : Nat} {batch : Batch α}
    (h : .formed call batch ∈ events) :
    ∃ request, .began call request ∈ history ∧
      request.Sizes s.config.batchSize.toNat batch.items.length := by
  cases move with
  | begun request => simp at h
  | call at_phase turn =>
    obtain ⟨request, hbegan, hserves⟩ := hasked.serves at_phase
    -- the point of the call tells what it was asked for, and so which bound holds
    cases turn with
    | @filled phase u items rest pushing full =>
      obtain ⟨rfl, rfl⟩ : call = _ ∧ batch = _ := by simpa using h
      refine ⟨request, hbegan, ?_⟩
      have hsize : (s.pending ++ items).length = s.config.batchSize.toNat := by
        rw [List.length_append, full]
        omega
      cases pushing with
      | entered holds isOpen =>
        obtain ⟨rfl, -⟩ := hserves
        exact hsize
      | sent served room =>
        obtain rfl := hserves
        exact hsize
    | @cut closing holds isOpen nonempty =>
      obtain ⟨rfl, rfl⟩ : call = _ ∧ batch = _ := by simpa using h
      obtain ⟨rfl, -⟩ := hserves
      have hsize := And.intro (List.length_pos_of_ne_nil nonempty) hshort
      cases closing <;> exact ⟨_, hbegan, hsize⟩
    | _ => simp at h
  | worker at_point turn => cases turn <;> simp at h
  | dispatcher turn => cases turn <;> simp at h

/-! ## Runs -/

/-- Where the items that were pushed are. -/
structure Portioned (s : State α) (history : List (Event α)) : Prop where
  split : pushed history =
    (formed history).flatMap Batch.items ++ discarded history ++ s.pending
  discarded_eq_nil : s.closed = false → discarded history = []
  short : s.pending.length < s.config.batchSize.toNat
  sized {call : Nat} {batch : Batch α} : .formed call batch ∈ history →
    ∃ request, .began call request ∈ history ∧
      request.Sizes s.config.batchSize.toNat batch.items.length

lemma Portioned.step {s t : State α} {label : Label α} {history events : List (Event α)}
    (h : Portioned s history) (hlocked : Locked s) (hasked : Asked s history)
    (move : Move s label t events) : Portioned t (history ++ events) := by
  constructor
  case split =>
    -- either nothing has been discarded so far, or nothing is formed any more
    have hswap : discarded history ++ (formed events).flatMap Batch.items =
        (formed events).flatMap Batch.items ++ discarded history := by
      cases hclosed : s.closed with
      | false => simp [h.discarded_eq_nil hclosed]
      | true => simp [move.formed_eq_nil hlocked hclosed]
    rw [pushed_append, h.split, List.append_assoc, move.split]
    simp only [Projection.append, List.flatMap_append, List.append_assoc]
    rw [← List.append_assoc (discarded history), hswap, List.append_assoc]
  case discarded_eq_nil =>
    intro hopen
    have hold : s.closed = false := by
      by_contra hclosed
      rw [move.closed_of_closed (by simpa using hclosed)] at hopen
      cases hopen
    rw [Projection.append, h.discarded_eq_nil hold, move.discarded_eq_nil hold]
    rfl
  case short =>
    rw [move.config_eq]
    exact move.short h.short
  case sized =>
    intro call batch hformed
    rw [move.config_eq]
    rcases List.mem_append.mp hformed with hformed | hformed
    · obtain ⟨request, hbegan, hsizes⟩ := h.sized hformed
      exact ⟨request, List.mem_append_left _ hbegan, hsizes⟩
    · obtain ⟨request, hbegan, hsizes⟩ := move.sized hasked h.short hformed
      exact ⟨request, List.mem_append_left _ hbegan, hsizes⟩

/-- Where the items of every run are. -/
theorem Runs.portioned {config : BatcherConfig} (hvalid : config.validate = .ok ())
    {labels : List (Label α)} {s : State α} {history : List (Event α)}
    (hrun : Runs config labels s history) : Portioned s history := by
  induction hrun with
  | start => exact ⟨rfl, fun _ => rfl, (BatcherConfig.sizes_pos hvalid).1, by simp⟩
  | step hrun hstep ih => exact ih.step hrun.locked hrun.asked (State.move_of_step hstep)

/-- In every run less than a batch is pending. -/
lemma Runs.short {config : BatcherConfig} (hvalid : config.validate = .ok ())
    {labels : List (Label α)} {s : State α} {history : List (Event α)}
    (hrun : Runs config labels s history) : s.pending.length < config.batchSize.toNat := by
  rw [← hrun.config_eq]
  exact (hrun.portioned hvalid).short

/-- In every run calls that enqueue form full batches, and other calls form smaller ones. -/
lemma Runs.sized {config : BatcherConfig} (hvalid : config.validate = .ok ())
    {labels : List (Label α)} {s : State α} {history : List (Event α)}
    (hrun : Runs config labels s history) {call : Nat} {batch : Batch α}
    (h : .formed call batch ∈ history) :
    ∃ request, .began call request ∈ history ∧
      request.Sizes config.batchSize.toNat batch.items.length := by
  rw [← hrun.config_eq]
  exact (hrun.portioned hvalid).sized h

/-- No batch is empty. -/
lemma Runs.items_ne_nil {config : BatcherConfig} (hvalid : config.validate = .ok ())
    {labels : List (Label α)} {s : State α} {history : List (Event α)}
    (hrun : Runs config labels s history) {batch : Batch α} (h : batch ∈ formed history) :
    batch.items ≠ [] := by
  obtain ⟨call, hcall⟩ := mem_formed.mp h
  obtain ⟨request, -, hsizes⟩ := hrun.sized hvalid hcall
  exact List.ne_nil_of_length_pos (hsizes.pos (BatcherConfig.sizes_pos hvalid).1)

end BulkWrite.Batcher
