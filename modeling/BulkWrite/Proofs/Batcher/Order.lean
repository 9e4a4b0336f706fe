import BulkWrite.Proofs.Batcher.Ledger
import BulkWrite.Proofs.Batcher.Pending

/-!
# Order

Nothing overtakes in a batcher. The batches that were taken, those in the queue and the one that
waits for room in it are, in this order, among the batches formed (`InOrder`); so workers take
batches in the order of their numbers. And the items that a call pushed stand together
(`Grouped.together`), because a call that is not done with pushing has the pending list for itself:
its items are the last ones (`Grouped.last`).
-/

namespace BulkWrite.Batcher

open History

variable {α : Type}

/-! ## Batches -/

/-- The batches on their way to the workers are in the order in which they were formed. -/
structure InOrder (s : State α) (history : List (Event α)) : Prop where
  queued : (taken history ++ s.queue).Sublist (formed history)
  /-- The batch that waits for room is behind those in the queue. -/
  waiting {call : Nat} {batch : Batch α} {rest : Rest α} :
    s.calls[call]? = some (.sending batch rest) →
      (taken history ++ s.queue ++ [batch]).Sublist (formed history)

namespace InOrder

variable {s t u : State α} {call worker : Nat} {label : Label α} {history events : List (Event α)}

/-- The batch in the hand of a call after its turn is the one that it has just formed. -/
lemma formed_of_turn {phase : Phase α} {batch : Batch α} {rest : Rest α}
    (turn : CallTurn s call label phase (.sending batch rest) u events) :
    formed events = [batch] := by
  cases turn <;> rfl

lemma of_call (h : InOrder s history) (hlocked : Locked s) {phase next : Phase α}
    (at_phase : s.calls[call]? = some phase) (turn : CallTurn s call label phase next u events) :
    InOrder (u.setCall call next) (history ++ events) := by
  have htaken : taken (history ++ events) = taken history := by
    cases turn <;> simp
  have hgrows : (formed history).Sublist (formed (history ++ events)) := by
    rw [Projection.append]
    exact List.sublist_append_left _ _
  have hqueued : (taken history ++ u.queue).Sublist (formed history) := by
    rcases turn.queue_eq with hqueue | ⟨batch, rest, rfl, -, hqueue⟩
    · rw [hqueue]
      exact h.queued
    · rw [hqueue, ← List.append_assoc]
      exact h.waiting at_phase
  constructor
  case queued =>
    rw [htaken]
    exact hqueued.trans hgrows
  case waiting =>
    intro other batch rest hother
    rw [htaken]
    rcases State.sending_of_setCall turn.calls_eq hother with ⟨rfl, rfl⟩ | ⟨hne, hold⟩
    · rw [Projection.append, formed_of_turn turn]
      exact hqueued.append (List.Sublist.refl _)
    · rcases turn.queue_eq with hqueue | ⟨batch', rest', rfl, -⟩
      · -- the queue is as before, so the batch of the other call is still behind it
        show (taken history ++ u.queue ++ [batch]).Sublist _
        rw [hqueue]
        exact (h.waiting hold).trans hgrows
      · exact absurd (hlocked.sender_unique hold at_phase) hne

lemma of_worker (h : InOrder s history) {w next : Worker α}
    (turn : WorkerTurn s worker label w next u events) :
    InOrder (u.setWorker worker next) (history ++ events) := by
  have hformed : formed (history ++ events) = formed history := by
    cases turn <;> simp
  -- a batch goes from the head of the queue to the end of those taken; or the queue is dropped
  have hqueue : (taken (history ++ events) ++ u.queue).Sublist (taken history ++ s.queue) := by
    cases turn with
    | taken head => simp [head]
    | _ => simp
  constructor
  case queued =>
    rw [hformed]
    exact hqueue.trans h.queued
  case waiting =>
    intro call batch rest hcall
    have hold : s.calls[call]? = some (.sending batch rest) := turn.calls_eq ▸ hcall
    rw [hformed]
    exact (hqueue.append (List.Sublist.refl _)).trans (h.waiting hold)

lemma of_dispatcher (h : InOrder s history) (turn : DispatcherTurn s label t events) :
    InOrder t (history ++ events) := by
  have hformed : formed (history ++ events) = formed history := by
    cases turn <;> simp
  have htaken : taken (history ++ events) = taken history := by
    cases turn <;> simp
  have hqueue : t.queue = s.queue := by cases turn <;> rfl
  constructor
  case queued =>
    rw [hformed, htaken, hqueue]
    exact h.queued
  case waiting =>
    intro call batch rest hcall
    rw [hformed, htaken, hqueue]
    exact h.waiting (State.sending_of_woken turn.calls_eq hcall)

lemma step (h : InOrder s history) (hlocked : Locked s) (move : Move s label t events) :
    InOrder t (history ++ events) := by
  cases move with
  | begun request =>
    have hformed (call : Nat) : formed (history ++ [.began call request]) = formed history := by
      simp
    have htaken (call : Nat) : taken (history ++ [.began call request]) = taken history := by
      simp
    constructor
    case queued =>
      rw [hformed, htaken]
      exact h.queued
    case waiting =>
      intro call batch rest hcall
      rw [hformed, htaken]
      exact h.waiting (State.sending_of_begun hcall)
  | call at_phase turn => exact h.of_call hlocked at_phase turn
  | worker at_point turn => exact h.of_worker turn
  | dispatcher turn => exact h.of_dispatcher turn

end InOrder

/-- Workers take batches in the order in which they were formed. -/
theorem Runs.inOrder {config : BatcherConfig} {labels : List (Label α)} {s : State α}
    {history : List (Event α)} (hrun : Runs config labels s history) : InOrder s history := by
  induction hrun with
  | start => exact ⟨.refl _, by simp [State.initial]⟩
  | step hrun hstep ih => exact ih.step hrun.locked (State.move_of_step hstep)

/-- The batches that were taken were formed, in this order. -/
lemma Runs.taken_sublist {config : BatcherConfig} {labels : List (Label α)} {s : State α}
    {history : List (Event α)} (hrun : Runs config labels s history) :
    (taken history).Sublist (formed history) :=
  (List.sublist_append_left _ _).trans hrun.inOrder.queued

/-- Workers take batches in the order of their numbers. -/
lemma Runs.taken_lt {config : BatcherConfig} {labels : List (Label α)} {s : State α}
    {history : List (Event α)} (hrun : Runs config labels s history) :
    ((taken history).map Batch.sequence).Pairwise (· < ·) := by
  have hnumbers := hrun.balanced.numbered
  have hsorted : (numbers history).Pairwise (· < ·) := hnumbers ▸ List.pairwise_lt_range
  exact hsorted.sublist (hrun.taken_sublist.map Batch.sequence)

/-! ## Items -/

/-- The items of each call stand together among all that were pushed. -/
structure Grouped (s : State α) (history : List (Event α)) : Prop where
  together (call : Nat) : ∃ before after,
    pushes history = before ++ (pushedBy call history).map (call, ·) ++ after ∧
      ∀ entry ∈ before ++ after, entry.1 ≠ call
  /-- The items of a call that has more to push are the last ones. -/
  last {call : Nat} {batch : Batch α} {items : List α} :
    s.calls[call]? = some (.sending batch (.enqueue items)) →
      ∃ before, pushes history = before ++ (pushedBy call history).map (call, ·) ∧
        ∀ entry ∈ before, entry.1 ≠ call

namespace Grouped

variable {s t u : State α} {call : Nat} {label : Label α} {history events : List (Event α)}

/-- In its turn a call pushes no items, or pushes some at once. -/
lemma pushes_of_turn {phase next : Phase α} (turn : CallTurn s call label phase next u events) :
    pushes events = [] ∨ ∃ (v : State α) (items pushed : List α),
      Pushing s call phase v items ∧ pushes events = pushed.map (call, ·) ∧
        pushedBy call events = pushed := by
  cases turn with
  | @pushed phase v items pushing short =>
    exact .inr ⟨v, items, items, pushing, by simp,
      by simp⟩
  | @filled phase v pushed rest pushing full =>
    exact .inr ⟨v, pushed ++ rest, pushed, pushing, by simp,
      by simp⟩
  | _ => exact .inl (by simp)

/-- A call that has not pushed an item marks none. -/
lemma ne_of_pushedBy_eq_nil (h : pushedBy call history = []) :
    ∀ entry ∈ pushes history, entry.1 ≠ call := by
  rw [pushedBy_eq, List.map_eq_nil_iff, List.filter_eq_nil_iff] at h
  exact fun entry hentry => by simpa using h entry hentry

/-- The items of a call that is about to push more are the last ones. -/
lemma last_of_pushing (h : Grouped s history) (hasked : Asked s history) {phase : Phase α}
    {items : List α} (at_phase : s.calls[call]? = some phase)
    (pushing : Pushing s call phase u items) :
    ∃ before, pushes history = before ++ (pushedBy call history).map (call, ·) ∧
      ∀ entry ∈ before, entry.1 ≠ call := by
  cases pushing with
  | entered holds isOpen =>
    obtain ⟨request, -, -, hnone⟩ := hasked.serves at_phase
    rw [hnone]
    exact ⟨pushes history, by simp, ne_of_pushedBy_eq_nil hnone⟩
  | sent served room => exact h.last at_phase

lemma of_call (h : Grouped s history) (hlocked : Locked s) (hasked : Asked s history)
    {phase next : Phase α} (at_phase : s.calls[call]? = some phase)
    (turn : CallTurn s call label phase next u events) :
    Grouped (u.setCall call next) (history ++ events) := by
  constructor
  case together =>
    intro other
    by_cases heq : other = call
    · -- the call of the turn adds to its own items, which are the last ones
      subst heq
      rcases pushes_of_turn turn with hnone | ⟨v, items, pushed, pushing, hpushes, hown⟩
      · have hown : pushedBy other events = [] := by rw [pushedBy_eq, hnone]; rfl
        rw [Projection.append, Projection.append, hnone, hown, List.append_nil, List.append_nil]
        exact h.together other
      · obtain ⟨before, hlast, hbefore⟩ := h.last_of_pushing hasked at_phase pushing
        refine ⟨before, [], ?_, by simpa using hbefore⟩
        rw [Projection.append, Projection.append, hpushes, hown, hlast]
        simp
    · -- any other call finds more items behind its own
      obtain ⟨before, after, hsplit, hothers⟩ := h.together other
      refine ⟨before, after ++ pushes events, ?_, ?_⟩
      · rw [Projection.append, Projection.append, pushedBy_of_caller (turn.caller_ne heq), hsplit]
        simp
      · have hevents := ne_of_pushedBy_eq_nil (pushedBy_of_caller (turn.caller_ne heq))
        intro entry hentry
        simp only [List.mem_append] at hentry
        rcases hentry with hentry | hentry | hentry
        · exact hothers entry (List.mem_append_left _ hentry)
        · exact hothers entry (List.mem_append_right _ hentry)
        · exact hevents entry hentry
  case last =>
    intro other batch items hother
    rcases State.sending_of_setCall turn.calls_eq hother with ⟨rfl, rfl⟩ | ⟨hne, hold⟩
    · cases turn with
      | @filled phase u pushed rest pushing full =>
        obtain ⟨before, hlast, hbefore⟩ := h.last_of_pushing hasked at_phase pushing
        refine ⟨before, ?_, hbefore⟩
        simp [hlast]
    · rcases pushes_of_turn turn with hnone | ⟨v, rest, pushed, pushing, -, -⟩
      · rw [Projection.append, Projection.append, pushedBy_of_caller (turn.caller_ne hne), hnone,
          List.append_nil, List.append_nil]
        exact h.last hold
      · exact absurd hold (hlocked.not_sending_of_pushing at_phase pushing hne)

/-- Where nothing is pushed, the items stay as they are. -/
lemma of_task (h : Grouped s history) (hpushes : pushes events = [])
    (hcalls : ∀ {call : Nat} {batch : Batch α} {rest : Rest α},
      t.calls[call]? = some (.sending batch rest) → s.calls[call]? = some (.sending batch rest)) :
    Grouped t (history ++ events) := by
  have hown (call : Nat) : pushedBy call events = [] := by rw [pushedBy_eq, hpushes]; rfl
  constructor
  case together =>
    intro call
    rw [Projection.append, Projection.append, hpushes, hown, List.append_nil, List.append_nil]
    exact h.together call
  case last =>
    intro call batch items hcall
    rw [Projection.append, Projection.append, hpushes, hown, List.append_nil, List.append_nil]
    exact h.last (hcalls hcall)

lemma step (h : Grouped s history) (hlocked : Locked s) (hasked : Asked s history)
    (move : Move s label t events) : Grouped t (history ++ events) := by
  cases move with
  | begun request =>
    exact h.of_task rfl State.sending_of_begun
  | call at_phase turn => exact h.of_call hlocked hasked at_phase turn
  | worker at_point turn =>
    refine h.of_task ?_ fun hcall => turn.calls_eq ▸ hcall
    cases turn <;> simp
  | dispatcher turn =>
    refine h.of_task ?_ (State.sending_of_woken turn.calls_eq)
    cases turn <;> rfl

end Grouped

/-- In every run the items of each call stand together. -/
theorem Runs.grouped {config : BatcherConfig} {labels : List (Label α)} {s : State α}
    {history : List (Event α)} (hrun : Runs config labels s history) : Grouped s history := by
  induction hrun with
  | start => exact ⟨fun call => ⟨[], [], rfl, by simp⟩, by simp [State.initial]⟩
  | step hrun hstep ih => exact ih.step hrun.locked hrun.asked (State.move_of_step hstep)

end BulkWrite.Batcher
