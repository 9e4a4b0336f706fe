import BulkWrite.Proofs.Batcher.Phase

/-!
# The pending list has one owner

Calls queue for the pending list, and the first one in the queue has it. A call that waits for room
in the queue of batches has the pending list all the while (`Locked.sender_first`), so there is at
most one such call, and a shutdown, which needs the list to close the queue, never closes it while a
batch is on its way there (`Locked.sender_open`).
-/

namespace BulkWrite.Batcher

variable {α : Type}

lemma State.lock_head_of_holds {s : State α} {call : Nat} (h : s.holds call) :
    s.lock.head? = some call := by
  simpa [State.holds] using h

/-- Whoever waits for room in the queue of batches has the pending list. -/
structure Locked (s : State α) : Prop where
  sender_first {call : Nat} {batch : Batch α} {rest : Rest α} :
    s.calls[call]? = some (.sending batch rest) → s.lock.head? = some call
  sender_open {call : Nat} {batch : Batch α} {rest : Rest α} :
    s.calls[call]? = some (.sending batch rest) → s.closed = false

namespace Locked

variable {s t u : State α} {call other : Nat} {label : Label α} {events : List (Event α)}

/-- At most one call has a batch in hand. -/
lemma sender_unique (h : Locked s) {batch batch' : Batch α} {rest rest' : Rest α}
    (hcall : s.calls[call]? = some (.sending batch rest))
    (hother : s.calls[other]? = some (.sending batch' rest')) : call = other := by
  have hfirst := h.sender_first hcall
  rw [h.sender_first hother] at hfirst
  exact (Option.some.inj hfirst).symm

/-- No call that pushes or cuts items lets another one have a batch in hand. -/
lemma not_sending_of_holds (h : Locked s) (holds : s.holds call) (hne : other ≠ call)
    {batch : Batch α} {rest : Rest α} : s.calls[other]? ≠ some (.sending batch rest) := by
  intro hother
  have hfirst := h.sender_first hother
  rw [State.lock_head_of_holds holds] at hfirst
  exact hne (Option.some.inj hfirst).symm

/-- While a call pushes, no other call has a batch in hand. -/
lemma not_sending_of_pushing (h : Locked s) {phase : Phase α} {items : List α}
    (at_phase : s.calls[call]? = some phase) (pushing : Pushing s call phase u items)
    (hne : other ≠ call) {batch : Batch α} {rest : Rest α} :
    s.calls[other]? ≠ some (.sending batch rest) := by
  cases pushing with
  | entered holds isOpen => exact h.not_sending_of_holds holds hne
  | sent served room => exact fun hother => hne (h.sender_unique hother at_phase)

lemma head_erase {lock : List Nat} (h : lock.head? = some other) (hne : other ≠ call) :
    (lock.erase call).head? = some other := by
  cases lock with
  | nil => cases h
  | cons first lock =>
    obtain rfl : first = other := Option.some.inj h
    rw [List.erase_cons_tail (by simpa using hne)]
    rfl

lemma head_append {lock : List Nat} (h : lock.head? = some other) :
    (lock ++ [call]).head? = some other := by
  cases lock with
  | nil => cases h
  | cons first lock => exact h

lemma initial (config : BatcherConfig) : Locked (State.initial (α := α) config) := by
  constructor <;> intro call batch rest hcall <;> simp [State.initial] at hcall

/-- A call that comes to wait for room has the pending list of an open batcher. -/
lemma of_turn (h : Locked s) {phase : Phase α} {batch : Batch α} {rest : Rest α}
    (at_phase : s.calls[call]? = some phase)
    (turn : CallTurn s call label phase (.sending batch rest) u events) :
    u.lock.head? = some call ∧ u.closed = false := by
  cases turn with
  | filled pushing full =>
    cases pushing with
    | entered holds isOpen => exact ⟨State.lock_head_of_holds holds, isOpen⟩
    | sent served room => exact ⟨h.sender_first at_phase, h.sender_open at_phase⟩
  | cut holds isOpen nonempty => exact ⟨State.lock_head_of_holds holds, isOpen⟩

/-- The turn of another call does not take the pending list from one that has a batch in hand. -/
lemma of_turn_other (h : Locked s) {phase next : Phase α} {batch : Batch α} {rest : Rest α}
    (at_phase : s.calls[call]? = some phase) (turn : CallTurn s call label phase next u events)
    (hne : other ≠ call) (hother : s.calls[other]? = some (.sending batch rest)) :
    u.lock.head? = some other ∧ u.closed = false := by
  have hfirst := h.sender_first hother
  have hopen := h.sender_open hother
  -- a turn that needs the pending list, or gives it back, cannot be that of another call
  cases turn with
  | pushed pushing | filled pushing =>
    exact absurd hother (h.not_sending_of_pushing at_phase pushing hne)
  | shutOut holds | swept holds | discarded holds | cut holds | closed holds | closedAgain holds =>
    exact absurd hother (h.not_sending_of_holds holds hne)
  | refusedPush | refusedFlush | sent | abandoned =>
    exact absurd (h.sender_unique hother at_phase) hne
  | drained idle => exact ⟨head_append hfirst, hopen⟩
  | leftList => exact ⟨head_erase hfirst hne, hopen⟩
  | flushed | parked | unparked | collected | collectedAgain | joined | awaited | expired
  | leftDrain | leftJoin =>
    exact ⟨hfirst, hopen⟩

lemma step (h : Locked s) (move : Move s label t events) : Locked t := by
  have key {other : Nat} {batch : Batch α} {rest : Rest α}
      (hother : t.calls[other]? = some (.sending batch rest)) :
      t.lock.head? = some other ∧ t.closed = false := by
    cases move with
    | begun request =>
      -- the new call goes to the end of the line
      have hold := State.sending_of_begun hother
      exact ⟨head_append (h.sender_first hold), h.sender_open hold⟩
    | @call call label phase next u events at_phase turn =>
      rcases State.sending_of_setCall turn.calls_eq hother with ⟨rfl, rfl⟩ | ⟨hne, hold⟩
      · show u.lock.head? = some other ∧ u.closed = false
        exact h.of_turn at_phase turn
      · show u.lock.head? = some other ∧ u.closed = false
        exact h.of_turn_other at_phase turn hne hold
    | worker at_point turn =>
      cases turn <;> exact ⟨h.sender_first hother, h.sender_open hother⟩
    | dispatcher turn =>
      have hold := State.sending_of_woken turn.calls_eq hother
      cases turn <;> exact ⟨h.sender_first hold, h.sender_open hold⟩
  exact ⟨fun hcall => (key hcall).1, fun hcall => (key hcall).2⟩

end Locked

/-- In every run, whoever waits for room in the queue of batches has the pending list. -/
theorem Runs.locked {config : BatcherConfig} {labels : List (Label α)} {s : State α}
    {history : List (Event α)} (hrun : Runs config labels s history) : Locked s := by
  induction hrun with
  | start => exact .initial config
  | step hrun hstep ih => exact ih.step (State.move_of_step hstep)

end BulkWrite.Batcher
