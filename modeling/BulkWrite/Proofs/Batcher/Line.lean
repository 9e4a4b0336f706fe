import Mathlib.Data.List.Nodup
import BulkWrite.Proofs.Batcher.Phase

/-!
# The line for the pending list

A call stands in the line for the pending list from its beginning until it gives the list back, and
no call stands there twice (`Lined`). So the list is free exactly when no call waits for it and none
has a batch in hand; otherwise the first in the line is a call that can go on, or one that waits for
room in the queue.
-/

namespace BulkWrite.Batcher

variable {α : Type}

/-- A call at this point waits for the pending list, or has it. -/
def Phase.inLine : Phase α → Bool
  | .queued _ | .sending _ _ => true
  | _ => false

@[simp]
lemma inLine_wakeCall (phase : Phase α) : (State.wakeCall phase).inLine = phase.inLine := by
  cases phase <;> rfl

/-- What a turn of a call does to the line: nothing, or the call leaves it, or joins it again. -/
lemma CallTurn.lock_eq {s u : State α} {call : Nat} {label : Label α} {phase next : Phase α}
    {events : List (Event α)} (turn : CallTurn s call label phase next u events) :
    (u.lock = s.lock ∧ next.inLine = phase.inLine) ∨
      (u.lock = s.lock.erase call ∧ phase.inLine = true ∧ next.inLine = false) ∨
      (u.lock = s.lock ++ [call] ∧ phase.inLine = false ∧ next.inLine = true) := by
  cases turn with
  | pushed pushing short => cases pushing <;> exact .inr (.inl ⟨rfl, rfl, rfl⟩)
  | filled pushing full => cases pushing <;> exact .inl ⟨rfl, rfl⟩
  | cut | flushed | parked | unparked | collected | collectedAgain | joined | awaited | expired
  | leftDrain | leftJoin => exact .inl ⟨rfl, rfl⟩
  | shutOut | swept | discarded | closed | closedAgain | refusedPush | refusedFlush | sent
  | leftList | abandoned => exact .inr (.inl ⟨rfl, rfl, rfl⟩)
  | drained => exact .inr (.inr ⟨rfl, rfl, rfl⟩)

/-- Who stands in the line for the pending list. -/
structure Lined (s : State α) : Prop where
  nodup : s.lock.Nodup
  mem_iff (call : Nat) : call ∈ s.lock ↔ s.calls[call]?.any Phase.inLine = true

namespace Lined

variable {s t u : State α} {call : Nat} {label : Label α} {events : List (Event α)}

lemma initial (config : BatcherConfig) : Lined (State.initial (α := α) config) :=
  ⟨List.nodup_nil, fun call => by simp [State.initial]⟩

/-- A call that does not stand in the line can join it. -/
lemma nodup_append (h : Lined s) (hout : call ∉ s.lock) : (s.lock ++ [call]).Nodup := by
  rw [← List.concat_eq_append]
  exact h.nodup.concat hout

/-- The turn of a call decides whether it stands in the line, and nobody else's place changes. -/
lemma any_setCall {phase : Phase α} (at_phase : s.calls[call]? = some phase)
    (hcalls : u.calls = s.calls ∨ u.calls = s.calls.map State.wakeCall) (next : Phase α)
    (other : Nat) :
    (u.setCall call next).calls[other]?.any Phase.inLine =
      if other = call then next.inLine else s.calls[other]?.any Phase.inLine := by
  by_cases hother : other = call
  · rw [if_pos hother, hother, State.setCall_self hcalls at_phase]
    rfl
  · rw [if_neg hother, State.setCall, List.getElem?_set_ne (Ne.symm hother)]
    rcases hcalls with hcalls | hcalls
    · rw [hcalls]
    · rw [hcalls, List.getElem?_map, Option.any_map]
      simp only [inLine_wakeCall]

lemma of_call (h : Lined s) {phase next : Phase α} (at_phase : s.calls[call]? = some phase)
    (turn : CallTurn s call label phase next u events) : Lined (u.setCall call next) := by
  have hself : s.calls[call]?.any Phase.inLine = phase.inLine := by rw [at_phase]; rfl
  have hany := any_setCall at_phase turn.calls_eq next
  have hmem (other : Nat) : other ∈ s.lock ↔ s.calls[other]?.any Phase.inLine = true :=
    h.mem_iff other
  rcases turn.lock_eq with ⟨hlock, hline⟩ | ⟨hlock, -, hnext⟩ | ⟨hlock, hphase, hnext⟩
  · -- the call stays in the line, or out of it
    refine ⟨?_, fun other => ?_⟩
    · show u.lock.Nodup
      exact hlock ▸ h.nodup
    · show other ∈ u.lock ↔ _
      rw [hany, hlock, hmem]
      by_cases hother : other = call
      · rw [if_pos hother, hother, hself, hline]
      · rw [if_neg hother]
  · -- it leaves the line
    refine ⟨?_, fun other => ?_⟩
    · show u.lock.Nodup
      exact hlock ▸ h.nodup.erase call
    · show other ∈ u.lock ↔ _
      rw [hany, hlock, h.nodup.mem_erase_iff, hmem]
      by_cases hother : other = call <;> simp [hother, hnext]
  · -- it comes to the end of the line, again
    have hout : call ∉ s.lock := by
      rw [hmem, hself, hphase]
      simp
    refine ⟨?_, fun other => ?_⟩
    · show u.lock.Nodup
      exact hlock ▸ h.nodup_append hout
    · show other ∈ u.lock ↔ _
      rw [hany, hlock, List.mem_append, List.mem_singleton, hmem]
      by_cases hother : other = call <;> simp [hother, hnext]

lemma step (h : Lined s) (move : Move s label t events) : Lined t := by
  cases move with
  | begun request =>
    have hout : s.calls.length ∉ s.lock := by simp [h.mem_iff]
    refine ⟨h.nodup_append hout, fun call => ?_⟩
    rw [List.mem_append, List.mem_singleton, h.mem_iff, List.getElem?_append]
    by_cases hlt : call < s.calls.length
    · simp [hlt, Nat.ne_of_lt hlt]
    · by_cases heq : call = s.calls.length
      · simp [heq, Phase.inLine]
      · have hgt : ¬call - s.calls.length < 1 := by omega
        simp [hlt, heq, hgt]
  | call at_phase turn => exact h.of_call at_phase turn
  | worker at_point turn =>
    cases turn <;> exact ⟨h.nodup, h.mem_iff⟩
  | dispatcher turn =>
    cases turn with
    | woken waking =>
      refine ⟨h.nodup, fun call => ?_⟩
      simp only [State.wakeCalls, List.getElem?_map, Option.any_map, inLine_wakeCall]
      exact h.mem_iff call
    | _ => exact ⟨h.nodup, h.mem_iff⟩

end Lined

/-- The line of every run. -/
theorem Runs.lined {config : BatcherConfig} {labels : List (Label α)} {s : State α}
    {history : List (Event α)} (hrun : Runs config labels s history) : Lined s := by
  induction hrun with
  | start => exact .initial config
  | step hrun hstep ih => exact ih.step (State.move_of_step hstep)

end BulkWrite.Batcher
